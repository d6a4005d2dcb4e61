/-!
Binary floating-point numbers taken apart: sign, significand and power of two, read off the bits.
Exact arithmetic on the parts is arithmetic of natural numbers.
-/

namespace PageAid.Number

/-- A binary interchange format: how many bits hold the fraction and how many the exponent. -/
structure Layout where
  fractionBits : Nat
  exponentBits : Nat

def Layout.double : Layout := ⟨52, 11⟩

def Layout.single : Layout := ⟨23, 8⟩

/-- What a bit pattern stands for. A finite number is `significand * 2 ^ exponent`, negated when
`negative`; `atPower` says that the number below it is only half as far away as the one above. -/
inductive Parts where
  | finite (negative : Bool) (significand : Nat) (exponent : Int) (atPower : Bool)
  | infinite (negative : Bool)
  | notANumber
deriving DecidableEq, Repr

def Layout.parts (l : Layout) (bits : Nat) : Parts :=
  let hidden := Nat.pow 2 l.fractionBits
  let fraction := bits % hidden
  let biased := bits / hidden % Nat.pow 2 l.exponentBits
  let negative := bits / Nat.pow 2 (l.fractionBits + l.exponentBits) % 2 == 1
  let bias : Int := (Nat.pow 2 (l.exponentBits - 1) : Int) - 1 + l.fractionBits
  if biased + 1 == Nat.pow 2 l.exponentBits then
    if fraction == 0 then .infinite negative else .notANumber
  else if biased == 0 then .finite negative fraction (1 - bias) false
  else .finite negative (hidden + fraction) (biased - bias)
    (fraction == 0 && biased != 1)

def parts (x : Float) : Parts := Layout.double.parts x.toBits.toNat

def parts32 (x : Float32) : Parts := Layout.single.parts x.toBits.toNat

inductive Tie where
  | toEven
  | away

def roundDiv (tie : Tie) (num den : Nat) : Nat :=
  let q := num / den
  let twice := 2 * (num % den)
  if twice < den then q
  else if den < twice then q + 1
  else match tie with
    | .toEven => q + q % 2
    | .away => q + 1

def roundScaled (tie : Tie) (significand : Nat) (exponent : Int) (factor : Nat) : Nat :=
  if 0 ≤ exponent then significand * Nat.pow 2 exponent.toNat * factor
  else roundDiv tie (significand * factor) (Nat.pow 2 (-exponent).toNat)

/-- The whole number nearest to `x`, ties away from zero, with the sign of `x`. -/
def roundHalfAway (x : Float) : Float :=
  match parts x with
  | .finite negative significand exponent _ =>
    if 0 ≤ exponent then x
    else
      let magnitude := (roundScaled .away significand exponent 1).toUInt64.toFloat
      if negative then -magnitude else magnitude
  | _ => x

end PageAid.Number
