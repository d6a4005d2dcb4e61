import PageAid.Number.Binary

/-!
The shortest decimal numeral of a binary number: the fewest digits that read back as the number,
and of those the ones nearest to it. Layouts of the digits: positional, and positional within
bounds with an exponent beyond them.
-/

namespace PageAid.Number

/-- The digits of a positive decimal, most significant first, as the number
`0.d₁d₂… * 10 ^ point`. -/
structure Digits where
  digits : List Char
  point : Int
deriving DecidableEq, Repr

/-- A positive number `num / den` with the distances, over the same denominator, down to and up to
the ends of the interval of numbers that round to it; `closed` says that the ends belong to it. -/
structure Rounding where
  num : Nat
  den : Nat
  below : Nat
  above : Nat
  closed : Bool

def Rounding.of (significand : Nat) (exponent : Int) (atPower : Bool) : Rounding :=
  let scale := Nat.pow 2 exponent.toNat
  { num := 4 * significand * scale
    den := 4 * Nat.pow 2 (-exponent).toNat
    below := if atPower then scale else 2 * scale
    above := 2 * scale
    closed := significand % 2 == 0 }

/-- The decimal place of the leading digit: the least `k` among a few near the estimate with
`num / den < 10 ^ k`. -/
def Rounding.place (r : Rounding) : Int :=
  let estimate : Int := (((r.num.log2 : Int) - r.den.log2) * 30103).fdiv 100000
  let fits (k : Int) : Bool :=
    r.num * Nat.pow 10 (-k).toNat < r.den * Nat.pow 10 k.toNat
  ([estimate - 1, estimate, estimate + 1, estimate + 2].find? fits).getD (estimate + 3)

def Rounding.holds (r : Rounding) (c : Nat) (p : Int) : Bool :=
  let x := c * r.den * Nat.pow 10 p.toNat
  let up := Nat.pow 10 (-p).toNat
  if r.closed then (r.num - r.below) * up ≤ x && x ≤ (r.num + r.above) * up
  else (r.num - r.below) * up < x && x < (r.num + r.above) * up

def Rounding.onGrid? (tie : Tie) (r : Rounding) (p : Int) : Option Nat :=
  let unit := r.den * Nat.pow 10 p.toNat
  let x := r.num * Nat.pow 10 (-p).toNat
  let low := x / unit
  match r.holds low p, r.holds (low + 1) p with
  | true, true => some (roundDiv tie x unit)
  | true, false => some low
  | false, true => some (low + 1)
  | false, false => none

def significantDigits (n : Nat) : List Char :=
  ((Nat.toDigits 10 n).reverse.dropWhile (· == '0')).reverse

/-- The shortest digits of a positive number: the coarsest decimal grid with a point in the
interval that rounds to the number. Seventeen digits always suffice. -/
def shortest (tie : Tie) (significand : Nat) (exponent : Int) (atPower : Bool) : Digits :=
  let r := Rounding.of significand exponent atPower
  let k := r.place
  let found := (List.range 17).findSome? fun (n : Nat) =>
    (r.onGrid? tie (k - 1 - n)).map fun c => (c, k - 1 - n)
  match found with
  | some (c, p) => ⟨significantDigits c, (Nat.toDigits 10 c).length + p⟩
  | none => ⟨['0'], 1⟩

def Digits.positional (d : Digits) : List Char :=
  if d.point ≤ 0 then ['0', '.'] ++ List.replicate (-d.point).toNat '0' ++ d.digits
  else
    let whole := d.point.toNat
    if d.digits.length ≤ whole then d.digits ++ List.replicate (whole - d.digits.length) '0'
    else d.digits.take whole ++ '.' :: d.digits.drop whole

def Digits.scientific (d : Digits) : List Char :=
  let e := d.point - 1
  d.digits.take 1 ++ (if d.digits.length ≤ 1 then [] else '.' :: d.digits.drop 1) ++
    ['e', if e < 0 then '-' else '+'] ++ Nat.toDigits 10 e.natAbs

/-- Text of a number in positional form, `inf` and `NaN` for those without digits. Of two texts
that are equally near the one farther from zero is taken. -/
def Parts.plain : Parts → String
  | .finite negative significand exponent atPower =>
    let body :=
      if significand == 0 then ['0']
      else (shortest .away significand exponent atPower).positional
    String.ofList (if negative then '-' :: body else body)
  | .infinite negative => if negative then "-inf" else "inf"
  | .notANumber => "NaN"

def plain (x : Float) : String := (parts x).plain

def plain32 (x : Float32) : String := (parts32 x).plain

/-- Text of a finite number as a JSON document holds it: positional from `10 ^ -5` up to below
`10 ^ 16` and always with a point, else with an exponent. Of two texts that are equally near the
one with an even last digit is taken. -/
def documentText (x : Float) : List Char :=
  match parts x with
  | .finite negative significand exponent atPower =>
    let body :=
      if significand == 0 then ['0', '.', '0']
      else
        let d := shortest .toEven significand exponent atPower
        if -5 < d.point && d.point ≤ 16 then
          let text := d.positional
          if text.contains '.' then text else text ++ ['.', '0']
        else d.scientific
    if negative then '-' :: body else body
  | _ => ['n', 'u', 'l', 'l']

end PageAid.Number
