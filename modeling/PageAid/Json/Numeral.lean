import PageAid.Json.Basic
import PageAid.Text.Digit

/-!
Reading numerals. The digits of a numeral that fit into 64 bits make up its significand; a numeral
with a fraction or an exponent, or out of the range of whole numbers, is the significand scaled by
a power of ten in one binary multiplication or division.
-/

namespace PageAid.Json

def maxSignificand : Nat := 0xFFFFFFFFFFFFFFFF

def maxExponent : Nat := 0x7FFFFFFF

def powerOfTen (n : Nat) : Float := OfScientific.ofScientific 1 false n

/-- `x / 10 ^ n`, in steps of the greatest power of ten that has a binary form. -/
def scaledDown (x : Float) (n : Nat) : Float :=
  if n ≤ 308 then x / powerOfTen n
  else if x == 0.0 then x
  else scaledDown (x / powerOfTen 308) (n - 308)
termination_by n

def scaled? (significand : Nat) (exponent : Int) : Option Float :=
  let x := significand.toUInt64.toFloat
  if exponent < 0 then some (scaledDown x (-exponent).toNat)
  else if exponent ≤ 308 then
    let y := x * powerOfTen exponent.toNat
    if y.isInf then none else some y
  else if significand == 0 then some x else none

/-- Reads digits into a significand for as long as it fits. Result: the significand, the number of
digits read into it and the number of digits left out. -/
def significandOf (start : Nat) (digits : List Nat) : Nat × Nat × Nat :=
  match digits with
  | [] => (start, 0, 0)
  | d :: r =>
    if 10 * start + d ≤ maxSignificand then
      let (n, read, left) := significandOf (10 * start + d) r
      (n, read + 1, left)
    else (start, 0, digits.length)

structure NumeralText where
  negative : Bool
  whole : List Nat
  fraction : Option (List Nat)
  exponent : Option (Bool × List Nat)

def digitRun : List Char → List Nat × List Char
  | [] => ([], [])
  | c :: r =>
    match Text.asciiDigit? c with
    | some d => let (ds, rest) := digitRun r; (d :: ds, rest)
    | none => ([], c :: r)

def exponentOf? (s : List Char) : Option (Bool × List Nat) :=
  let (negative, s) := match s with
    | '-' :: r => (true, r)
    | '+' :: r => (false, r)
    | _ => (false, s)
  match digitRun s with
  | ([], _) => none
  | (ds, []) => some (negative, ds)
  | _ => none

/-- The digits after a point, at least one, if the rest of a numeral begins with a point. -/
def fractionOf? : List Char → Option (Option (List Nat) × List Char)
  | '.' :: r =>
    match digitRun r with
    | ([], _) => none
    | (ds, rest) => some (some ds, rest)
  | s => some (none, s)

/-- Takes a numeral apart after its sign: no leading zeros, and at least one digit in each place. -/
def NumeralText.unsigned? (negative : Bool) (s : List Char) : Option NumeralText :=
  let (whole, s) := digitRun s
  if whole.isEmpty || (1 < whole.length && whole.head? == some 0) then none
  else
    (fractionOf? s).bind fun (fraction, s) =>
      match s with
      | [] => some ⟨negative, whole, fraction, none⟩
      | c :: r =>
        if c == 'e' || c == 'E' then
          (exponentOf? r).map fun e => ⟨negative, whole, fraction, some e⟩
        else none

def NumeralText.of? : List Char → Option NumeralText
  | '-' :: r => unsigned? true r
  | s => unsigned? false s

def NumeralText.value? (t : NumeralText) : Option Numeral :=
  let (n, _, wholeLeft) := significandOf 0 t.whole
  let signed (x : Float) : Numeral := .real (if t.negative then -x else x)
  if t.fraction.isNone && t.exponent.isNone && wholeLeft == 0 then
    if !t.negative then some (.whole n)
    else if 0 < n && n ≤ 0x8000000000000000 then some (.whole (-n))
    else some (signed n.toUInt64.toFloat)
  else
    let (n, read, _) := significandOf n (t.fraction.getD [])
    let exponent : Int := (wholeLeft : Int) - read
    match t.exponent with
    | none => (scaled? n exponent).map signed
    | some (negative, ds) =>
      let e := ds.foldl (fun e d => 10 * e + d) 0
      if maxExponent < e then
        if n == 0 || negative then some (signed 0.0) else none
      else (scaled? n (if negative then exponent - e else exponent + e)).map signed

end PageAid.Json
