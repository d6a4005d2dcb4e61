/-!
Punycode: a label with any characters as a label of ASCII letters, digits and hyphens. The ASCII
characters come first; the others follow as numbers that tell where each one is put in.
-/

namespace PageAid.Web.Punycode

/-- Between digits that end a number and digits that do not, at a place. -/
def threshold (bias place : Nat) : Nat := max 1 (min 26 (place - bias))

theorem one_le_threshold (bias place : Nat) : 1 ≤ threshold bias place := by
  simp only [threshold]
  omega

def letter (n : Nat) : Char :=
  if n < 26 then Char.ofNat ('a'.toNat + n) else Char.ofNat ('0'.toNat + (n - 26))

def value? (c : Char) : Option Nat :=
  if 'a' ≤ c && c ≤ 'z' then some (c.toNat - 'a'.toNat)
  else if '0' ≤ c && c ≤ '9' then some (c.toNat - '0'.toNat + 26)
  else none

def settleBias (delta steps : Nat) : Nat :=
  if 455 < delta then settleBias (delta / 35) (steps + 36)
  else steps + 36 * delta / (delta + 38)
termination_by delta
decreasing_by omega

def adapted (delta count : Nat) (first : Bool) : Nat :=
  let delta := if first then delta / 700 else delta / 2
  settleBias (delta + delta / count) 0

def digits (bias place n : Nat) : List Char :=
  let t := threshold bias place
  if n < t then [letter n]
  else letter (t + (n - t) % (36 - t)) :: digits bias (place + 36) ((n - t) / (36 - t))
termination_by n
decreasing_by
  have := one_le_threshold bias place
  exact Nat.lt_of_le_of_lt (Nat.div_le_self _ _) (by omega)

/-- The state of an encoder: the digits so far, the number to write next, the bias, and how many
characters are in place. -/
structure Encoder where
  written : List Char
  delta : Nat
  bias : Nat
  placed : Nat
  first : Bool

def Encoder.pass (n : Nat) (e : Encoder) (c : Char) : Encoder :=
  if c.toNat < n then { e with delta := e.delta + 1 }
  else if c.toNat == n then
    { written := e.written ++ digits e.bias 36 e.delta
      delta := 0
      bias := adapted e.delta (e.placed + 1) e.first
      placed := e.placed + 1
      first := false }
  else e

/-- Writes the places of the characters of a list in ascending order, the last one before them
being `before`. -/
def Encoder.all (label : List Char) (before : Nat) (e : Encoder) : List Nat → Encoder
  | [] => e
  | n :: r =>
    let e := { e with delta := e.delta + (n - before) * (e.placed + 1) }
    let e := label.foldl (Encoder.pass n) e
    all label (n + 1) { e with delta := e.delta + 1 } r

def encode (label : List Char) : List Char :=
  let basic := label.filter (·.toNat < 128)
  let others := ((label.map Char.toNat).filter (128 ≤ ·)).mergeSort.eraseDups
  let start : Encoder := ⟨[], 0, 72, basic.length, true⟩
  basic ++ (if basic.isEmpty then [] else ['-']) ++ (start.all label 128 others).written

/-- The state of a decoder: the label so far, the character put in last and the place for the
next one, the bias, and the number under way with the weight and the place of its next digit. -/
structure Decoder where
  label : List Char
  char : Nat := 128
  position : Nat := 0
  bias : Nat := 72
  number : Nat := 0
  weight : Nat := 1
  place : Nat := 36
  first : Bool := true
deriving Inhabited

def Decoder.put? (d : Decoder) : Option Decoder :=
  let count := d.label.length + 1
  let i := d.position + d.number
  let char := d.char + i / count
  let i := i % count
  if char ≤ 0x10FFFF && !(0xD800 ≤ char && char < 0xE000) then
    some { label := d.label.insertIdx i (Char.ofNat char)
           char, position := i + 1, bias := adapted d.number count d.first, first := false }
  else none

def maxNumber : Nat := 0xFFFFFFFF

def Decoder.read? (d : Decoder) (c : Char) : Option Decoder := do
  let v ← value? c
  let t := threshold d.bias d.place
  let d := { d with number := d.number + v * d.weight }
  if maxNumber < d.position + d.number then none
  else if v < t then d.put?
  else
    let weight := d.weight * (36 - t)
    if maxNumber < weight then none else some { d with weight, place := d.place + 36 }

def decode? (s : List Char) : Option (List Char) := do
  let digits := (s.reverse.takeWhile (· != '-')).reverse
  let basic := s.take (s.length - digits.length - 1)
  let digits := if basic.isEmpty then s else digits
  let start : Decoder := { label := basic }
  let d ← digits.foldlM Decoder.read? start
  if d.weight == 1 then some d.label else none

end PageAid.Web.Punycode
