/-!
Tables of characters packed into texts: numbers in base 36 with blanks and line breaks between
them, most of them distances from the entry before.
-/

namespace PageAid.Text.Packed

def digit (c : Char) : Nat :=
  if c.isDigit then c.toNat - '0'.toNat else c.toNat - 'a'.toNat + 10

def numbersFrom (n : Option Nat) : List Char → List Nat
  | [] => n.toList
  | c :: r =>
    if c == ' ' || c == '\n' then n.toList ++ numbersFrom none r
    else numbersFrom (some (36 * n.getD 0 + digit c)) r

def numbers (s : String) : List Nat := numbersFrom none s.toList

/-- Runs given by the distance from the end of the one before and the number of further
characters: the first and the last code point of each. -/
def runs (before : Nat) : List Nat → List (Nat × Nat)
  | distance :: more :: r =>
    let first := before + distance
    (first, first + more) :: runs (first + more) r
  | _ => []

/-- Steps given by the distance from the one before and a value: the code point at which each
value begins. -/
def steps (before : Nat) : List Nat → List (Nat × Nat)
  | distance :: value :: r => (before + distance, value) :: steps (before + distance) r
  | _ => []

def inRuns (table : List (Nat × Nat)) (n : Nat) : Bool :=
  table.any fun (first, last) => first ≤ n && n ≤ last

/-- The value of the last step that is not beyond the code point. -/
def valueAt (value : Nat) : List (Nat × Nat) → Nat → Nat
  | [], _ => value
  | (start, next) :: r, n => if start ≤ n then valueAt next r n else value

end PageAid.Text.Packed
