import PageAid.Web.Utf8

/-!
Encodings in which a character takes one byte or some more. Such an encoding is given by a rule for
the character that a text starts with.
-/

namespace PageAid.Web.Charset

/-- A rule is given the first byte of a text and the bytes after it: what they stand for, and how
many of the bytes after the first one belong to it. -/
abbrev Rule := Nat → Bytes → List Char × Nat

def Rule.decode (rule : Rule) : Bytes → List Char
  | [] => []
  | b :: r => (rule b.toNat r).1 ++ decode rule (r.drop (rule b.toNat r).2)
termination_by s => s.length
decreasing_by simp only [List.length_drop, List.length_cons]; omega

def oneByte (c : Nat) : List Char × Nat := ([Char.ofNat c], 0)

def noCharacter : List Char × Nat := ([replacement], 0)

/-- Bytes that stand for no character, of which `before` follow the first one, and then the byte at
which this turns out. That byte is read again if it is ASCII. -/
def unreadable (before : Nat) (r : Bytes) : List Char × Nat :=
  match r with
  | b :: _ => ([replacement], if b < 0x80 then before else before + 1)
  | [] => ([replacement], before)

def twoBytes (pair? : Nat → Nat → Option (List Char)) : Rule := fun lead r =>
  match r.head?.bind fun b => pair? lead b.toNat with
  | some text => (text, 1)
  | none => unreadable 0 r

def within (low high : Nat) (b : Nat) : Bool := low ≤ b && b ≤ high

end PageAid.Web.Charset
