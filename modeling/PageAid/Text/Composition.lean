import PageAid.Text.CompositionTable
import PageAid.Text.Packed

/-!
The composed form of texts. A letter with marks may be one character or several; here all of them
are taken apart, the marks on a letter put into one order, and then put together again as far as
possible, so that equal texts have one form.
-/

namespace PageAid.Text

/-! ### Tables -/

def pairsFrom (before : Nat) : List Nat → List (Char × Char × Char)
  | distance :: a :: b :: r =>
    (Char.ofNat (before + distance), Char.ofNat a, Char.ofNat b) :: pairsFrom (before + distance) r
  | _ => []

def compositions : List (Char × Char × Char) := pairsFrom 0 (Packed.numbers compositionText)

def combiningSteps : List (Nat × Nat) := Packed.steps 0 (Packed.numbers combiningClassText)

def combiningClass (c : Char) : Nat :=
  if c.toNat < 0x300 then 0 else Packed.valueAt 0 combiningSteps c.toNat

/-! ### Syllables -/

/-- The first of the Korean syllables, and the first of the letters at their start, in their
middle and at their end. A syllable may lack the last one. -/
def syllableBase : Nat := 0xAC00
def leadBase : Nat := 0x1100
def vowelBase : Nat := 0x1161
def tailBase : Nat := 0x11A7
def leadCount : Nat := 19
def vowelCount : Nat := 21
def tailCount : Nat := 28

def syllableParts? (c : Char) : Option (List Char) :=
  let i := c.toNat - syllableBase
  if syllableBase ≤ c.toNat && i < leadCount * vowelCount * tailCount then
    let lead := Char.ofNat (leadBase + i / (vowelCount * tailCount))
    let vowel := Char.ofNat (vowelBase + i % (vowelCount * tailCount) / tailCount)
    let tail := i % tailCount
    some (if tail == 0 then [lead, vowel] else [lead, vowel, Char.ofNat (tailBase + tail)])
  else none

/-- A letter and a vowel, or a syllable and a last letter, as a syllable. -/
def syllable? (a b : Char) : Option Char :=
  let lead := a.toNat - leadBase
  let vowel := b.toNat - vowelBase
  let i := a.toNat - syllableBase
  let tail := b.toNat - tailBase
  if leadBase ≤ a.toNat && lead < leadCount && vowelBase ≤ b.toNat && vowel < vowelCount then
    some (Char.ofNat (syllableBase + (lead * vowelCount + vowel) * tailCount))
  else if syllableBase ≤ a.toNat && i < leadCount * vowelCount * tailCount &&
      i % tailCount == 0 && tailBase < b.toNat && tail < tailCount then
    some (Char.ofNat (a.toNat + tail))
  else none

/-! ### Taking apart and putting together -/

def parts : Nat → Char → List Char
  | 0, c => [c]
  | depth + 1, c =>
    match syllableParts? c with
    | some letters => letters
    | none =>
      match compositions.find? (·.1 == c) with
      | some (_, a, b) => parts depth a ++ [b]
      | none => [c]

def composed? (a b : Char) : Option Char :=
  match syllable? a b with
  | some c => some c
  | none => (compositions.find? fun (_, x, y) => x == a && y == b).map (·.1)

/-- A mark put behind those of at most its class. -/
def insertMark (c : Char) : List Char → List Char
  | [] => [c]
  | d :: r => if combiningClass d ≤ combiningClass c then d :: insertMark c r else c :: d :: r

/-- The marks on each letter in the order of their classes; `marks` are those that precede the
text. -/
def ordered (marks : List Char) : List Char → List Char
  | [] => marks
  | c :: r =>
    if combiningClass c == 0 then marks ++ c :: ordered [] r else ordered (insertMark c marks) r

/-- The text with marks put onto the letter `base`, given those after it that stay apart, the last
one first. A mark of the class of one that stays apart stays apart as well. -/
def composeOnto (base : Option Char) (apart : List Char) : List Char → List Char
  | [] => base.toList ++ apart.reverse
  | c :: r =>
    let blocked := apart.head?.any fun d => combiningClass c ≤ combiningClass d
    match base.bind fun b => if blocked then none else composed? b c with
    | some b => composeOnto (some b) apart r
    | none =>
      if combiningClass c == 0 then base.toList ++ apart.reverse ++ composeOnto (some c) [] r
      else composeOnto base (c :: apart) r

def partsDepth : Nat := 8

def composedForm (s : List Char) : List Char :=
  if s.all (·.toNat < 0x300) then s
  else composeOnto none [] (ordered [] (s.flatMap (parts partsDepth)))

end PageAid.Text
