import PageAid.Text.Composition
import PageAid.Text.Split
import PageAid.Web.DomainTable
import PageAid.Web.Label
import PageAid.Web.Punycode

/-!
Names of hosts in their one written form. The characters of a name are brought to the form in
which names are compared, among others to lower case, and parts with characters beyond ASCII are
written in Punycode.
-/

namespace PageAid.Web

open Text

/-! ### Characters -/

def deniedInDomain (c : Char) : Bool :=
  c.toNat ≤ 0x20 || c.toNat == 0x7F ||
    ['#', '%', '/', ':', '<', '>', '?', '@', '[', '\\', ']', '^', '|'].contains c

def validRuns : List (Nat × Nat) := Packed.runs 0 (Packed.numbers validText)

def ignoredRuns : List (Nat × Nat) := Packed.runs 0 (Packed.numbers ignoredText)

/-- A run of characters that another one stands for: the first, the number of further ones, the
step between two of them, and the shift to the other one. -/
structure ShiftRun where
  first : Nat
  more : Nat
  step : Nat
  shift : Int

def shiftsFrom (before : Nat) : List Nat → List ShiftRun
  | distance :: more :: step :: shift :: r =>
    let amount : Int := if shift % 2 == 0 then shift / 2 else -((shift + 1) / 2)
    ⟨before + distance, more, step, amount⟩ :: shiftsFrom (before + distance) r
  | _ => []

def shiftRuns : List ShiftRun := shiftsFrom 0 (Packed.numbers shiftText)

def ShiftRun.target? (run : ShiftRun) (n : Nat) : Option Char :=
  if run.first ≤ n && n ≤ run.first + run.more * run.step &&
      (n - run.first) % run.step == 0 then
    some (Char.ofNat (n + run.shift).toNat)
  else none

/-- The texts of a table, with the first and the last character that each stands for. The fuel is
the length of the table. -/
def replacementsFrom : Nat → Nat → List Nat → List (Nat × Nat × List Char)
  | fuel + 1, before, distance :: more :: size :: r =>
    let first := before + distance
    (first, first + more, (r.take size).map Char.ofNat) ::
      replacementsFrom fuel first (r.drop size)
  | _, _, _ => []

def replacements : List (Nat × Nat × List Char) :=
  let table := Packed.numbers replacementText
  replacementsFrom table.length 0 table

def isValidInDomain (c : Char) : Bool := Packed.inRuns validRuns c.toNat

def isOwnForm (c : Char) : Bool :=
  if c.toNat < 0x80 then !c.isUpper else isValidInDomain c

def domainChar? (c : Char) : Option (List Char) :=
  let n := c.toNat
  if n < 0x80 then some [c.toLower]
  else if isValidInDomain c then some [c]
  else match shiftRuns.findSome? (·.target? n) with
    | some d => some [d]
    | none =>
      match replacements.find? fun (first, last, _) => first ≤ n && n ≤ last with
      | some (_, _, text) => some text
      | none => if Packed.inRuns ignoredRuns n then some [] else none

/-! ### Parts of a name -/

def viramaClass : Nat := 9

/-- Greatest number of characters of a part with characters beyond ASCII. -/
def maxLabel : Nat := 1000

/-- Greatest number of characters that stand for such a part in Punycode. -/
def maxPunycode : Nat := 2000

def isLabel (label : List Char) : Bool :=
  label.length ≤ maxLabel && !label.head?.any isMark &&
    joinersInPlace (combiningClass · == viramaClass) [] label

def punycodeStart : List Char := "xn--".toList

/-- The characters that a part of a name stands for. A part in Punycode must have characters
beyond ASCII, the last of its own not being a hyphen, and all of them in the form that names
have. -/
def labelChars? (label : List Char) : Option (List Char) :=
  if punycodeStart.isPrefixOf label then do
    let rest := label.drop punycodeStart.length
    if rest.isEmpty || rest.getLast? == some '-' || maxPunycode < rest.length ||
        !rest.all (·.toNat < 128) then none
    let chars ← Punycode.decode? rest
    if chars.contains '.' || !chars.all isOwnForm || chars.any deniedInDomain ||
        composedForm chars != chars || !isLabel chars then none
    else some chars
  else if label.all (·.toNat < 128) || isLabel label then some label
  else none

def labelText (label : List Char) : List Char :=
  if label.all (·.toNat < 128) then label else punycodeStart ++ Punycode.encode label

def domainToAscii? (s : List Char) : Option (List Char) := do
  let mapped ← s.mapM domainChar?
  let name := composedForm mapped.flatten
  if name.any deniedInDomain then none
  let labels := fields (· == '.') name
  let chars ← labels.mapM labelChars?
  if chars.any (·.any isRightToLeft) && !chars.all directionsInPlace then none
  some (joined ['.'] (labels.map labelText))

end PageAid.Web
