/-!
Whether a text occurs inside another or opens it, and comparison without regard to ASCII case.
-/

namespace PageAid.Text

/-- `occursIn needle text`: the characters of `needle` stand in `text` one after another. -/
def occursIn (needle : List Char) : List Char → Bool
  | [] => needle.isEmpty
  | c :: r => needle.isPrefixOf (c :: r) || occursIn needle r

theorem occursIn_iff {needle text : List Char} : occursIn needle text ↔ needle <:+: text := by
  induction text with
  | nil => simp [occursIn]
  | cons c r ih => simp [occursIn, ih, List.infix_cons_iff]

def contains (text needle : String) : Bool :=
  occursIn needle.toList text.toList

def afterOpening? (start s : String) : Option String :=
  if start.toList.isPrefixOf s.toList then
    some (String.ofList (s.toList.drop start.toList.length))
  else none

def asciiLower (s : String) : String :=
  String.ofList (s.toList.map Char.toLower)

end PageAid.Text
