import PageAid.Text.CaseTable

/-!
Lower case for every script. One letter has two lower-case forms: a capital sigma becomes the
final sigma at the end of a word and the common one elsewhere.
-/

namespace PageAid.Text

def inRanges (ranges : List (Nat × Nat)) (c : Char) : Bool :=
  ranges.any fun (first, last) => first ≤ c.toNat && c.toNat ≤ last

def CaseRun.lower? (run : CaseRun) (c : Char) : Option Char :=
  let n := c.toNat
  if run.first ≤ n && n ≤ run.last && (n - run.first) % run.step == 0 then
    some (Char.ofNat (Int.toNat (n + run.shift)))
  else none

def lowerChar (c : Char) : List Char :=
  if c.toNat < 0x80 then [c.toLower]
  else if c == 'İ' then ['i', '\u0307']
  else [(lowerRuns.findSome? (·.lower? c)).getD c]

/-- Past the characters that carry no case of their own stands a cased one. -/
def caseFollows (s : List Char) : Bool :=
  match s.dropWhile (inRanges caseIgnorableRanges) with
  | [] => false
  | c :: _ => inRanges casedRanges c

/-- Lower case of a text; `before` holds what precedes it, the nearest character first. -/
def lowerFrom (before : List Char) : List Char → List Char
  | [] => []
  | c :: r =>
    let here :=
      if c == 'Σ' then [if caseFollows before && !caseFollows r then 'ς' else 'σ']
      else lowerChar c
    here ++ lowerFrom (c :: before) r

def lower (s : String) : String :=
  String.ofList (lowerFrom [] s.toList)

end PageAid.Text
