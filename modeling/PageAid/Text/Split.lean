/-!
Cutting a text at separator characters, and into lines. A text is a list of characters here; the
pieces, with the separators between them, make up the text again.
-/

namespace PageAid.Text

/-- The pieces between the characters that satisfy `p`; always one more than there are such
characters. -/
def fields (p : Char → Bool) : List Char → List (List Char)
  | [] => [[]]
  | c :: r => if p c then [] :: fields p r else (fields p r).modifyHead (c :: ·)

theorem fields_ne_nil (p : Char → Bool) (s : List Char) : fields p s ≠ [] := by
  induction s with
  | nil => simp [fields]
  | cons c r ih =>
    rw [fields]
    split
    · simp
    · simpa using ih

def dropReturn (line : List Char) : List Char :=
  if line.getLast? = some '\r' then line.dropLast else line

/-- The lines of a text. A line ends at a newline, or at a carriage return and a newline; a last
line without a newline keeps its carriage return, and a final newline opens no further line. -/
def lines (s : List Char) : List (List Char) :=
  let pieces := fields (· == '\n') s
  let rest := pieces.getLast?.getD []
  pieces.dropLast.map dropReturn ++ (if rest.isEmpty then [] else [rest])

/-- A text cut at the first character that satisfies `p`, which belongs to neither part. -/
def cut? (p : Char → Bool) : List Char → Option (List Char × List Char)
  | [] => none
  | c :: r => if p c then some ([], r) else (cut? p r).map fun (a, b) => (c :: a, b)

def joined (sep : List Char) (pieces : List (List Char)) : List Char :=
  List.intercalate sep pieces

end PageAid.Text
