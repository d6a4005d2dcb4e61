/-!
Tables of characters written out in rows, one row a line. A full stop stands where a row has no
character.
-/

namespace PageAid.Text

abbrev Grid := Array (Array Char)

namespace Grid

/-- The rows of a text whose first line is empty. -/
def ofText (s : String) : Grid :=
  s.toList.foldl (fun rows c =>
    if c == '\n' then rows.push #[] else rows.modify (rows.size - 1) (·.push c)) #[]

def at? (g : Grid) (row place : Nat) : Option Char := do
  let c ← (← g[row]?)[place]?
  if c == '.' then none else some c

def characters (g : Grid) : List Char := g.toList.flatMap fun row => row.toList.filter (· != '.')

end Grid

/-- The code points of a range that are not in a list of characters, in order. -/
def unplaced (first size : Nat) (placed : List Char) : Array Nat :=
  let mark (marks : Array Bool) (c : Char) : Array Bool :=
    if first ≤ c.toNat then marks.setIfInBounds (c.toNat - first) true else marks
  let marks := placed.foldl mark (Array.replicate size false)
  (List.range size).toArray.filterMap fun i =>
    if marks[i]?.getD true then none else some (first + i)

end PageAid.Text
