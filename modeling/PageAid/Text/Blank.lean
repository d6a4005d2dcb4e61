import PageAid.Text.Split

/-!
White space: the characters with the Unicode property of that name, trimming them from the ends
of a text, and the words between them.
-/

namespace PageAid.Text

/-- White space of Unicode. -/
def isBlank (c : Char) : Bool :=
  let n := c.toNat
  (0x9 ≤ n && n ≤ 0xD) || n == 0x20 || n == 0x85 || n == 0xA0 || n == 0x1680 ||
    (0x2000 ≤ n && n ≤ 0x200A) || n == 0x2028 || n == 0x2029 || n == 0x202F || n == 0x205F ||
    n == 0x3000

def trimLeft (s : List Char) : List Char :=
  s.dropWhile isBlank

def trimRight (s : List Char) : List Char :=
  (s.reverse.dropWhile isBlank).reverse

def trim (s : List Char) : List Char :=
  trimRight (trimLeft s)

/-- The maximal runs of characters that are not blank. -/
def words (s : List Char) : List (List Char) :=
  (fields isBlank s).filter (!·.isEmpty)

def collapse (s : List Char) : List Char :=
  joined [' '] (words s)

def trimmed (s : String) : String :=
  String.ofList (trim s.toList)

def collapsed (s : String) : String :=
  String.ofList (collapse s.toList)

def allBlank (s : String) : Bool :=
  s.toList.all isBlank

end PageAid.Text
