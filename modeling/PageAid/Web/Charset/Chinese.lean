import PageAid.Web.Charset.MultiByte
import PageAid.Web.Charset.SimplifiedTable
import PageAid.Web.Charset.TraditionalTable

/-!
The encodings of Chinese texts: one of one, two and four bytes that has a place for every code
point, and one of one and two bytes for traditional Chinese.
-/

namespace PageAid.Web.Charset

/-! ### Two and four bytes -/

/-- The unified ideographs that have no place in the basic set. They fill the rows before it, and
then those beside it from 0xAA on. -/
def rareIdeographs : Array Nat := Text.unplaced 0x4E00 20902 gb2312.characters

def privateChar? (lead trail : Nat) : Option Char :=
  let n := 256 * lead + trail
  privateRuns.findSome? fun (first, c, size) =>
    if first ≤ n && n < first + size then some (Char.ofNat (c + (n - first))) else none

def besideBasic? (lead place : Nat) : Option Char :=
  if lead < 0xA8 then none
  else if lead < 0xAA then gbkSymbols.at? (lead - 0xA8) place
  else
    let n := 6080 + 96 * (lead - 0xAA) + place
    match rareIdeographs[n]? with
    | some c => some (Char.ofNat c)
    | none =>
      let n := n - rareIdeographs.size
      if n < 5 then gbkLast.at? 0 n else gbkLast.at? 1 (n - 5)

def gbPair? (lead trail : Nat) : Option (List Char) :=
  if within 0x40 0x7E trail || within 0x80 0xFE trail then
    let place := trail - (if trail < 0x7F then 0x40 else 0x41)
    let listed :=
      if lead < 0xA1 then (rareIdeographs[190 * (lead - 0x81) + place]?).map Char.ofNat
      else if 0xA1 ≤ trail then gb2312.at? (lead - 0xA1) (trail - 0xA1)
      else if lead == 0xA3 && trail == 0xA0 then some '\u3000'
      else besideBasic? lead place
    (listed <|> privateChar? lead trail).map ([·])
  else none

def fourByteChar? (n : Nat) : Option Char :=
  if n < 39420 then
    some (Char.ofNat (if n == 7457 then 0xE7C7 else n + Text.Packed.valueAt 0 fourByteSteps n))
  else if within 189000 1237575 n then some (Char.ofNat (0x10000 + n - 189000))
  else none

/-- A character of four bytes; the second one and the fourth one are digits. If the bytes do not
have this form, only the first one is unreadable. -/
def fourBytes (a b : Nat) (r : Bytes) : List Char × Nat :=
  match r with
  | [] => ([replacement], 1)
  | c :: r =>
    if within 0x81 0xFE c.toNat then
      match r with
      | [] => ([replacement], 2)
      | d :: _ =>
        if within 0x30 0x39 d.toNat then
          let n := 10 * (126 * (10 * (a - 0x81) + (b - 0x30)) + (c.toNat - 0x81)) + (d.toNat - 0x30)
          ([(fourByteChar? n).getD replacement], 3)
        else noCharacter
    else noCharacter

def gb18030Rule : Rule := fun b r =>
  if b < 0x80 then oneByte b
  else if b == 0x80 then oneByte 0x20AC
  else if within 0x81 0xFE b then
    match r with
    | d :: rest =>
      if within 0x30 0x39 d.toNat then fourBytes b d.toNat rest else twoBytes gbPair? b r
    | [] => unreadable 0 []
  else noCharacter

/-! ### Traditional Chinese -/

/-- Two bytes that stand for a letter with an accent above another one. -/
def accented : List ((Nat × Nat) × List Char) :=
  [((0x88, 0x62), ['\u00ca', '\u0304']), ((0x88, 0x64), ['\u00ca', '\u030c']),
    ((0x88, 0xA3), ['\u00ea', '\u0304']), ((0x88, 0xA5), ['\u00ea', '\u030c'])]

def big5Pair? (lead trail : Nat) : Option (List Char) :=
  match accented.lookup (lead, trail) with
  | some text => some text
  | none =>
    if lead < 0x87 then none
    else if within 0x40 0x7E trail then
      (big5Rows.at? (2 * (lead - 0x87)) (trail - 0x40)).map ([·])
    else if within 0xA1 0xFE trail then
      (big5Rows.at? (2 * (lead - 0x87) + 1) (trail - 0xA1)).map ([·])
    else none

def big5Rule : Rule := fun b r =>
  if b < 0x80 then oneByte b
  else if within 0x81 0xFE b then twoBytes big5Pair? b r
  else noCharacter

end PageAid.Web.Charset
