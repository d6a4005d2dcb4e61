import PageAid.Web.Charset.JapaneseTable
import PageAid.Web.Charset.MultiByte

/-!
The encodings of Japanese texts: two of one and two bytes, one of up to three, and one of seven bits
in which escape sequences change the character set.
-/

namespace PageAid.Web.Charset

def narrowKana (n : Nat) : Char := Char.ofNat (0xFF61 + n)

/-! ### Shifted rows -/

/-- The character of two bytes. The rows after those of the set are for private use. -/
def shiftJisPair? (lead trail : Nat) : Option (List Char) :=
  if within 0x40 0x7E trail || within 0x80 0xFC trail then
    let row := if lead < 0xA0 then lead - 0x81 else lead - 0xC1
    let n := 188 * row + trail - (if trail < 0x7F then 0x40 else 0x41)
    if within 0xF0 0xF9 lead then some [Char.ofNat (0xE000 + n - 188 * 47)]
    else (jisX0208.at? (n / 94) (n % 94)).map ([·])
  else none

def shiftJisRule : Rule := fun b r =>
  if b ≤ 0x80 then oneByte b
  else if within 0xA1 0xDF b then ([narrowKana (b - 0xA1)], 0)
  else if within 0x81 0x9F b || within 0xE0 0xFC b then twoBytes shiftJisPair? b r
  else noCharacter

/-! ### Two sets side by side -/

def inUpperHalf? (set : Text.Grid) (row place : Nat) : Option Char :=
  if within 0xA1 0xFE row && within 0xA1 0xFE place then
    set.at? (row - 0xA1) (place - 0xA1)
  else none

/-- A mark for the supplementary set, and the two bytes of a character in it. -/
def supplementaryRule (r : Bytes) : List Char × Nat :=
  match r with
  | row :: r =>
    if within 0xA1 0xFE row.toNat then
      match r.head?.bind fun place => inUpperHalf? jisX0212 row.toNat place.toNat with
      | some c => ([c], 2)
      | none => unreadable 1 r
    else unreadable 0 (row :: r)
  | [] => unreadable 0 []

def eucJpRule : Rule := fun b r =>
  if b < 0x80 then oneByte b
  else if b == 0x8E then
    twoBytes (fun _ t => if within 0xA1 0xDF t then some [narrowKana (t - 0xA1)] else none) b r
  else if b == 0x8F then supplementaryRule r
  else if within 0xA1 0xFE b then
    twoBytes (fun row place => (inUpperHalf? jisX0208 row place).map ([·])) b r
  else noCharacter

/-! ### Escape sequences -/

inductive JisSet where
  | ascii
  /-- ASCII with a yen sign and an overline. -/
  | roman
  | kana
  | kanji
deriving DecidableEq, Repr

def JisSet.named? (a b : UInt8) : Option JisSet :=
  match a.toNat, b.toNat with
  | 0x28, 0x42 => some ascii
  | 0x28, 0x4A => some roman
  | 0x28, 0x49 => some kana
  | 0x24, 0x40 | 0x24, 0x42 => some kanji
  | _, _ => none

def JisSet.single? (set : JisSet) (b : Nat) : Option Char :=
  match set with
  | ascii => if b < 0x80 && b != 0x0E && b != 0x0F then some (Char.ofNat b) else none
  | roman =>
    if b == 0x5C then some '¥'
    else if b == 0x7E then some '‾'
    else if b < 0x80 && b != 0x0E && b != 0x0F then some (Char.ofNat b)
    else none
  | kana => if within 0x21 0x5F b then some (narrowKana (b - 0x21)) else none
  | kanji => none

def kanji? (lead trail : Nat) : Option Char :=
  if within 0x21 0x7E lead && within 0x21 0x7E trail then
    jisX0208.at? (lead - 0x21) (trail - 0x21)
  else none

/-- The text of bytes in a set; `fresh` says that an escape sequence stands right before them. Of
two sequences with nothing between them the second one is an error, and so is an escape character
that opens none. -/
def escapedText (set : JisSet) (fresh : Bool) : Bytes → List Char
  | [] => []
  | b :: r =>
    if b == 0x1B then
      match r with
      | x :: y :: rest =>
        match JisSet.named? x y with
        | some next => (if fresh then [replacement] else []) ++ escapedText next true rest
        | none => replacement :: escapedText set false (x :: y :: rest)
      | r => replacement :: escapedText set false r
    else if set == .kanji && within 0x21 0x7E b.toNat then
      match r with
      | t :: rest =>
        if t == 0x1B then replacement :: escapedText set false (t :: rest)
        else (kanji? b.toNat t.toNat).getD replacement :: escapedText set false rest
      | [] => [replacement]
    else (set.single? b.toNat).getD replacement :: escapedText set false r
termination_by s => s.length

def iso2022JpText (s : Bytes) : List Char := escapedText .ascii false s

end PageAid.Web.Charset
