import PageAid.Web.Charset.KoreanTable
import PageAid.Web.Charset.MultiByte

/-!
The encoding of Korean texts. The syllables that have no place in the set fill the free places
before and beside it, in order.
-/

namespace PageAid.Web.Charset

/-- The syllables that have no place in the set. -/
def rareSyllables : Array Nat := Text.unplaced 0xAC00 11172 ksX1001.characters

def freePlace? (trail : Nat) : Option Nat :=
  if within 0x41 0x5A trail then some (trail - 0x41)
  else if within 0x61 0x7A trail then some (trail - 0x61 + 26)
  else if within 0x81 0xFE trail then some (trail - 0x81 + 52)
  else none

/-- The number of a rare syllable: 178 stand in each of the first 32 rows, and 84 in a row that the
set uses too. -/
def rareSyllable? (lead trail : Nat) : Option Nat := do
  let place ← freePlace? trail
  if lead < 0xA1 then some (178 * (lead - 0x81) + place)
  else if place < 84 then some (178 * 32 + 84 * (lead - 0xA1) + place)
  else none

def eucKrPair? (lead trail : Nat) : Option (List Char) :=
  if within 0xA1 0xFE lead && within 0xA1 0xFE trail then
    (ksX1001.at? (lead - 0xA1) (trail - 0xA1)).map ([·])
  else do
    let n ← rareSyllable? lead trail
    (rareSyllables[n]?).map fun c => [Char.ofNat c]

def eucKrRule : Rule := fun b r =>
  if b < 0x80 then oneByte b
  else if within 0x81 0xFE b then twoBytes eucKrPair? b r
  else noCharacter

end PageAid.Web.Charset
