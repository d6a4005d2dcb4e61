import PageAid.Text.Blank
import PageAid.Text.Find
import PageAid.Web.Charset.Chinese
import PageAid.Web.Charset.Japanese
import PageAid.Web.Charset.Korean
import PageAid.Web.CodePage

/-!
The characters that the bytes of a body stand for. A mark at the start of the body overrules the
encoding that it is said to have.
-/

namespace PageAid.Web

inductive Charset where
  | utf8
  | utf16 (bigEndian : Bool)
  /-- One byte for each character; the characters of the bytes from 128 on. -/
  | single (upper : List Char)
  | shiftJis
  | eucJp
  | iso2022Jp
  | eucKr
  | gb18030
  | big5
  | refused
deriving Repr, Inhabited

namespace Charset

def utf8Labels : List String :=
  ["unicode-1-1-utf-8", "unicode11utf8", "unicode20utf8", "utf-8", "utf8", "x-unicode20utf8"]

def utf16Labels : List String :=
  ["csunicode", "iso-10646-ucs-2", "ucs-2", "unicode", "unicodefeff", "utf-16", "utf-16le"]

def multiByteLabels : List (Charset × List String) := [
  (shiftJis, ["csshiftjis", "ms932", "ms_kanji", "shift-jis", "shift_jis", "sjis", "windows-31j",
    "x-sjis"]),
  (eucJp, ["cseucpkdfmtjapanese", "euc-jp", "x-euc-jp"]),
  (iso2022Jp, ["csiso2022jp", "iso-2022-jp"]),
  (eucKr, ["cseuckr", "csksc56011987", "euc-kr", "iso-ir-149", "korean", "ks_c_5601-1987",
    "ks_c_5601-1989", "ksc5601", "ksc_5601", "windows-949"]),
  (gb18030, ["chinese", "csgb2312", "csiso58gb231280", "gb2312", "gb_2312", "gb_2312-80", "gbk",
    "iso-ir-58", "x-gbk", "gb18030"]),
  (big5, ["big5", "big5-hkscs", "cn-big5", "csbig5", "x-x-big5"]),
  (refused, ["csiso2022kr", "hz-gb-2312", "iso-2022-cn", "iso-2022-cn-ext", "iso-2022-kr",
    "replacement"])]

def ofRuns (runs : List (Nat × Nat)) : List Char :=
  runs.flatMap fun (first, count) => (List.range count).map fun i => Char.ofNat (first + i)

def ofLabel? (label : String) : Option Charset :=
  let label := Text.asciiLower (Text.trimmed label)
  if utf8Labels.contains label then some utf8
  else if utf16Labels.contains label then some (utf16 false)
  else if ["unicodefffe", "utf-16be"].contains label then some (utf16 true)
  else if label == "x-user-defined" then some (single (ofRuns [(0xF780, 128)]))
  else match multiByteLabels.find? (·.2.contains label) with
    | some (charset, _) => some charset
    | none => (codePages.find? (·.1.contains label)).map fun (_, runs) => single (ofRuns runs)

def units (bigEndian : Bool) : Bytes → List (Option Nat)
  | a :: b :: r =>
    some (if bigEndian then 256 * a.toNat + b.toNat else 256 * b.toNat + a.toNat) ::
      units bigEndian r
  | [_] => [none]
  | [] => []

/-- The characters of units, given the surrogate before them if it opens a pair: a pair is one
character, and what has no meaning is a replacement character. -/
def ofUnits (high : Option Nat) : List (Option Nat) → List Char
  | [] => if high.isSome then [replacement] else []
  | none :: _ => [replacement]
  | some u :: r =>
    let isLow := 0xDC00 ≤ u && u < 0xE000
    match high with
    | some h =>
      if isLow then Char.ofNat (0x10000 + 0x400 * (h - 0xD800) + (u - 0xDC00)) :: ofUnits none r
      else if 0xD800 ≤ u && u < 0xDC00 then replacement :: ofUnits (some u) r
      else replacement :: Char.ofNat u :: ofUnits none r
    | none =>
      if isLow then replacement :: ofUnits none r
      else if 0xD800 ≤ u && u < 0xDC00 then ofUnits (some u) r
      else Char.ofNat u :: ofUnits none r

def decode : Charset → Bytes → List Char
  | utf8, bytes => decodeUtf8 bytes
  | utf16 bigEndian, bytes => ofUnits none (units bigEndian bytes)
  | single upper, bytes => bytes.map fun b =>
    if b.toNat < 128 then Char.ofNat b.toNat else (upper[b.toNat - 128]?).getD replacement
  | shiftJis, bytes => shiftJisRule.decode bytes
  | eucJp, bytes => eucJpRule.decode bytes
  | iso2022Jp, bytes => iso2022JpText bytes
  | eucKr, bytes => eucKrRule.decode bytes
  | gb18030, bytes => gb18030Rule.decode bytes
  | big5, bytes => big5Rule.decode bytes
  | refused, bytes => if bytes.isEmpty then [] else [replacement]

/-- The text of a body: a mark at its start overrules the encoding. -/
def decodeBody (charset : Charset) (bytes : Bytes) : List Char :=
  match bytes with
  | 0xEF :: 0xBB :: 0xBF :: r => utf8.decode r
  | 0xFE :: 0xFF :: r => (utf16 true).decode r
  | 0xFF :: 0xFE :: r => (utf16 false).decode r
  | _ => charset.decode bytes

end Charset

end PageAid.Web
