import PageAid.Text.Find
import PageAid.Web.Utf8

/-!
The headers of messages: lines with a name, a colon and a value, up to an empty line. A line ends
at a line feed, before which a carriage return may stand.
-/

namespace PageAid.Web

def isGap (b : UInt8) : Bool := b == 32 || b == 9

def trimGaps (s : Bytes) : Bytes := ((s.dropWhile isGap).reverse.dropWhile isGap).reverse

/-- A byte of a value or of a phrase: everything but control characters other than the tab. -/
def inValue (b : UInt8) : Bool := b == 9 || (32 ≤ b && b != 127)

def inName (b : UInt8) : Bool :=
  let c := Char.ofNat b.toNat
  b < 128 && (c.isAlphanum ||
    ['!', '#', '$', '%', '&', '\'', '*', '+', '-', '.', '^', '_', '\x60', '|', '~'].contains c)

def asciiText (s : Bytes) : String := String.ofList (s.map fun b => Char.ofNat b.toNat)

def printable? (s : Bytes) : Option String :=
  if s.all fun b => inValue b && b < 128 then some (asciiText s) else none

def afterLineEnd? : Bytes → Option Bytes
  | 10 :: r => some r
  | 13 :: 10 :: r => some r
  | _ => none

def restOfLine? (s : Bytes) : Option (Bytes × Bytes) :=
  (afterLineEnd? (s.dropWhile inValue)).map (s.takeWhile inValue, ·)

/-- A header: a name in lower case and a value. -/
structure Header where
  name : String
  value : Bytes
deriving DecidableEq, Repr, Inhabited

namespace Header

/-- A header and what follows its line. Its name has less than 65536 bytes. -/
def ofBytes? (s : Bytes) : Option (Header × Bytes) :=
  let name := s.takeWhile inName
  match s.dropWhile inName with
  | 58 :: r =>
    if name.isEmpty || 65535 < name.length then none
    else (restOfLine? r).map fun (value, rest) =>
      ({ name := Text.asciiLower (asciiText name), value := trimGaps value }, rest)
  | _ => none

def list? (most : Nat) (s : Bytes) : Option (List Header × Bytes) :=
  match afterLineEnd? s with
  | some rest => some ([], rest)
  | none =>
    match most with
    | 0 => none
    | n + 1 => do
      let (header, r) ← ofBytes? s
      let (headers, rest) ← list? n r
      some (header :: headers, rest)

def values (headers : List Header) (name : String) : List Bytes :=
  (headers.filter (·.name == name)).map (·.value)

end Header

end PageAid.Web
