import PageAid.Json.Token
import PageAid.Web.Utf8

/-!
Percent-encoding: bytes that may not stand in some part of an address are written as `%` and two
hexadecimal digits. Forms have a variant with `+` for a space.
-/

namespace PageAid.Web

def upperHex (n : Nat) : Char := if n < 10 then Char.ofNat (0x30 + n) else Char.ofNat (0x37 + n)

def percent (b : UInt8) : List Char := ['%', upperHex (b.toNat / 16), upperHex (b.toNat % 16)]

/-- Control characters, and everything beyond ASCII. -/
def inControlSet (c : Char) : Bool := c.toNat < 0x20 || 0x7E < c.toNat

def inQuerySet (c : Char) : Bool := inControlSet c || [' ', '"', '#', '<', '>', '\''].contains c

def inFragmentSet (c : Char) : Bool :=
  inControlSet c || [' ', '"', '<', '>', '\x60'].contains c

def inPathSet (c : Char) : Bool :=
  inFragmentSet c || ['#', '?', '\x7b', '\x7d'].contains c

def inUserSet (c : Char) : Bool :=
  inPathSet c || ['/', ':', ';', '=', '@', '[', '\\', ']', '^', '|'].contains c

def percentEncode (set : Char → Bool) (s : List Char) : List Char :=
  s.flatMap fun c => if set c then (String.utf8EncodeChar c).flatMap percent else [c]

def percentDecode : List Char → Bytes
  | '%' :: a :: b :: r =>
    match Json.hexValue? a, Json.hexValue? b with
    | some x, some y => UInt8.ofNat (16 * x + y) :: percentDecode r
    | _, _ => UInt8.ofNat 0x25 :: percentDecode (a :: b :: r)
  | c :: r => String.utf8EncodeChar c ++ percentDecode r
  | [] => []

def formByte (b : UInt8) : List Char :=
  let c := Char.ofNat b.toNat
  if b.toNat < 0x80 && (c.isAlphanum || ['*', '-', '.', '_'].contains c) then [c]
  else if c == ' ' then ['+']
  else percent b

def formEncode (s : String) : String := String.ofList ((utf8 s.toList).flatMap formByte)

end PageAid.Web
