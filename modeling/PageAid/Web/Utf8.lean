/-!
Texts as bytes in UTF-8, and bytes as texts. Bytes that are no UTF-8 are read as replacement
characters: one for each longest start of a character that breaks off.
-/

namespace PageAid.Web

abbrev Bytes := List UInt8

def utf8 (s : List Char) : Bytes := s.flatMap String.utf8EncodeChar

def replacement : Char := '\ufffd'

/-- A character whose first bytes have been read: the value so far, how many bytes are left, and
the bounds of the next one. -/
structure Unfinished where
  value : Nat
  left : Nat
  low : Nat := 0x80
  high : Nat := 0xBF

def leading? (b : Nat) : Option Unfinished :=
  if 0xC2 ≤ b && b ≤ 0xDF then some { value := b - 0xC0, left := 1 }
  else if b == 0xE0 then some { value := 0, left := 2, low := 0xA0 }
  else if b == 0xED then some { value := 0xD, left := 2, high := 0x9F }
  else if 0xE1 ≤ b && b ≤ 0xEF then some { value := b - 0xE0, left := 2 }
  else if b == 0xF0 then some { value := 0, left := 3, low := 0x90 }
  else if b == 0xF4 then some { value := 4, left := 3, high := 0x8F }
  else if 0xF1 ≤ b && b ≤ 0xF3 then some { value := b - 0xF0, left := 3 }
  else none

/-- The characters of bytes, given what has been read of the first of them: each with a mark
whether it stands for bytes that cannot be read. -/
def decodeUtf8From (p : Option Unfinished) : Bytes → List (Char × Bool)
  | [] => if p.isSome then [(replacement, true)] else []
  | b :: r =>
    let n := b.toNat
    let fresh : List (Char × Bool) × Option Unfinished :=
      if n < 0x80 then ([(Char.ofNat n, false)], none)
      else match leading? n with
        | some p => ([], some p)
        | none => ([(replacement, true)], none)
    match p with
    | none => fresh.1 ++ decodeUtf8From fresh.2 r
    | some p =>
      if p.low ≤ n && n ≤ p.high then
        let value := 64 * p.value + (n - 0x80)
        if p.left ≤ 1 then (Char.ofNat value, false) :: decodeUtf8From none r
        else decodeUtf8From (some { value := value, left := p.left - 1 }) r
      else (replacement, true) :: (fresh.1 ++ decodeUtf8From fresh.2 r)

def decodeUtf8 (bytes : Bytes) : List Char := (decodeUtf8From none bytes).map (·.1)

def decodeUtf8? (bytes : Bytes) : Option (List Char) :=
  let read := decodeUtf8From none bytes
  if read.any (·.2) then none else some (read.map (·.1))

end PageAid.Web
