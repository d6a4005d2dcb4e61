import PageAid.Json.Token
import PageAid.Web.Header

/-!
Bodies in chunks: each chunk has a line with its length in hexadecimal digits, which may be
followed by an extension, and then its bytes and the end of a line. After the last chunk, which is
empty, headers may follow, and an empty line.
-/

namespace PageAid.Web.Chunked

/-- More bytes than all extensions of a body may have, or the headers at its end. -/
def byteLimit : Nat := 16384

def headerLimit : Nat := 100

def digit? (b : UInt8) : Option Nat := Json.hexValue? (Char.ofNat b.toNat)

def size? (s : Bytes) : Option (Nat × Bytes) :=
  let digits := s.takeWhile fun b => (digit? b).isSome
  let n := digits.foldl (fun n b => 16 * n + (digit? b).getD 0) 0
  if digits.isEmpty || Nat.pow 2 64 ≤ n then none
  else some (n, s.dropWhile fun b => (digit? b).isSome)

def afterLine? : Bytes → Option Bytes
  | 13 :: 10 :: r => some r
  | _ => none

def extension? (s : Bytes) : Option (Nat × Bytes) :=
  match s.dropWhile isGap with
  | 59 :: r =>
    let inLine (b : UInt8) : Bool := b != 13 && b != 10
    (afterLine? (r.dropWhile inLine)).map ((r.takeWhile inLine).length, ·)
  | r => (afterLine? r).map (0, ·)

/-- The lines before an empty one, given the start of the first one, last byte first; `none` if
none is empty, or if a carriage return stands within a line. -/
def lines? : Bytes → Bytes → Option (List Bytes)
  | _, [] => none
  | [], 13 :: 10 :: _ => some []
  | start, 13 :: 10 :: r => (lines? [] r).map (start.reverse :: ·)
  | _, 13 :: _ => none
  | start, b :: r => lines? (b :: start) r

def endsBody (s : Bytes) : Bool :=
  match lines? [] s with
  | none => false
  | some [] => true
  | some lines =>
    let text := lines.flatMap (· ++ [13, 10]) ++ [13, 10]
    text.length < byteLimit && lines.length < headerLimit &&
      (Header.list? lines.length text).isSome

def chunks? : Nat → Nat → Bytes → Option Bytes
  | 0, _, _ => none
  | fuel + 1, before, s => do
    let (n, r) ← size? s
    let (more, r) ← extension? r
    if byteLimit ≤ before + more then none
    else if n == 0 then if endsBody r then some [] else none
    else if r.length < n then none
    else
      let rest ← afterLine? (r.drop n)
      (chunks? fuel (before + more) rest).map (r.take n ++ ·)

/-- The body that chunks make up; `none` if they break off or are malformed. Every chunk takes at
least one byte. -/
def body? (s : Bytes) : Option Bytes := chunks? s.length 0 s

end PageAid.Web.Chunked
