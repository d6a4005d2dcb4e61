import PageAid.Json.Printer
import PageAid.Json.Token
import PageAid.Text.Split

/-!
Hosts given as numbers: the forms in which addresses of 32 and of 128 bits may be written, and the
one form in which each is written out.
-/

namespace PageAid.Web

/-! ### Four bytes -/

/-- A number in the base that its start tells: `0x` for 16, a zero for 8. -/
def hostNumber? (s : List Char) : Option Nat :=
  let (base, digits) := match s with
    | '0' :: 'x' :: r => (16, r)
    | '0' :: 'X' :: r => (16, r)
    | '0' :: d :: r => (8, d :: r)
    | _ => (10, s)
  if s.isEmpty then none
  else digits.foldlM (fun n c => do
    let d ← Json.hexValue? c
    if d < base then some (base * n + d) else none) 0

/-- The parts of a name between dots, without the empty one after a final dot. -/
def dotted (s : List Char) : List (List Char) :=
  let parts := Text.fields (· == '.') s
  if 1 < parts.length && parts.getLast? == some [] then parts.dropLast else parts

/-- The last part of a name is a number, so the whole must be an address. -/
def endsInNumber (s : List Char) : Bool :=
  match (dotted s).getLast? with
  | some part => (!part.isEmpty && part.all Char.isDigit) || (hostNumber? part).isSome
  | none => false

/-- The address of one to four numbers. The last one fills all bytes that are left. -/
def ipv4? (s : List Char) : Option Nat := do
  let numbers ← (dotted s).mapM hostNumber?
  let last ← numbers.getLast?
  let first := numbers.dropLast
  if 3 < first.length || Nat.pow 256 (4 - first.length) ≤ last || first.any (255 < ·) then none
  let high := first.zipIdx.foldl (fun high (n, i) => high + n * Nat.pow 256 (3 - i)) 0
  some (high + last)

def ipv4Text (n : Nat) : List Char :=
  let bytes := [n / 0x1000000 % 256, n / 0x10000 % 256, n / 0x100 % 256, n % 256]
  Text.joined ['.'] (bytes.map (Nat.toDigits 10))

/-! ### Eight pairs of bytes -/

def piece? (s : List Char) : Option Nat :=
  if s.isEmpty || 4 < s.length then none
  else s.foldlM (fun n c => (Json.hexValue? c).map (16 * n + ·)) 0

def decimalByte? (s : List Char) : Option Nat :=
  if s.isEmpty || 3 < s.length || !s.all Char.isDigit then none
  else if 1 < s.length && s.head? == some '0' then none
  else
    let n := s.foldl (fun n c => 10 * n + (c.toNat - '0'.toNat)) 0
    if n < 256 then some n else none

def dottedPieces? (s : List Char) : Option (List Nat) := do
  let bytes ← (Text.fields (· == '.') s).mapM decimalByte?
  match bytes with
  | [a, b, c, d] => some [256 * a + b, 256 * c + d]
  | _ => none

def pieces? (s : List Char) : Option (List Nat) :=
  if s.isEmpty then some []
  else
    let parts := Text.fields (· == ':') s
    match parts.getLast? with
    | none => none
    | some last => do
      let first ← parts.dropLast.mapM piece?
      let end_ ← if last.contains '.' then dottedPieces? last else (piece? last).map ([·])
      some (first ++ end_)

def atDoubleColon? : List Char → Option (List Char × List Char)
  | ':' :: ':' :: r => some ([], r)
  | c :: r => (atDoubleColon? r).map fun (a, b) => (c :: a, b)
  | [] => none

/-- The pieces of an address. A pair of colons stands for one or more pieces of zero. -/
def ipv6? (s : List Char) : Option (List Nat) :=
  match atDoubleColon? s with
  | none => (pieces? s).filter (·.length == 8)
  | some (before, after) => do
    let a ← if before.contains '.' then none else pieces? before
    let b ← pieces? after
    if 7 < a.length + b.length then none
    else some (a ++ List.replicate (8 - a.length - b.length) 0 ++ b)

def zeroRun (l : List Nat) : Nat := (l.takeWhile (· == 0)).length

def longestZeros? (pieces : List Nat) : Option (Nat × Nat) :=
  let runs := (List.range pieces.length).map fun i => (i, zeroRun (pieces.drop i))
  runs.foldl (fun best (i, n) =>
    if 1 < n && best.all (·.2 < n) then some (i, n) else best) none

def ipv6Text (pieces : List Nat) : List Char :=
  let text (l : List Nat) := Text.joined [':'] (l.map (Nat.toDigits 16))
  match longestZeros? pieces with
  | none => text pieces
  | some (i, n) => text (pieces.take i) ++ [':', ':'] ++ text (pieces.drop (i + n))

end PageAid.Web
