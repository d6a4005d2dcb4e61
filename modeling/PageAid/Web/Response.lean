import PageAid.Text.Blank
import PageAid.Text.Split
import PageAid.Web.Charset
import PageAid.Web.Chunked
import PageAid.Web.ContentType

/-!
Answers as they are received: the head of a message, how it tells the end of the body, and the
body.
-/

namespace PageAid.Web

structure Head where
  /-- The older version of the protocol, which knows no chunks. -/
  old : Bool := false
  status : Nat
  headers : List Header := []
deriving Repr, Inhabited

namespace Head

def headerLimit : Nat := 100

def skipEmptyLines : Bytes → Bytes
  | 10 :: r => skipEmptyLines r
  | 13 :: 10 :: r => skipEmptyLines r
  | s => s

def version? (s : Bytes) : Option (Bool × Bytes) :=
  match asciiText (s.take 9) with
  | "HTTP/1.0 " => some (true, s.drop 9)
  | "HTTP/1.1 " => some (false, s.drop 9)
  | _ => none

def status? : Bytes → Option (Nat × Bytes)
  | a :: b :: c :: r =>
    let digits := [a, b, c].map fun d => Char.ofNat d.toNat
    let n := digits.foldl (fun n d => 10 * n + (d.toNat - '0'.toNat)) 0
    if digits.all Char.isDigit && 100 ≤ n then some (n, r) else none
  | _ => none

def afterPhrase? : Bytes → Option Bytes
  | 32 :: r => (restOfLine? r).map (·.2)
  | r => afterLineEnd? r

def ofBytes? (s : Bytes) : Option (Head × Bytes) := do
  let (old, r) ← version? (skipEmptyLines s)
  let (status, r) ← status? r
  let r ← afterPhrase? r
  let (headers, rest) ← Header.list? headerLimit r
  some ({ old, status, headers }, rest)

/-- More is to come: the head announces no answer, but a further head. -/
def isInformational (h : Head) : Bool := h.status < 200 && h.status != 101

def isBodiless (h : Head) : Bool := [101, 204, 304].contains h.status

def isChunked (h : Head) : Bool :=
  match (Header.values h.headers "transfer-encoding").getLast?.bind printable? with
  | some value =>
    let last := (Text.fields (· == ',') value.toList).getLast?.getD []
    Text.asciiLower (Text.trimmed (String.ofList last)) == "chunked"
  | none => false

def length? (s : List Char) : Option Nat :=
  let n := s.foldl (fun n c => 10 * n + (c.toNat - '0'.toNat)) 0
  if s.isEmpty || !s.all Char.isDigit || Nat.pow 2 64 - 2 ≤ n then none else some n

/-- The length of the body, if one is given; `none` inside unless all that are given agree. -/
def contentLength? (h : Head) : Option (Option Nat) :=
  match Header.values h.headers "content-length" with
  | [] => none
  | values => some do
    let texts ← values.mapM printable?
    let parts := texts.flatMap fun t => Text.fields (· == ',') t.toList
    let lengths ← parts.mapM fun part => length? (Text.trim part)
    let n ← lengths.head?
    if lengths.all (· == n) then some n else none

/-- The body of the message, given all that follows the head; `none` inside if it breaks off, and
`none` if the head does not tell where it ends. -/
def body? (h : Head) (rest : Bytes) : Option (Option Bytes) :=
  if h.isBodiless then some (some [])
  else if (Header.values h.headers "transfer-encoding").isEmpty then
    match h.contentLength? with
    | none => some (some rest)
    | some none => none
    | some (some n) => some (if rest.length < n then none else some (rest.take n))
  else if h.old then none
  else if h.isChunked then some (Chunked.body? rest)
  else some (some rest)

end Head

/-- An answer. The body is `none` if it breaks off. -/
structure Response where
  status : Nat
  headers : List Header := []
  body? : Option Bytes := some []
deriving Repr, Inhabited

namespace Response

def ofHeads? : Nat → Bytes → Option Response
  | 0, _ => none
  | fuel + 1, s => do
    let (head, rest) ← Head.ofBytes? s
    if head.isInformational then ofHeads? fuel rest
    else
      let body? ← head.body? rest
      some { status := head.status, headers := head.headers, body? }

def ofBytes? (s : Bytes) : Option Response := ofHeads? s.length s

def isSuccess (r : Response) : Bool := 200 ≤ r.status && r.status < 300

def header? (r : Response) (name : String) : Option Bytes := (Header.values r.headers name).head?

def contentType? (r : Response) : Option String := (r.header? "content-type").bind printable?

def text? (r : Response) : Option String := do
  let bytes ← r.body?
  let charset := ((r.contentType?.bind charsetLabel?).bind Charset.ofLabel?).getD .utf8
  some (String.ofList (charset.decodeBody bytes))

end Response

end PageAid.Web
