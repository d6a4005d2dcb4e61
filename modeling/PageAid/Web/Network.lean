import PageAid.Web.Response
import PageAid.Web.Url

/-!
Requests and what comes of them: the machines that can be reached, and answers that name another
address, which is asked in turn.
-/

namespace PageAid.Web

/-! ### Addresses that can be requested -/

/-- What has been read of the place that an address names: the colons since the last `@` or
bracket, whether a bracket was opened and closed, and whether there is a percent sign since. -/
structure PlaceScan where
  colons : Nat := 0
  opened : Bool := false
  closed : Bool := false
  percent : Bool := false

def PlaceScan.step? (p : PlaceScan) (c : Char) : Option PlaceScan :=
  match c with
  | ':' => if p.colons < 8 then some { p with colons := p.colons + 1 } else none
  | '[' => if p.percent || p.opened then none else some { p with opened := true }
  | ']' =>
    if !p.opened || p.closed then none
    else some { p with closed := true, colons := 0, percent := false }
  | '@' => some { p with colons := 0, percent := false }
  | '%' => some { p with percent := true }
  | c =>
    if c.isAlphanum || ['!', '$', '&', '\'', '(', ')', '*', '+', ',', '-', '.', ';', '=', '_',
      '~'].contains c then some p
    else none

/-- A place that a request can name: a user before an `@`, a host that is not empty, and a port
after a colon. -/
def isPlace (s : List Char) : Bool :=
  match s.foldlM PlaceScan.step? {} with
  | some p =>
    !s.isEmpty && p.opened == p.closed && p.colons < 2 && !p.percent && s.getLast? != some '@'
  | none => false

/-- A request can name the address: it has less than 65535 characters, and a proper place after two
slashes, or it is of the form of a place itself. -/
def Url.isRequestable (url : Url) : Bool :=
  let text := url.whole
  text.length < 65535 && match text.drop url.scheme.length with
    | ':' :: '/' :: '/' :: r =>
      url.scheme.length < 65 && isPlace (r.takeWhile fun c => ! ['/', '?', '#'].contains c)
    | _ => isPlace text

/-! ### Requests -/

inductive Method where
  | get
  | post
deriving DecidableEq, Repr, Inhabited

def Method.name : Method → String
  | get => "GET"
  | post => "POST"

structure Request where
  method : Method
  url : Url
deriving DecidableEq, Repr, Inhabited

/-- The request for an address that a text names, if it names one that can be requested. User,
and password are not part of it. -/
def Request.of? (method : Method) (url : Url) : Option Request :=
  let url := { url with user := [] }
  if url.isRequestable then some { method, url } else none

/-- The request that an answer leads to: some statuses name another address, and some of them ask
for it without a body. -/
def Request.next? (q : Request) (r : Response) : Option Request := do
  let method ← match r.status with
    | 301 | 302 | 303 => some .get
    | 307 | 308 => some q.method
    | _ => none
  let place ← decodeUtf8? (← r.header? "location")
  let url ← q.url.join? (String.ofList place)
  if url.isRequestable then some { method, url } else none

/-! ### Machines -/

structure Network where
  /-- What the machine at an address and a port sends to those who ask. -/
  connect : Nat → Nat → Option Bytes
  /-- The address and the port of the machine that passes encrypted requests on. -/
  secureProxy : Option (Nat × Nat) := none

def Network.unreachable : Network := ⟨fun _ _ => none, none⟩

def Host.address? : Host → Option Nat
  | .v4 address => some address
  | .named name => if name == "localhost".toList then some (0x7F000001) else none
  | .v6 _ => none

structure Sent where
  line : String
  full : Bool
deriving DecidableEq, Repr, Inhabited

def Request.sent (q : Request) (target : List Char) : Sent :=
  { line := q.method.name ++ " " ++ String.ofList target ++ " HTTP/1.1"
    full := q.method == .post }

def Network.send (net : Network) (q : Request) : Option (Sent × Bytes) :=
  if q.url.scheme == "http".toList then do
    let address ← q.url.host.bind Host.address?
    let bytes ← net.connect address (q.url.port.getD 80)
    some (q.sent q.url.target, bytes)
  else if q.url.scheme == "https".toList then do
    let (address, port) ← net.secureProxy
    let bytes ← net.connect address port
    some (q.sent q.url.text, bytes)
  else none

structure Exchange where
  sent : List Sent := []
  response : Option Response := none

def Network.follow (net : Network) (q : Request) (most : Nat) : Exchange :=
  match net.send q with
  | none => {}
  | some (sent, bytes) =>
    match Response.ofBytes? bytes with
    | none => { sent := [sent] }
    | some response =>
      match q.next? response, most with
      | none, _ => { sent := [sent], response := some response }
      | some _, 0 => { sent := [sent] }
      | some next, n + 1 =>
        let rest := net.follow next n
        { rest with sent := sent :: rest.sent }

def mostRedirections : Nat := 10

def Network.exchange (net : Network) (method : Method) (url : Url) : Exchange :=
  match Request.of? method url with
  | some q => net.follow q mostRedirections
  | none => {}

end PageAid.Web
