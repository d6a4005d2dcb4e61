import PageAid.Web.Address
import PageAid.Web.Domain
import PageAid.Web.Percent

/-!
Addresses of resources: a scheme, a host with a port where the scheme has one, a path and a query.
Reading is as forgiving as a browser's: blanks around and line breaks inside are dropped,
backslashes count as slashes in the common schemes, and the host is brought into its one written
form.
-/

namespace PageAid.Web

inductive Host where
  | named (name : List Char)
  | v4 (address : Nat)
  | v6 (pieces : List Nat)
deriving DecidableEq, Repr, Inhabited

def Host.text : Host → List Char
  | .named name => name
  | .v4 address => ipv4Text address
  | .v6 pieces => '[' :: (ipv6Text pieces ++ [']'])

/-- Schemes differ in how their addresses are read. -/
inductive SchemeKind where
  | web
  | file
  | other
deriving DecidableEq, Repr, Inhabited

def defaultPort? (scheme : List Char) : Option Nat :=
  match String.ofList scheme with
  | "http" | "ws" => some 80
  | "https" | "wss" => some 443
  | "ftp" => some 21
  | _ => none

def SchemeKind.ofScheme (scheme : List Char) : SchemeKind :=
  if (defaultPort? scheme).isSome then .web
  else if scheme == "file".toList then .file
  else .other

/-- In the known schemes a backslash counts as a slash. -/
def SchemeKind.isSlash (kind : SchemeKind) (c : Char) : Bool :=
  c == '/' || (c == '\\' && kind != .other)

/-- An address. The user, a name and perhaps a password after a colon, is written before an `@`;
the path starts with a slash where there is a host; the query is written after a question mark,
and the fragment after a number sign. -/
structure Url where
  scheme : List Char
  user : List Char := []
  host : Option Host := none
  port : Option Nat := none
  path : List Char := []
  query : Option (List Char) := none
  fragment : Option (List Char) := none
deriving DecidableEq, Repr, Inhabited

namespace Url

/-! ### Parts of an address -/

def cleaned (s : List Char) : List Char :=
  let blank (c : Char) : Bool := c.toNat ≤ 0x20
  let core := ((s.dropWhile blank).reverse.dropWhile blank).reverse
  core.filter fun c => ! ['\t', '\n', '\r'].contains c

def scheme? (s : List Char) : Option (List Char × List Char) :=
  match Text.cut? (· == ':') s with
  | some (c :: name, rest) =>
    if c.isAlpha && name.all fun d => d.isAlphanum || ['+', '-', '.'].contains d then
      some ((c :: name).map Char.toLower, rest)
    else none
  | _ => none

def endsAuthority (kind : SchemeKind) (c : Char) : Bool :=
  kind.isSlash c || c == '?' || c == '#'

def splitBefore (p : Char → Bool) (s : List Char) : List Char × List Char :=
  (s.takeWhile (!p ·), s.dropWhile (!p ·))

/-- The user's name and password, up to the last `@`, and what follows. -/
def credentials? (authority : List Char) : Option (List Char) × List Char :=
  match Text.cut? (· == '@') authority.reverse with
  | some (host, user) => (some user.reverse, host.reverse)
  | none => (none, authority)

/-- A host and what follows it. Inside brackets a colon belongs to the host. -/
def splitHost : Bool → List Char → List Char × List Char
  | _, [] => ([], [])
  | inside, c :: r =>
    if c == ':' && !inside then ([], c :: r)
    else
      let (host, rest) :=
        splitHost (if c == '[' then true else if c == ']' then false else inside) r
      (c :: host, rest)

/-- An address in brackets; `none` inside when it is no address. -/
def bracketed? (s : List Char) : Option (Option Host) :=
  match s with
  | '[' :: r =>
    if r.getLast? == some ']' then some ((ipv6? r.dropLast).map .v6) else some none
  | _ => none

def host? (s : List Char) : Option Host :=
  match bracketed? s with
  | some answer => answer
  | none => do
    let name ← domainToAscii? (decodeUtf8 (percentDecode s))
    if name.isEmpty then none
    else if endsInNumber name then (ipv4? name).map .v4
    else some (.named name)

def deniedInHost (c : Char) : Bool :=
  ['\x00', '\t', '\n', '\r', ' ', '#', '/', ':', '<', '>', '?', '@', '[', '\\', ']', '^',
    '|'].contains c

def opaqueHost? (s : List Char) : Option Host :=
  match bracketed? s with
  | some answer => answer
  | none =>
    if s.any deniedInHost then none
    else some (.named (percentEncode inControlSet s))

def port? (s : List Char) : Option (Option Nat) :=
  if s.isEmpty then some none
  else if s.all Char.isDigit then
    let n := s.foldl (fun n c => 10 * n + (c.toNat - '0'.toNat)) 0
    if n < 65536 then some (some n) else none
  else none

/-! ### The path -/

/-- A part of a path that names the part before it, or none. -/
inductive Dots where
  | one
  | two

/-- Dots may be written in percent-encoding. -/
def dots? (segment : List Char) : Option Dots :=
  match String.ofList (segment.map Char.toLower) with
  | "." | "%2e" => some .one
  | ".." | ".%2e" | "%2e." | "%2e%2e" => some .two
  | _ => none

def isDrive (segment : List Char) : Bool :=
  match segment with
  | [c, d] => c.isAlpha && (d == ':' || d == '|')
  | _ => false

/-- The segments of a path so far, the last one first, and whether a file's path has started with
a drive. -/
structure Walk where
  segments : List (List Char) := []
  drive : Bool := false

/-- One more segment of a path; `final` if no slash follows it. Two dots drop the segment before,
unless it is a drive. -/
def Walk.step (kind : SchemeKind) (w : Walk) (segment : List Char) (final : Bool) : Walk :=
  let ended (segments : List (List Char)) := if final then [] :: segments else segments
  match dots? segment with
  | some .one => { w with segments := ended w.segments }
  | some .two =>
    let kept := match w.segments with
      | before :: segments => if isDrive before then w.segments else segments
      | [] => []
    { w with segments := ended kept }
  | none =>
    if kind == .file && w.segments.isEmpty && isDrive segment then
      { segments := [segment.take 1 ++ [':']], drive := true }
    else { w with segments := segment :: w.segments }

def Walk.ofSegments (kind : SchemeKind) (w : Walk) : List (List Char) → Walk
  | [] => w
  | [last] => w.step kind last true
  | segment :: r => ofSegments kind (w.step kind segment false) r

def Walk.ofText (kind : SchemeKind) (w : Walk) (s : List Char) : Walk :=
  w.ofSegments kind ((Text.fields kind.isSlash s).map (percentEncode inPathSet))

def Walk.path (kind : SchemeKind) (w : Walk) : List Char :=
  let path := w.segments.reverse.flatMap ('/' :: ·)
  if kind == .file then '/' :: path.dropWhile (· == '/') else path

def resolvedPath (kind : SchemeKind) (s : List Char) : List Char × Bool :=
  if s.isEmpty && kind == .other then ([], false)
  else
    let w := Walk.ofText kind {} (match s with
      | c :: r => if kind.isSlash c then r else c :: r
      | [] => [])
    (w.path kind, w.drive)

/-! ### Addresses -/

structure Tail where
  path : List Char
  query : Option (List Char) := none
  fragment : Option (List Char) := none

def Tail.ofText (s : List Char) : Tail :=
  let (s, fragment) := match Text.cut? (· == '#') s with
    | some (before, fragment) => (before, some fragment)
    | none => (s, none)
  match Text.cut? (· == '?') s with
  | some (path, query) => { path, query := some query, fragment }
  | none => { path := s, fragment }

def withQuery (url : Url) (kind : SchemeKind) (tail : Tail) : Url :=
  let set : Char → Bool := fun c =>
    if kind == .other then inQuerySet c && c != '\'' else inQuerySet c
  { url with
    query := tail.query.map (percentEncode set)
    fragment := tail.fragment.map (percentEncode inFragmentSet) }

def withTail (url : Url) (kind : SchemeKind) (s : List Char) : Url × Bool :=
  let tail := Tail.ofText s
  let (path, drive) := resolvedPath kind tail.path
  (withQuery { url with path } kind tail, drive)

def userText (user : List Char) : List Char :=
  match Text.cut? (· == ':') user with
  | some (name, []) => percentEncode inUserSet name
  | some (name, password) =>
    percentEncode inUserSet name ++ ':' :: percentEncode inUserSet password
  | none => percentEncode inUserSet user

def ofAuthority? (scheme : List Char) (kind : SchemeKind) (s : List Char) : Option Url := do
  let (authority, tail) := splitBefore (endsAuthority kind) s
  let (user, place) := credentials? authority
  let (name, afterName) := splitHost false place
  if user == some [] && place.isEmpty && !tail.isEmpty then none
  let user := userText (user.getD [])
  if name.isEmpty && (kind == .web || !user.isEmpty || !afterName.isEmpty) then none
  let host ← if kind == .web then host? name else opaqueHost? name
  let (digits, more) := splitBefore (· == '\\') (afterName.drop 1)
  let port ← port? digits
  some (withTail
    { scheme, user
      host := some host
      port := if port == defaultPort? scheme then none else port } kind (more ++ tail)).1

def ofFile? (scheme : List Char) (s : List Char) : Option Url :=
  let kind := SchemeKind.file
  match s with
  | a :: b :: r =>
    if kind.isSlash a && kind.isSlash b then
      let (name, tail) := splitBefore (endsAuthority kind) r
      if name.isEmpty then some (withTail { scheme } kind tail).1
      else if isDrive name then some (withTail { scheme } kind r).1
      else do
        let host ← host? name
        let host := if host = .named "localhost".toList then none else some host
        let (url, drive) := withTail { scheme, host } kind tail
        some (if drive then { url with host := none } else url)
    else some (withTail { scheme } kind s).1
  | _ => some (withTail { scheme } kind s).1

/-- The address that a text holds, or `none` if it holds none that stands on its own. -/
def parse? (s : String) : Option Url := do
  let (scheme, rest) ← scheme? (cleaned s.toList)
  let kind := SchemeKind.ofScheme scheme
  match kind, rest with
  | .web, _ => ofAuthority? scheme kind (rest.dropWhile kind.isSlash)
  | .file, _ => ofFile? scheme rest
  | .other, '/' :: '/' :: r => ofAuthority? scheme kind r
  | .other, '/' :: _ => some (withTail { scheme } kind rest).1
  | .other, _ =>
    let tail := Tail.ofText rest
    some (withQuery { scheme, path := percentEncode inControlSet tail.path } kind tail)

/-! ### Addresses seen from another one -/

/-- The address that a text without a scheme names, seen from an address of the web. -/
def relative? (base : Url) (s : List Char) : Option Url :=
  let kind := SchemeKind.web
  let bare := { base with fragment := none }
  match s with
  | [] => some bare
  | '?' :: _ => some (withQuery bare kind (Tail.ofText s))
  | '#' :: fragment => some { base with fragment := some (percentEncode inFragmentSet fragment) }
  | '/' :: '/' :: r => ofAuthority? base.scheme kind r
  | c :: d :: r =>
    if kind.isSlash c && kind.isSlash d then
      ofAuthority? base.scheme kind (r.dropWhile kind.isSlash)
    else some (besides (c :: d :: r))
  | s => some (besides s)
where
  besides (s : List Char) : Url :=
    let kind := SchemeKind.web
    if (s.head?.map kind.isSlash).getD false then (withTail base kind s).1
    else
      let tail := Tail.ofText s
      let start := (Text.fields (· == '/') (base.path.drop 1)).dropLast.reverse
      let path := (Walk.ofText kind { segments := start } tail.path).path kind
      withQuery { base with path } kind tail

def join? (base : Url) (s : String) : Option Url :=
  let text := cleaned s.toList
  match scheme? text with
  | none => relative? base text
  | some (scheme, rest) =>
    let slashes := rest.takeWhile SchemeKind.web.isSlash
    if scheme == base.scheme && slashes.length < 2 then relative? base rest else parse? s

/-! ### The parts that a request names -/

def target (url : Url) : List Char :=
  url.path ++ (match url.query with | some q => '?' :: q | none => [])

def withField (url : Url) (name value : String) : Url :=
  let field := (formEncode name ++ "=" ++ formEncode value).toList
  { url with query := some (match url.query with
      | some [] | none => field
      | some q => q ++ '&' :: field) }

def authority (url : Url) (host : Host) : List Char :=
  (if url.user.isEmpty then [] else url.user ++ ['@']) ++ host.text ++
    (match url.port with | some p => ':' :: Nat.toDigits 10 p | none => [])

/-- What is written between the scheme and the path. A file's address has two slashes there even
without a host; a path that starts with two slashes is kept from being read as a host. -/
def place (url : Url) : List Char :=
  match url.host with
  | some host => '/' :: '/' :: url.authority host
  | none =>
    if SchemeKind.ofScheme url.scheme = .file then ['/', '/']
    else if ['/', '/'].isPrefixOf url.path then ['/', '.']
    else []

def text (url : Url) : List Char :=
  url.scheme ++ ':' :: url.place ++ url.target

def whole (url : Url) : List Char :=
  url.text ++ (match url.fragment with | some f => '#' :: f | none => [])

end Url

end PageAid.Web
