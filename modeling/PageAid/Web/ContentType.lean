import PageAid.Text.Find
import PageAid.Text.Split

/-!
Content types: the kind of a body, such as `text/html`, and parameters after semicolons, one of
which may name the encoding.
-/

namespace PageAid.Web

def inToken (c : Char) : Bool :=
  c.isAlphanum ||
    ['!', '#', '$', '%', '&', '\'', '*', '+', '-', '.', '^', '_', '\x60', '|', '~'].contains c

def token (s : List Char) : List Char × List Char := (s.takeWhile inToken, s.dropWhile inToken)

def inQuotes (c : Char) : Bool := 31 < c.toNat && c.toNat != 127

/-- A value in quotes, given what follows the first one, and what follows the value up to the next
parameter. The value has at least one character, which may be a quote. -/
def quotedValue? (s : List Char) : Option (List Char × List Char) := do
  let (value, rest) ← Text.cut? (· == '"') (s.drop 1)
  let value := s.take 1 ++ value
  if !value.all inQuotes then none
  match rest.dropWhile (· == ' ') with
  | [] => some (value, [])
  | ';' :: r => some (value, r)
  | _ => none

def value? (s : List Char) : Option (List Char × List Char) :=
  match s with
  | '"' :: r => quotedValue? r
  | s =>
    match token s with
    | (value, []) => some (value, [])
    | (c :: value, ';' :: r) => some (c :: value, r)
    | _ => none

/-- The parameters of a content type, given what follows a semicolon; `none` if they are malformed.
The fuel is the length of the text. -/
def parameters? : Nat → List Char → Option (List (List Char × List Char))
  | _, [] => some []
  | 0, _ => none
  | fuel + 1, ' ' :: r => parameters? fuel r
  | fuel + 1, s =>
    match token s with
    | (c :: name, '=' :: r) => do
      let (value, rest) ← value? r
      let others ← parameters? fuel rest
      some ((c :: name, value) :: others)
    | _ => none

def charsetLabel? (contentType : String) : Option String :=
  match token contentType.toList with
  | (_ :: _, '/' :: r) =>
    match token r with
    | (_ :: _, ';' :: r) => do
      let list ← parameters? r.length r
      let found ← list.find? fun (name, _) => Text.asciiLower (String.ofList name) == "charset"
      some (String.ofList found.2)
    | _ => none
  | _ => none

end PageAid.Web
