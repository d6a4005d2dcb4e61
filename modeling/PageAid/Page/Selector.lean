import PageAid.Page.Markup
import PageAid.Text.Blank

/-!
Selectors: a tag, a class, an identifier or an attribute with its value, and groups of them
separated by commas.
-/

namespace PageAid

inductive Selector where
  | tag (name : String)
  | cls (name : String)
  | id (name : String)
  | attr (name value : String)
deriving DecidableEq, Repr

namespace Selector

open Text

def isQuote (c : Char) : Bool := c == '"' || c == '\''

/-- The text between the quotes, of which there may be any number. -/
def unquoted (s : List Char) : List Char :=
  ((s.dropWhile isQuote).reverse.dropWhile isQuote).reverse

/-- The selector of an attribute: `name=value`, or a name alone for an empty value. -/
def ofAttribute (inner : List Char) : Selector :=
  let (name, value) := (cut? (· == '=') inner).getD (inner, [])
  attr (String.ofList (trim name)) (String.ofList (unquoted (trim value)))

/-- Reads one selector. Anything without a mark of its own is a tag. -/
def parse (s : List Char) : Selector :=
  let s := trim s
  match s with
  | '.' :: r => cls (String.ofList r)
  | '#' :: r => id (String.ofList r)
  | '[' :: r =>
    if r.getLast? == some ']' then ofAttribute r.dropLast else tag (asciiLower (String.ofList s))
  | _ => tag (asciiLower (String.ofList s))

def parseGroup (s : String) : List Selector :=
  (((fields (· == ',') s.toList).map trim).filter (!·.isEmpty)).map parse

/-- An element with this markup matches. Tags are compared without regard to ASCII case. -/
def admits (m : Markup) : Selector → Bool
  | tag name => asciiLower m.tag == asciiLower name
  | cls name => m.hasClass name
  | id name => m.hasId name
  | attr name value => m.attrs.get? name == some value

end Selector

def Markup.fits (m : Markup) (group : List Selector) : Bool :=
  group.any (·.admits m)

end PageAid
