import PageAid.Keyed
import PageAid.Text.Find

/-!
What an element carries besides its children: tag, identifier, classes, attributes, inline style
and the text that stands before the children.
-/

namespace PageAid

structure Markup where
  tag : String
  id : Option String := none
  classes : List String := []
  attrs : Keyed String := {}
  style : Keyed String := {}
  text : String := ""

namespace Markup

instance : Inhabited Markup := ⟨⟨"", none, [], {}, {}, ""⟩⟩

def hasClass (m : Markup) (name : String) : Bool := m.classes.contains name

/-- Adds a class at the end, or takes every occurrence away. -/
def setClass (m : Markup) (name : String) (on : Bool) : Markup :=
  if on then if m.hasClass name then m else { m with classes := m.classes ++ [name] }
  else { m with classes := m.classes.filter (· != name) }

def classChanges (m : Markup) (name : String) (on : Bool) : Bool := m.hasClass name != on

def hasId (m : Markup) (id : String) : Bool := m.id == some id

/-- Identifier and classes in ASCII lower case. The first class follows the identifier without a
gap. -/
def label (m : Markup) : String :=
  Text.asciiLower (m.id.getD "" ++ " ".intercalate m.classes)

end Markup

end PageAid
