import PageAid.Page.Document

/-!
The switches of the program. A switch is stored under a key that starts with `lumen-`; the key
doubles as the class that the style sheet looks for. Three colour filters exclude one another.
-/

namespace PageAid

inductive Toggle where
  | protanopia
  | deuteranopia
  | tritanopia
  | grayscale
  | highContrast
  | dyslexia
  | seizureProtect
  | focusRing
  | enlargeTargets
  | readingGuide
  | focusMode
  | voiceControl
  /-- Any other key: a plain class on the body. -/
  | other (name : String)
deriving DecidableEq, Repr

namespace Toggle

inductive Target where
  | rootClass
  | bodyClass
  | readingGuide
  | focusMode
  | voiceControl
deriving DecidableEq, Repr

def keyStart : String := "lumen-"

def named : List (String × Toggle) :=
  [("protanopia", protanopia), ("deuteranopia", deuteranopia), ("tritanopia", tritanopia),
    ("grayscale", grayscale), ("high-contrast", highContrast), ("dyslexia", dyslexia),
    ("seizure-protect", seizureProtect), ("focus-ring", focusRing),
    ("enlarge-targets", enlargeTargets), ("reading-guide", readingGuide),
    ("focus-mode", focusMode), ("voice-control", voiceControl)]

/-- The colour filters, of which at most one may be on. -/
def colorFilters : List Toggle := [protanopia, deuteranopia, tritanopia]

/-- The switch of a key. A key without a name is none, and the font scale is no switch. -/
def ofKey? (key : String) : Option Toggle := do
  let name ← Text.afterOpening? keyStart key
  if name == "" || name == "font-scale" then none
  else some ((named.lookup name).getD (other name))

def name : Toggle → String
  | protanopia => "protanopia"
  | deuteranopia => "deuteranopia"
  | tritanopia => "tritanopia"
  | grayscale => "grayscale"
  | highContrast => "high-contrast"
  | dyslexia => "dyslexia"
  | seizureProtect => "seizure-protect"
  | focusRing => "focus-ring"
  | enlargeTargets => "enlarge-targets"
  | readingGuide => "reading-guide"
  | focusMode => "focus-mode"
  | voiceControl => "voice-control"
  | other name => name

def key (t : Toggle) : String := keyStart ++ t.name

def isColorFilter (t : Toggle) : Bool := colorFilters.contains t

/-- Switches that never outlive the page they were made on. -/
def isSessionScoped (t : Toggle) : Bool := t == focusMode || t == voiceControl

def target : Toggle → Target
  | protanopia | deuteranopia | tritanopia | grayscale | highContrast => .rootClass
  | readingGuide => .readingGuide
  | focusMode => .focusMode
  | voiceControl => .voiceControl
  | _ => .bodyClass

def peers (t : Toggle) : List Toggle :=
  if t.isColorFilter then colorFilters.filter (· != t) else []

def setClass? (t : Toggle) (on : Bool) (d : Document) : Option Document :=
  match t.target with
  | .rootClass => some (d.setRootClass t.key on)
  | .bodyClass => some (d.setBodyClass t.key on)
  | _ => none

theorem ofKey?_key_of_mem {entry : String × Toggle} (h : entry ∈ named) :
    ofKey? entry.2.key = some entry.2 := by
  have all : ∀ e ∈ named, ofKey? e.2.key = some e.2 := by decide
  exact all entry h

end Toggle

end PageAid
