import PageAid.Page.Element

/-!
The page: its body and root element, the event listeners registered on it, the scroll position,
and what the user is told through notices and the one modal dialogue.
-/

namespace PageAid

inductive EventKind where
  | pointerMove
  | click
deriving DecidableEq, Repr

inductive NoticeLevel where
  | info
  | success
  | error
deriving DecidableEq, Repr

structure Notice where
  level : NoticeLevel
  message : String
deriving DecidableEq, Repr

structure Modal where
  title : String
  body : String
  visible : Bool
deriving DecidableEq, Repr

abbrev ListenerId := Nat

def defaultViewport : Float := 800.0

structure Document where
  body : Element := Element.new "body"
  rootClasses : Names := {}
  rootStyle : Keyed String := {}
  /-- Registered listeners in the order of their numbers. -/
  listeners : List (ListenerId × EventKind) := []
  lastListener : Nat := 0
  scrollY : Float := 0.0
  viewportHeight : Float := defaultViewport
  scrollHeight : Float := 0.0
  notices : List Notice := []
  modal : Option Modal := none
  focused : Option String := none

namespace Document

instance : Inhabited Document := ⟨{}⟩

/-! ### Root and body -/

def hasRootClass (d : Document) (name : String) : Bool := d.rootClasses.has name

def setRootClass (d : Document) (name : String) (on : Bool) : Document :=
  { d with
    rootClasses := if on then d.rootClasses.insert name () else d.rootClasses.erase name }

def hasBodyClass (d : Document) (name : String) : Bool := d.body.markup.hasClass name

def setBodyClass (d : Document) (name : String) (on : Bool) : Document :=
  { d with body := d.body.mapMarkup (·.setClass name on) }

def setRootStyle (d : Document) (property value : String) : Document :=
  { d with rootStyle := d.rootStyle.insert property value }

/-! ### Elements -/

def findId (d : Document) (id : String) : Option Element := d.body.findId id

/-- The document with the markup of the first element with an identifier changed; nothing changes
when there is none. -/
def updateId (d : Document) (id : String) (f : Markup → Markup) : Document :=
  { d with body := (d.body.updateId? id f).getD d.body }

/-- The document with the markup at a path of the body changed; nothing changes when the path
leads nowhere. -/
def updateAt (d : Document) (p : Path) (f : Markup → Markup) : Document :=
  { d with body := (d.body.updateAt? f p).getD d.body }

def append (d : Document) (e : Element) : Document :=
  { d with body := d.body.withChild e }

def prepend (d : Document) (e : Element) : Document :=
  { d with body := d.body.prepended e }

def removeId (d : Document) (id : String) : Option Element × Document :=
  let (removed, body) := d.body.removeId id
  (removed, { d with body := body })

/-! ### Listeners -/

def addListener (d : Document) (kind : EventKind) : ListenerId × Document :=
  let n := d.lastListener + 1
  (n, { d with listeners := d.listeners ++ [(n, kind)], lastListener := n })

def hasListener (d : Document) (n : ListenerId) : Bool :=
  d.listeners.any (·.1 == n)

def removeListener (d : Document) (n : ListenerId) : Document :=
  { d with listeners := d.listeners.filter (·.1 != n) }

def listenerCount (d : Document) (kind : EventKind) : Nat :=
  d.listeners.countP (·.2 == kind)

/-! ### Scrolling -/

/-- Position of the top of the window when its bottom is at the end of the page. -/
def lastScroll (d : Document) : Float :=
  let room := d.scrollHeight - d.viewportHeight
  if room > 0.0 then room else 0.0

def scrollTo (d : Document) (y : Float) : Document :=
  let y := if y < 0.0 then 0.0 else y
  { d with scrollY := if y > d.lastScroll then d.lastScroll else y }

def scrollBy (d : Document) (distance : Float) : Document :=
  d.scrollTo (d.scrollY + distance)

/-! ### Telling the user -/

def focus (d : Document) (id : String) : Document := { d with focused := some id }

def notify (d : Document) (level : NoticeLevel) (message : String) : Document :=
  { d with notices := d.notices ++ [⟨level, message⟩] }

def showModal (d : Document) (title body : String) : Document :=
  { d with modal := some ⟨title, body, true⟩ }

def hideModal (d : Document) : Document :=
  { d with modal := d.modal.map ({ · with visible := false }) }

end Document

end PageAid
