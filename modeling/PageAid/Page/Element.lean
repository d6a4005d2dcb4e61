import PageAid.Page.Selector

/-!
The tree of elements. Descendants are listed in document order, by themselves and with their
paths; an element is found, changed or removed by its identifier or by its path.
-/

namespace PageAid

inductive Element where
  | node (markup : Markup) (children : List Element)

/-- Positions to take from an element down to a descendant. -/
abbrev Path := List Nat

namespace Element

open Text

instance : Inhabited Element := ⟨node default []⟩

def markup : Element → Markup
  | node m _ => m

def children : Element → List Element
  | node _ cs => cs

def tag (e : Element) : String := e.markup.tag
def id (e : Element) : Option String := e.markup.id
def text (e : Element) : String := e.markup.text
def label (e : Element) : String := e.markup.label
def hasId (e : Element) (name : String) : Bool := e.markup.hasId name
def fits (e : Element) (group : List Selector) : Bool := e.markup.fits group

@[simp] theorem node_markup_children (e : Element) : node e.markup e.children = e := by
  cases e; rfl

def mapMarkup (f : Markup → Markup) : Element → Element
  | node m cs => node (f m) cs

def withChildren (cs : List Element) : Element → Element
  | node m _ => node m cs

/-- An element with nothing but a tag, in ASCII lower case. -/
def new (tag : String) : Element := node { tag := asciiLower tag } []

def withId (e : Element) (id : String) : Element := e.mapMarkup ({ · with id := some id })

def withClass (e : Element) (name : String) : Element := e.mapMarkup (·.setClass name true)

def withAttr (e : Element) (name value : String) : Element :=
  e.mapMarkup fun m => { m with attrs := m.attrs.insert name value }

def withText (e : Element) (text : String) : Element := e.mapMarkup ({ · with text := text })

def withChild (e child : Element) : Element := e.withChildren (e.children ++ [child])

/-! ### Traversals -/

mutual

def descendants : Element → List Element
  | node _ cs => descendantsIn cs

/-- Elements with all that stand below them, in document order. -/
def descendantsIn : List Element → List Element
  | [] => []
  | e :: r => e :: (e.descendants ++ descendantsIn r)

end

mutual

def located : Element → List (Path × Element)
  | node _ cs => locatedFrom 0 cs

/-- Siblings, the first of them at a position, and all that stand below them, with their paths. -/
def locatedFrom (position : Nat) : List Element → List (Path × Element)
  | [] => []
  | e :: r =>
    ([position], e) :: (e.located.map fun (p, x) => (position :: p, x)) ++
      locatedFrom (position + 1) r

end

mutual

/-- Visits the elements below this one in document order, each with its path. The path that leads
here goes along: on the way down a step is put at its end, and on the way back it is taken off. -/
def walk {σ : Type} (visit : Element → Path → σ → σ) : Element → Path × σ → Path × σ
  | node _ cs, reached => walkIn visit 0 cs reached

def walkIn {σ : Type} (visit : Element → Path → σ → σ) (position : Nat) :
    List Element → Path × σ → Path × σ
  | [], reached => reached
  | e :: r, (p, s) =>
    let p := p ++ [position]
    let (p, s) := e.walk visit (p, visit e p s)
    walkIn visit (position + 1) r (p.dropLast, s)

end

mutual

/-- The texts of the element and of all below it, trimmed, the empty ones left out. -/
def texts : Element → List (List Char)
  | node m cs =>
    let own := trim m.text.toList
    (if own.isEmpty then [] else [own]) ++ textsIn cs

def textsIn : List Element → List (List Char)
  | [] => []
  | e :: r => e.texts ++ textsIn r

end

def textContent (e : Element) : String := String.ofList (joined [' '] e.texts)

/-! ### Looking up -/

def query (e : Element) (group : List Selector) : Option Element :=
  e.descendants.find? (·.fits group)

def queryPath (e : Element) (group : List Selector) : Option Path :=
  (e.located.find? (·.2.fits group)).map (·.1)

def findId (e : Element) (id : String) : Option Element :=
  e.descendants.find? (·.hasId id)

def countId (e : Element) (id : String) : Nat :=
  e.descendants.countP (·.hasId id)

def at? : Path → Element → Option Element
  | [], e => some e
  | i :: p, e => e.children[i]?.bind (at? p)

/-! ### Changing -/

def updateAt? (f : Markup → Markup) : Path → Element → Option Element
  | [], e => some (e.mapMarkup f)
  | i :: p, e => do
    let child ← e.children[i]?
    let child ← updateAt? f p child
    some (e.withChildren (e.children.set i child))

mutual

/-- The tree with the markup of the first element below with an identifier changed. -/
def updateId? (id : String) (f : Markup → Markup) : Element → Option Element
  | node m cs => (updateIdIn? id f cs).map (node m)

def updateIdIn? (id : String) (f : Markup → Markup) : List Element → Option (List Element)
  | [] => none
  | e :: r =>
    if e.hasId id then some (e.mapMarkup f :: r)
    else
      match updateId? id f e with
      | some e' => some (e' :: r)
      | none => (updateIdIn? id f r).map (e :: ·)

end

mutual

/-- Takes an element with the identifier out of the tree: among the children if one of them carries
it, else below the first child that has such an element below it. -/
def removeId (id : String) : Element → Option Element × Element
  | node m cs =>
    match cs.findIdx? (·.hasId id) with
    | some i => (cs[i]?, node m (cs.eraseIdx i))
    | none =>
      let (removed, cs) := removeIdBelow id cs
      (removed, node m cs)

def removeIdBelow (id : String) : List Element → Option Element × List Element
  | [] => (none, [])
  | e :: r =>
    match removeId id e with
    | (some x, e') => (some x, e' :: r)
    | (none, e') =>
      let (removed, r') := removeIdBelow id r
      (removed, e' :: r')

end

mutual

/-- The tree without the elements below that fit the group, and without what stands below those. -/
def prune (group : List Selector) : Element → Element
  | node m cs => node m (pruneIn group cs)

def pruneIn (group : List Selector) : List Element → List Element
  | [] => []
  | e :: r => if e.fits group then pruneIn group r else e.prune group :: pruneIn group r

end

def prepended (e child : Element) : Element := e.withChildren (child :: e.children)

end Element

end PageAid
