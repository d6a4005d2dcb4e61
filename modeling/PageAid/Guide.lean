import PageAid.Page.Document
import PageAid.Number.Shortest

/-!
The reading guide: a band across the page that follows the pointer. The node on the page shows
whether the guide is on; the guide itself holds the number of its listener.
-/

namespace PageAid

structure Guide where
  listener : Option ListenerId := none

namespace Guide

def nodeId : String := "lumen-reading-guide-overlay"

def active (d : Document) : Bool := (d.findId nodeId).isSome

def detached (g : Guide) (d : Document) : Document :=
  match g.listener with
  | some n => d.removeListener n
  | none => d

/-- Switches the guide on or off. A band that is there already stays as it is; a listener whose
band is gone is dropped before a new band comes with a new listener. -/
def setEnabled (g : Guide) (d : Document) (on : Bool) : Guide × Document :=
  match on, active d with
  | true, false =>
    let d := (g.detached d).append ((Element.new "div").withId nodeId)
    let (n, d) := d.addListener .pointerMove
    (⟨some n⟩, d)
  | true, true => (g, d)
  | false, shown =>
    let d := g.detached d
    (⟨none⟩, if shown then (d.removeId nodeId).2 else d)

/-- The band moves to the height of the pointer, if the listener of the guide is registered. -/
def pointerMoved (g : Guide) (d : Document) (y : Float) : Document :=
  match g.listener with
  | some n =>
    if d.hasListener n then
      d.updateId nodeId fun m => { m with style := m.style.insert "top" (Number.plain y ++ "px") }
    else d
  | none => d

end Guide

end PageAid
