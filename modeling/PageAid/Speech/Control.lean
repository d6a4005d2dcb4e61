import PageAid.Speech.Command
import PageAid.Speech.Event
import PageAid.Speech.Recognition

/-!
Voice control: it holds a recognizer from the moment it is switched on until it is switched off or
the microphone is refused, and starts the recognizer again whenever that ends of itself.
-/

namespace PageAid.Speech

inductive Outcome where
  | ignored
  | command (c : Command)
  | unmatched (transcript : String)
  | permissionDenied
  | restarted
  | ended
deriving DecidableEq, Repr

structure Control where
  held : Option Nat := none
deriving DecidableEq, Repr

namespace Control

def listening (c : Control) : Bool := c.held.isSome

def unsupportedMessage : String := "Speech Recognition is not supported by your browser."

/-- Switches voice control on: a recognizer is created unless one is held, and started. `none` when
the platform has no speech recognition. -/
def enable? (c : Control) (r : Recognition) : Option (Control × Recognition) :=
  match c.held with
  | some n => some (c, r.start n)
  | none => (r.create? {}).map fun (n, r) => (⟨some n⟩, r.start n)

def disable (c : Control) (r : Recognition) : Control × Recognition :=
  match c.held with
  | some n => (⟨none⟩, r.stop n)
  | none => (c, r)

def transcript? (results : List Result) : Option String :=
  (results.getLast?.bind (·.alternatives.head?)).map normalize

/-- Takes an event of the recognizer in. An end starts the recognizer again if `keep` holds. -/
def handle (c : Control) (r : Recognition) (e : Event) (keep : Bool) :
    Outcome × Control × Recognition :=
  match c.held, e with
  | none, _ => (.ignored, c, r)
  | some _, .result results =>
    match transcript? results with
    | none => (.ignored, c, r)
    | some t =>
      match interpret? t with
      | some command => (.command command, c, r)
      | none => (.unmatched t, c, r)
  | some n, .error kind =>
    if kind.isDenial then (.permissionDenied, ⟨none⟩, r.stop n) else (.ignored, c, r)
  | some n, .ended => if keep then (.restarted, c, r.start n) else (.ended, c, r)

end Control

end PageAid.Speech
