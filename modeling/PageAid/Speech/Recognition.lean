/-!
The speech recognition of a platform. A recognizer is created, started and stopped through its
number; the platform keeps the history of these requests and knows whether recognition is running.
A start is refused while it runs already.
-/

namespace PageAid.Speech

structure Options where
  continuous : Bool := true
  interimResults : Bool := false
  lang : String := "en-US"
deriving DecidableEq, Repr

inductive Request where
  | created (recognizer : Nat) (options : Options)
  | started (recognizer : Nat)
  | refused (recognizer : Nat)
  | stopped (recognizer : Nat)
deriving DecidableEq, Repr

structure Recognition where
  supported : Bool := true
  /-- Every start fails. -/
  broken : Bool := false
  running : Bool := false
  /-- The requests so far, the last one first. -/
  history : List Request := []
deriving DecidableEq, Repr

namespace Recognition

def created (r : Recognition) : Nat :=
  r.history.countP fun q => match q with | .created _ _ => true | _ => false

def starts (r : Recognition) : Nat :=
  r.history.countP fun q => match q with | .started _ => true | _ => false

def refusals (r : Recognition) : Nat :=
  r.history.countP fun q => match q with | .refused _ => true | _ => false

def stops (r : Recognition) : Nat :=
  r.history.countP fun q => match q with | .stopped _ => true | _ => false

def lastOptions? (r : Recognition) : Option Options :=
  r.history.findSome? fun q => match q with | .created _ o => some o | _ => none

/-- Creates a recognizer. Its number is one more than that of the one before. -/
def create? (r : Recognition) (o : Options) : Option (Nat × Recognition) :=
  if r.supported then
    let n := r.created + 1
    some (n, { r with history := .created n o :: r.history })
  else none

def start (r : Recognition) (n : Nat) : Recognition :=
  if r.broken || r.running then { r with history := .refused n :: r.history }
  else { r with running := true, history := .started n :: r.history }

def stop (r : Recognition) (n : Nat) : Recognition :=
  { r with running := false, history := .stopped n :: r.history }

def interrupted (r : Recognition) : Recognition := { r with running := false }

end Recognition

end PageAid.Speech
