import PageAid.Json.Decode

/-!
The Pomodoro timer: phases of work and of rest that take turns, counted down in seconds. The first
tick of a timer shows the full time and counts nothing.
-/

namespace PageAid.Pomodoro

inductive Phase where
  | work
  | rest
deriving DecidableEq, Repr

namespace Phase

def label : Phase → String
  | work => "Work"
  | rest => "Break"

def name : Phase → String
  | work => "work"
  | rest => "break"

def flipped : Phase → Phase
  | work => rest
  | rest => work

end Phase

/-- Length of both phases in minutes. -/
structure Durations where
  work : Nat := 25
  rest : Nat := 5
deriving DecidableEq, Repr

def maxCount : Nat := 0xFFFFFFFF

/-- Minutes that a timer is given for a stored number: at least one, and no more than it can count
with. -/
def clampMinutes (n : Nat) : Nat := max 1 (min n maxCount)

def Durations.seconds (d : Durations) (p : Phase) : Nat :=
  min maxCount (60 * match p with | .work => d.work | .rest => d.rest)

structure State where
  phase : Phase
  remaining : Nat
  durations : Durations
  /-- The full time has been shown. -/
  rendered : Bool := false
deriving DecidableEq, Repr

inductive Tick where
  | rendered
  | counted
  | changed (phase : Phase)
deriving DecidableEq, Repr

namespace State

def start (d : Durations) : State :=
  { phase := .work, remaining := d.seconds .work, durations := d }

/-- One tick. A phase whose last second passes gives way to the other one. -/
def tick (s : State) : Tick × State :=
  if !s.rendered then (.rendered, { s with rendered := true })
  else if 1 < s.remaining then (.counted, { s with remaining := s.remaining - 1 })
  else
    let phase := s.phase.flipped
    (.changed phase, { s with phase := phase, remaining := s.durations.seconds phase })

def ticks : Nat → State → List Tick × State
  | 0, s => ([], s)
  | n + 1, s =>
    let (t, s) := s.tick
    let (ts, s) := ticks n s
    (t :: ts, s)

def display (s : State) : String :=
  let seconds := s.remaining % 60
  s.phase.label ++ ": " ++ toString (s.remaining / 60) ++ ":" ++
    (if seconds < 10 then "0" else "") ++ toString seconds

end State

/-! ### JSON -/

open Json

def Durations.toJson (d : Durations) : Json :=
  .object [("workMinutes", .nat d.work), ("breakMinutes", .nat d.rest)]

def Durations.ofJson? (v : Json) : Option Durations := do
  let r ← record? ["workMinutes", "breakMinutes"] v
  let work ← r.required "workMinutes" word32?
  let rest ← r.required "breakMinutes" word32?
  some { work, rest }

def Phase.ofJson? (v : Json) : Option Phase := do
  match ← alternative? false v with
  | "work" => some .work
  | "break" => some .rest
  | _ => none

def State.toJson (s : State) : Json :=
  .object [("phase", .string s.phase.name), ("remainingSeconds", .nat s.remaining),
    ("config", s.durations.toJson)]

/-- Reads a timer; it shows its time before it counts on. -/
def State.ofJson? (v : Json) : Option State := do
  let r ← record? ["phase", "remainingSeconds", "config"] v
  let phase ← r.required "phase" Phase.ofJson?
  let remaining ← r.required "remainingSeconds" word32?
  let durations ← r.required "config" Durations.ofJson?
  some { phase, remaining, durations }

end PageAid.Pomodoro
