import PageAid.Session.Router

/-!
The passing of time. The entry of the agenda that is due first happens first, and of several that
are due at the same time the one that was arranged first.
-/

namespace PageAid.Session

def perform (s : Session) (e : Entry) : Session :=
  match e.step with
  | .tick => s.tick e.due
  | .begin task => s.begin task
  | .report r result => s.showAnswer r result
  | .write t result => s.writeBatch t result
  | .send t => s.sendNext t

/-- Carries out the entry at a position of the agenda, and takes it off. -/
def performAt (s : Session) (i : Nat) : Session :=
  match s.agenda[i]? with
  | none => s
  | some e => { s with agenda := s.agenda.eraseIdx i }.perform e

def earliest? (s : Session) (p : Entry → Bool) : Option Nat :=
  ((s.agenda.filter p).map (·.due)).min?

def next? (s : Session) (limit : Nat) : Option Session := do
  let due ← s.earliest? fun _ => true
  if due ≤ limit then
    let i ← s.agenda.findIdx? (·.due == due)
    some ({ s with clock := max s.clock due }.performAt i)
  else none

/-- Carries out what is due by a time, at most so many entries of the agenda. -/
def runTo (limit : Nat) : Nat → Session → Session
  | 0, s => s
  | n + 1, s =>
    match s.next? limit with
    | some s => runTo limit n s
    | none => s

/-- A bound on the entries of the agenda that an entry leads to, ticks apart. -/
def Step.size (nodes : Nat) : Step → Nat
  | .tick => 0
  | .begin _ => 2 * nodes + 4
  | .report _ _ => 1
  | .write t _ => 2 * t.left.length + 1
  | .send t => 2 * t.left.length

/-- A bound on the entries of the agenda that fall due by a time. -/
def load (s : Session) (limit : Nat) : Nat :=
  let nodes := s.document.body.descendants.length
  let steps := s.agenda.foldr (fun e n => Step.size nodes e.step + n) 0
  let ticks := s.tickers * ((limit - s.clock) / tickInterval + 2)
  steps + ticks

def settle (s : Session) : Session := runTo s.clock (s.load s.clock) s

def advance (s : Session) (milliseconds : Nat) : Session :=
  let limit := s.clock + milliseconds
  { runTo limit (s.load limit) s with clock := limit }

def drainWithin : Nat → Session → Session
  | 0, s => s
  | n + 1, s =>
    match s.earliest? (!·.step.isTick) with
    | some due => drainWithin n (s.advance (due - s.clock))
    | none => s

def drain (s : Session) : Session :=
  let s := s.settle
  drainWithin (s.load s.clock) s

/-- Messages and events, the passing of time and the steps between them, in any order: what the
page may go through. -/
inductive Happening where
  | message (m : Message)
  | event (e : PageEvent)
  | pause (milliseconds : Nat)
  | step (i : Nat)

def happen (s : Session) : Happening → Session
  | .message m => s.receive m
  | .event e => s.handleEvent e
  | .pause milliseconds => { s with clock := s.clock + milliseconds }
  | .step i => s.performAt i

def run (s : Session) (hs : List Happening) : Session := hs.foldl happen s

end PageAid.Session
