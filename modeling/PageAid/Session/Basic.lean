import PageAid.Assistant.Prompt
import PageAid.Assistant.Translation
import PageAid.Guide
import PageAid.Session.Platform
import PageAid.Settings.Store
import PageAid.Speech.Control
import PageAid.Toggle

/-!
The state of one page: its document, the settings store, the features that are on, and the agenda
of what is still to happen by itself, namely the ticks of the Pomodoro timer and the further steps
of actions that wait for an answer.
-/

namespace PageAid

inductive Task where
  | summarize (text : String)
  | simplify (text : String)
  | describeImage (url : String)
  | summarizePage (length : Assistant.SummaryLength)
  | translate (language : String)
  | readAloud (persona : String)
deriving DecidableEq, Repr

/-- How the outcome of an action is shown: a title for the result, and the words around the message
of a failure. -/
structure Report where
  title : String
  before : String
  after : String := ""
deriving DecidableEq, Repr

/-- A translation under way: the batch that was sent last and those that are left. -/
structure Translation where
  language : String
  sent : List Assistant.Run
  left : List (List Assistant.Run)
  /-- Number of the batch that was sent last, counted from zero. -/
  batch : Nat
  batches : Nat
  written : Nat
deriving DecidableEq, Repr

inductive Step where
  | tick
  | begin (task : Task)
  | report (r : Report) (result : Except AssistantError String)
  | write (t : Translation) (result : Except AssistantError String)
  | send (t : Translation)

structure Entry where
  due : Nat
  step : Step

def Step.isTick : Step → Bool
  | tick => true
  | _ => false

structure FocusSession where
  sourceTag : String
  articleChars : Nat
deriving DecidableEq, Repr

structure Session where
  platform : Platform
  document : Document := {}
  store : Store := {}
  medium : Medium := none
  guide : Guide := {}
  focus : Option FocusSession := none
  pomodoro : Option Pomodoro.State := none
  voice : Speech.Control := {}
  recognition : Speech.Recognition := {}
  translating : Bool := false
  readingAloud : Bool := false
  /-- What is still to happen, in the order in which it was arranged. -/
  agenda : List Entry := []
  /-- Milliseconds that have passed. -/
  clock : Nat := 0
  journal : Journal := {}

namespace Session

def onPage (s : Session) (f : Document → Document) : Session :=
  { s with document := f s.document }

def notify (s : Session) (level : NoticeLevel) (message : String) : Session :=
  s.onPage (·.notify level message)

def showModal (s : Session) (title body : String) : Session :=
  s.onPage (·.showModal title body)

def arrange (s : Session) (delay : Nat) (step : Step) : Session :=
  { s with agenda := s.agenda ++ [⟨s.clock + delay, step⟩] }

/-- Sets a value in the store. That the file could not be written shows nowhere on the page. -/
def storeValue (s : Session) (a : Area) (key : String) (v : Json) : Session :=
  let w := s.store.set s.medium a key v
  { s with store := w.store, medium := w.medium }

def persist (s : Session) (t : Toggle) (on : Bool) : Session :=
  s.storeValue .device t.key (.bool on)

def flag (s : Session) (t : Toggle) : Bool := s.store.settings.flag t.key

def tickers (s : Session) : Nat := s.agenda.countP (·.step.isTick)

end Session

end PageAid
