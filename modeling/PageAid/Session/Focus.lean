import PageAid.MainContent
import PageAid.Session.Basic

/-!
Focus mode: an overlay with the article of the page and a Pomodoro timer. The session of focus mode
is the reference to the overlay: while there is one, no second overlay is built.
-/

namespace PageAid

namespace Focus

def overlayId : String := "lumen-focus-overlay"
def contentId : String := "lumen-focus-content"
def toolsId : String := "lumen-focus-tools"
def closeId : String := "lumen-focus-close"
def timerId : String := "lumen-pomodoro-timer"

def noScrollClass : String := "lumen-no-scroll"

def notFoundMessage : String := "Lumen couldn't find the main content to focus on."

def overlay (article : Element) : Element :=
  let tools := ((Element.new "div").withId toolsId).withChild ((Element.new "div").withId timerId)
    |>.withChild (((Element.new "button").withId closeId).withText "× Exit Focus")
  let content := (((Element.new "div").withId contentId).withText article.text).withChildren
    article.children
  (((Element.new "div").withId overlayId).withChild tools).withChild content

end Focus

namespace Session

def tickInterval : Nat := 1000

def withoutTicks (s : Session) : Session :=
  { s with agenda := s.agenda.filter (!·.step.isTick) }

/-- Starts the Pomodoro timer anew; its first tick is due at once. -/
def startTimer (s : Session) (d : Pomodoro.Durations) : Session :=
  { s.withoutTicks with pomodoro := some (.start d) }.arrange 0 .tick

def cancelTimer (s : Session) : Session :=
  { s.withoutTicks with pomodoro := none }

def tick (s : Session) (due : Nat) : Session :=
  match s.pomodoro with
  | none => s
  | some state =>
    let (outcome, state) := state.tick
    let s := s.onPage (·.updateId Focus.timerId ({ · with text := state.display }))
    let s := match outcome with
      | .changed _ => { s with journal := { s.journal with chimes := s.journal.chimes + 1 } }
      | _ => s
    { s with
      pomodoro := some state, agenda := s.agenda ++ [⟨due + tickInterval, .tick⟩] }

/-- Switches focus mode on. Without an article the user is told and the switch is recorded as
off. -/
def enableFocus (s : Session) : Option Failure × Session :=
  if s.focus.isSome then (some (.alreadyActive "focus mode"), s)
  else
    match MainContent.article? s.document.body with
    | none =>
      (some (.contentNotFound Focus.notFoundMessage),
        (s.notify .error Focus.notFoundMessage).persist .focusMode false)
    | some article =>
      let s := s.onPage fun d => (d.append (Focus.overlay article)).setBodyClass
        Focus.noScrollClass true
      let s := { s with focus := some ⟨article.tag, MainContent.textSize article⟩ }
      (none, s.startTimer s.store.settings.durations)

/-- Switches focus mode off, whatever state it is in, and records that. -/
def disableFocus (s : Session) : Session :=
  let s := { s with focus := none }
  let s := s.onPage fun d => ((d.removeId Focus.overlayId).2).setBodyClass
    Focus.noScrollClass false
  s.cancelTimer.persist .focusMode false

end Session

end PageAid
