import PageAid.Session.Toggle

/-!
Spoken commands carried out on the page.
-/

namespace PageAid.Session

open Speech

def execute (s : Session) : Command → Session
  | .scrollDown => s.onPage fun d => d.scrollBy (d.viewportHeight * scrollShare)
  | .scrollUp => s.onPage fun d => d.scrollBy (-(d.viewportHeight * scrollShare))
  | .goToTop => s.onPage (·.scrollTo 0.0)
  | .goToBottom => s.onPage fun d => d.scrollTo d.scrollHeight
  | .enterFocusMode =>
    match s.enableFocus with
    | (none, s) => s.persist .focusMode true
    | (some _, s) => s
  | .exitFocusMode => s.disableFocus
  | .disableVoice => (s.persist .voiceControl false).disableVoice

/-- Takes an event of the recognizer in and acts on its outcome. Recognition goes on after its end
for as long as the switch is recorded as on. -/
def voiceEvent (s : Session) (e : Speech.Event) : Outcome × Session :=
  let (outcome, voice, recognition) := s.voice.handle s.recognition e (s.flag .voiceControl)
  let s := { s with voice := voice, recognition := recognition }
  match outcome with
  | .command c => (outcome, s.execute c)
  | .permissionDenied =>
    (outcome, (s.persist .voiceControl false).notify .error Failure.permissionDenied.message)
  | _ => (outcome, s)

end PageAid.Session
