import PageAid.Message
import PageAid.Session.Action
import PageAid.Session.Voice

/-!
What a page does with the messages and events that reach it. Every message is answered, also one
that fails; actions of the assistant begin after the answer.
-/

namespace PageAid.Session

def task? : Message → Option Task
  | .runSummarize text => some (.summarize text)
  | .runSimplify text => some (.simplify text)
  | .runTranslatePage lang => some (.translate lang)
  | .runAITranslatePage language => some (.translate language)
  | .runImageDescription url => some (.describeImage url)
  | .runAISummarizePage length => some (.summarizePage length)
  | .runAIReadAloud voice => some (.readAloud voice)
  | _ => none

def receive (s : Session) (m : Message) : Session :=
  match task? m with
  | some task => s.arrange 0 (.begin task)
  | none =>
    match m with
    | .toggleFeature key value =>
      match Toggle.ofKey? key with
      | some t => s.setToggle t value
      | none => s
    | .adjustFontSize change => (s.changeFontSize change).2
    | .addSkipLink => s.addSkipLink
    | _ => s

/-- The answer to a message, in the state before it. -/
def answer (s : Session) : Message → Reply
  | .ping => .ready
  | .getVoiceStatus => .voiceStatus s.voice.listening
  | _ => .received

def handle (s : Session) (m : Message) : Reply × Session :=
  (s.answer m, s.receive m)

def pointerMoved (s : Session) (y : Float) : Session :=
  s.onPage (s.guide.pointerMoved · y)

def handleEvent (s : Session) : PageEvent → Session
  | .pointerMove y => s.pointerMoved y
  | .voice e => (s.voiceEvent e).2
  | .focusExitClicked => s.disableFocus
  | .speechFinished success => s.speechFinished success

/-- Takes a line of input in. The result is `none` for a line that is neither a message nor an
event; an event has no answer. -/
def handleLine (s : Session) (line : String) : Option (Option Reply × Session) :=
  (HostInput.read? line).map fun
    | .message m => let (reply, s) := s.handle m; (some reply, s)
    | .event e => (none, s.handleEvent e)

end PageAid.Session
