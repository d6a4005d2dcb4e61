import PageAid.Text.Blank
import PageAid.Text.Case
import PageAid.Text.Find

/-!
Spoken commands: a transcript is trimmed and put into lower case, and the first command of the
list with a phrase in it is the one that is meant.
-/

namespace PageAid.Speech

inductive Command where
  | scrollDown
  | scrollUp
  | goToTop
  | goToBottom
  | enterFocusMode
  | exitFocusMode
  | disableVoice
deriving DecidableEq, Repr

namespace Command

def name : Command → String
  | scrollDown => "scroll-down"
  | scrollUp => "scroll-up"
  | goToTop => "go-to-top"
  | goToBottom => "go-to-bottom"
  | enterFocusMode => "enter-focus-mode"
  | exitFocusMode => "exit-focus-mode"
  | disableVoice => "disable-voice"

/-- The commands with their phrases. An earlier command takes precedence over a later one. -/
def phrases : List (Command × List String) :=
  [(scrollDown, ["scroll down"]), (scrollUp, ["scroll up"]), (goToTop, ["go to top"]),
    (goToBottom, ["go to bottom"]), (enterFocusMode, ["focus mode", "reader mode"]),
    (exitFocusMode, ["exit focus", "close reader"]),
    (disableVoice, ["stop listening", "voice off"])]

def ofName? (s : String) : Option Command :=
  (phrases.map (·.1)).find? (·.name == s)

/-- Commands that change a stored switch. -/
def durable (c : Command) : Bool :=
  c == enterFocusMode || c == exitFocusMode || c == disableVoice

end Command

def scrollShare : Float := 0.8

def normalize (transcript : String) : String := Text.lower (Text.trimmed transcript)

def interpret? (transcript : String) : Option Command :=
  (Command.phrases.find? fun (_, phrases) => phrases.any (Text.contains transcript ·)).map (·.1)

end PageAid.Speech
