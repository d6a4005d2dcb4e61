import PageAid.Assistant.Prompt
import PageAid.Json.Reader
import PageAid.Speech.Event

/-!
The messages between the popup, the background worker and the page, the events of the page itself,
and their JSON forms. A message names its action, an event its kind; the other members are the
fields of that action or event.
-/

namespace PageAid

open Assistant Json

inductive FontChange where
  | increase
  | decrease
  | reset
deriving DecidableEq, Repr

def FontChange.name : FontChange → String
  | increase => "increase"
  | decrease => "decrease"
  | reset => "reset"

/-- The change of a name; an unknown name resets. -/
def FontChange.ofName (s : String) : FontChange :=
  if s == "increase" then increase else if s == "decrease" then decrease else reset

inductive Message where
  | ping
  | toggleFeature (key : String) (value : Bool)
  | adjustFontSize (value : FontChange)
  | addSkipLink
  | runSummarize (text : String)
  | runSimplify (text : String)
  | runTranslatePage (lang : String)
  | runImageDescription (srcUrl : String)
  | runAITranslatePage (language : String)
  | runAISummarizePage (length : SummaryLength)
  | runAIReadAloud (voice : String)
  | getVoiceStatus
  | closeCurrentTab
deriving DecidableEq, Repr

namespace Message

def actions : List String :=
  ["ping", "toggleFeature", "adjustFontSize", "addSkipLink", "runSummarize", "runSimplify",
    "runTranslatePage", "runImageDescription", "runAITranslatePage", "runAISummarizePage",
    "runAIReadAloud", "getVoiceStatus", "closeCurrentTab"]

def action : Message → String
  | ping => "ping"
  | toggleFeature _ _ => "toggleFeature"
  | adjustFontSize _ => "adjustFontSize"
  | addSkipLink => "addSkipLink"
  | runSummarize _ => "runSummarize"
  | runSimplify _ => "runSimplify"
  | runTranslatePage _ => "runTranslatePage"
  | runImageDescription _ => "runImageDescription"
  | runAITranslatePage _ => "runAITranslatePage"
  | runAISummarizePage _ => "runAISummarizePage"
  | runAIReadAloud _ => "runAIReadAloud"
  | getVoiceStatus => "getVoiceStatus"
  | closeCurrentTab => "closeCurrentTab"

def fields : Message → List (String × Json)
  | ping | addSkipLink | getVoiceStatus | closeCurrentTab => []
  | toggleFeature key value => [("key", .string key), ("value", .bool value)]
  | adjustFontSize value => [("value", .string value.name)]
  | runSummarize text => [("text", .string text)]
  | runSimplify text => [("text", .string text)]
  | runTranslatePage lang => [("lang", .string lang)]
  | runImageDescription srcUrl => [("srcUrl", .string srcUrl)]
  | runAITranslatePage language => [("language", .string language)]
  | runAISummarizePage length => [("length", .string length.name)]
  | runAIReadAloud voice => [("voice", .string voice)]

def tagName : String := "action"

def toJson (m : Message) : Json := .object ((tagName, .string m.action) :: m.fields)

def oneText? (name : String) (v : Json) : Option String := do
  (← record? [name] v).required name asString?

def ofFields? (action : String) (v : Json) : Option Message :=
  match action with
  | "ping" => some ping
  | "toggleFeature" => do
    let r ← record? ["key", "value"] v
    let key ← r.required "key" asString?
    let value ← r.required "value" asBool?
    some (toggleFeature key value)
  | "adjustFontSize" => do
    let r ← record? ["value"] v
    let name ← r.required "value" (alternative? true)
    some (adjustFontSize (.ofName name))
  | "addSkipLink" => some addSkipLink
  | "runSummarize" => (oneText? "text" v).map runSummarize
  | "runSimplify" => (oneText? "text" v).map runSimplify
  | "runTranslatePage" => (oneText? "lang" v).map runTranslatePage
  | "runImageDescription" => (oneText? "srcUrl" v).map runImageDescription
  | "runAITranslatePage" => (oneText? "language" v).map runAITranslatePage
  | "runAISummarizePage" => do
    let r ← record? ["length"] v
    let name ← r.required "length" (alternative? true)
    (SummaryLength.ofName? name).map runAISummarizePage
  | "runAIReadAloud" => (oneText? "voice" v).map runAIReadAloud
  | "getVoiceStatus" => some getVoiceStatus
  | "closeCurrentTab" => some closeCurrentTab
  | _ => none

/-- Reads a message; where `loose` holds, its action may be a number. -/
def ofJson? (loose : Bool) (v : Json) : Option Message := do
  let (action, fields) ← tagged? loose tagName actions v
  ofFields? action fields

end Message

inductive Reply where
  | ready
  | received
  | voiceStatus (listening : Bool)
deriving DecidableEq, Repr

namespace Reply

def toJson : Reply → Json
  | ready => .object [("status", .string "ready")]
  | received => .object [("status", .string "received")]
  | voiceStatus listening => .object [("listening", .bool listening)]

def status? (v : Json) : Option Reply := do
  let r ← record? ["status"] v
  match ← r.required "status" (alternative? false) with
  | "ready" => some ready
  | "received" => some received
  | _ => none

def listening? (v : Json) : Option Reply := do
  let r ← record? ["listening"] v
  (r.required "listening" asBool?).map voiceStatus

/-- Reads an answer: a status if there is one, else the state of voice control. -/
def ofJson? (v : Json) : Option Reply :=
  if v.isObject && v.isSound then status? v <|> listening? v else none

end Reply

inductive PageEvent where
  | pointerMove (y : Float)
  | voice (event : Speech.Event)
  | focusExitClicked
  | speechFinished (success : Bool)
deriving DecidableEq

namespace PageEvent

def tagName : String := "event"

def names : List String := ["pointerMove", "voice", "focusExitClicked", "speechFinished"]

def toJson : PageEvent → Json
  | pointerMove y => .object [(tagName, .string "pointerMove"), ("y", .ofFloat y)]
  | voice event => .object [(tagName, .string "voice"), ("voice", event.toJson)]
  | focusExitClicked => .object [(tagName, .string "focusExitClicked")]
  | speechFinished success =>
    .object [(tagName, .string "speechFinished"), ("success", .bool success)]

def ofFields? (name : String) (v : Json) : Option PageEvent :=
  match name with
  | "pointerMove" => do ((← record? ["y"] v).required "y" asFloat?).map pointerMove
  | "voice" => do ((← record? ["voice"] v).required "voice" (Speech.Event.ofJson? true)).map voice
  | "focusExitClicked" => some focusExitClicked
  | "speechFinished" => do
    ((← record? ["success"] v).required "success" asBool?).map speechFinished
  | _ => none

def ofJson? (loose : Bool) (v : Json) : Option PageEvent := do
  let (name, fields) ← tagged? loose tagName names v
  ofFields? name fields

end PageEvent

inductive HostInput where
  | message (m : Message)
  | event (e : PageEvent)
deriving DecidableEq

namespace HostInput

def ofJson? (v : Json) : Option HostInput :=
  (Message.ofJson? true v).map message <|> (PageEvent.ofJson? true v).map event

def read? (line : String) : Option HostInput := (Json.read? line).bind ofJson?

end HostInput

end PageAid
