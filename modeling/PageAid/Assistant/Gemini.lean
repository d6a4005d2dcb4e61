import PageAid.Assistant.Query
import PageAid.Json.Decode
import PageAid.Json.Printer
import PageAid.Json.Reader
import PageAid.Text.Blank
import PageAid.Web.Network

/-!
The wire format of the Gemini models, and an assistant that speaks it.
-/

namespace PageAid.Assistant.Gemini

inductive Part where
  | text (content : String)
  | data (kind bytes : String)
deriving DecidableEq, Repr, Inhabited

structure Generation where
  temperature : Option Float32 := none
  maxOutputTokens : Option Nat := none
deriving Inhabited

/-- A request: messages of some parts each, and how the answer is generated. -/
structure Request where
  contents : List (List Part)
  generation : Option Generation := none
deriving Inhabited

namespace Part

def toJson : Part → Json
  | text content => .object [("text", .string content)]
  | data kind bytes =>
    .object [("inlineData", .object [("mimeType", .string kind), ("data", .string bytes)])]

def ofText? (v : Json) : Option Part := do
  let r ← Json.record? ["text"] v
  text <$> r.required "text" Json.asString?

def ofData? (v : Json) : Option Part := do
  let r ← Json.record? ["inlineData"] v
  r.required "inlineData" fun v => do
    let r ← Json.record? ["mimeType", "data"] v
    data (← r.required "mimeType" Json.asString?) (← r.required "data" Json.asString?)

/-- A part is an object with a text, or else with data. -/
def ofJson? (v : Json) : Option Part :=
  if v.isObject && v.isSound then ofText? v <|> ofData? v else none

end Part

def parts? (v : Json) : Option (List Part) := do
  let r ← Json.record? ["parts"] v
  r.required "parts" (Json.list? Part.ofJson?)

namespace Generation

def toJson (number : Float32 → Json) (g : Generation) : Json :=
  .object ((g.temperature.map fun t => ("temperature", number t)).toList ++
    (g.maxOutputTokens.map fun n => ("maxOutputTokens", Json.nat n)).toList)

def ofJson? (v : Json) : Option Generation := do
  let r ← Json.record? ["temperature", "maxOutputTokens"] v
  some { temperature := ← r.nullable "temperature" Json.float32?
         maxOutputTokens := ← r.nullable "maxOutputTokens" Json.word32? }

end Generation

namespace Request

def toJsonWith (number : Float32 → Json) (r : Request) : Json :=
  let contents := r.contents.map fun parts =>
    Json.object [("parts", .array (parts.map Part.toJson))]
  .object (("contents", .array contents) ::
    (r.generation.map fun g => ("generationConfig", g.toJson number)).toList)

def toJson : Request → Json := toJsonWith fun t => .ofFloat t.toFloat

/-- The request as its text reads; its temperature is written with the fewest digits that tell it
from other 32-bit numbers. -/
def body : Request → Json := toJsonWith fun t =>
  .ofFloat (((Json.read? (Number.plain32 t)).bind Json.asFloat?).getD t.toFloat)

def ofJson? (v : Json) : Option Request := do
  let r ← Json.record? ["contents", "generationConfig"] v
  some { contents := ← r.required "contents" (Json.list? parts?)
         generation := ← r.nullable "generationConfig" Generation.ofJson? }

/-- The request for an answer to a query. Texts are generated with little chance. -/
def ofQuery : Query → Request
  | .generate prompt =>
    { contents := [[.text prompt]]
      generation := some { temperature := some 0.1, maxOutputTokens := some 2000 } }
  | .describe prompt kind data => { contents := [[.text prompt, .data kind data]] }

end Request

/-- An answer: the parts of its candidates, so far as they have content. -/
structure Response where
  candidates : List (Option (List Part))
deriving DecidableEq, Repr, Inhabited

namespace Response

def ofJson? (v : Json) : Option Response := do
  let r ← Json.record? ["candidates"] v
  Response.mk <$> r.defaulted "candidates" [] (Json.list? fun v => do
    let r ← Json.record? ["content"] v
    r.nullable "content" parts?)

def firstText? (r : Response) : Option String := do
  let parts ← (← r.candidates.head?)
  parts.findSome? fun
    | .text content => some content
    | .data .. => none

end Response

def errorMessage? (body : String) : Option String := do
  let r ← Json.record? ["error"] (← Json.read? body)
  r.required "error" fun v => do
    let r ← Json.record? ["message"] v
    r.required "message" Json.asString?

def answerOf (response : Web.Response) : Except AssistantError String :=
  match response.text? with
  | none => .error (.request "")
  | some body =>
    if !response.isSuccess then .error (.api response.status ((errorMessage? body).getD body))
    else match (Json.read? body).bind Response.ofJson? with
      | none => .error (.api 500 "Failed to parse response: ")
      | some r => match r.firstText? with
        | none => .error .emptyResponse
        | some text => .ok text

def defaultBase : String := "https://generativelanguage.googleapis.com/v1beta"

def defaultModel : String := "gemini-2.0-flash"

structure Client where
  key : Option String
  base : String := defaultBase
  model : String := defaultModel

structure Sent where
  line : String
  body : Option Json

namespace Client

def key? (c : Client) : Option String := c.key.filter (!Text.allBlank ·)

def url? (c : Client) (key : String) : Option Web.Url :=
  (Web.Url.parse? (c.base ++ "/models/" ++ c.model ++ ":generateContent")).map
    (·.withField "key" key)

/-- Asks the model: what was sent last, if anything, and the answer. -/
def ask (c : Client) (net : Web.Network) (q : Query) :
    Option Sent × Except AssistantError String :=
  match c.key? with
  | none => (none, .error .missingKey)
  | some key =>
    match c.url? key with
    | none => (none, .error (.request ""))
    | some url =>
      let exchange := net.exchange .post url
      let sent := exchange.sent.getLast?.map fun sent =>
        { line := sent.line, body := if sent.full then some (Request.ofQuery q).body else none }
      (sent, (exchange.response.map answerOf).getD (.error (.request "")))

def backend (c : Client) (net : Web.Network) : Backend :=
  ⟨c.key?.isSome, fun _ q => { result := (c.ask net q).2 }⟩

end Client

end PageAid.Assistant.Gemini
