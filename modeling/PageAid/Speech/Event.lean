import PageAid.Json.Decode

/-!
What a speech recognizer reports: results, errors and its end.
-/

namespace PageAid.Speech

inductive ErrorKind where
  | notAllowed
  | serviceNotAllowed
  | noSpeech
  | aborted
  | audioCapture
  | network
  | other (code : String)
deriving DecidableEq, Repr

namespace ErrorKind

def coded : List (String × ErrorKind) :=
  [("not-allowed", notAllowed), ("service-not-allowed", serviceNotAllowed),
    ("no-speech", noSpeech), ("aborted", aborted), ("audio-capture", audioCapture),
    ("network", network)]

def ofCode (code : String) : ErrorKind := (coded.lookup code).getD (other code)

def code : ErrorKind → String
  | notAllowed => "not-allowed"
  | serviceNotAllowed => "service-not-allowed"
  | noSpeech => "no-speech"
  | aborted => "aborted"
  | audioCapture => "audio-capture"
  | network => "network"
  | other code => code

def isDenial (k : ErrorKind) : Bool := k == notAllowed || k == serviceNotAllowed

end ErrorKind

/-- One result, the best alternative first. -/
structure Result where
  alternatives : List String
deriving DecidableEq, Repr

def Result.single (transcript : String) : Result := ⟨[transcript]⟩

inductive Event where
  | result (results : List Result)
  | error (kind : ErrorKind)
  | ended
deriving DecidableEq, Repr

/-! ### JSON -/

open Json

def Result.toJson (r : Result) : Json := .object [("alternatives", strings r.alternatives)]

def Result.ofJson? (v : Json) : Option Result := do
  let r ← record? ["alternatives"] v
  (r.required "alternatives" (list? asString?)).map Result.mk

namespace Event

def tagName : String := "type"

def names : List String := ["result", "error", "end"]

def toJson : Event → Json
  | result results =>
    .object [(tagName, .string "result"), ("results", .array (results.map Result.toJson))]
  | error kind => .object [(tagName, .string "error"), ("error", .string kind.code)]
  | ended => .object [(tagName, .string "end")]

/-- Reads an event; where `loose` holds, its tag may be a number. -/
def ofJson? (loose : Bool) (v : Json) : Option Event := do
  let (name, fields) ← tagged? loose tagName names v
  match name with
  | "result" =>
    let r ← record? ["results"] fields
    (r.required "results" (list? Result.ofJson?)).map result
  | "error" =>
    let r ← record? ["error"] fields
    (r.required "error" asString?).map (error <| .ofCode ·)
  | _ => some ended

end Event

end PageAid.Speech
