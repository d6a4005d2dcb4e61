/-!
What can go wrong, by cause, and the words in which the user is told.
-/

namespace PageAid

inductive AssistantError where
  | missingKey
  | request (detail : String)
  | api (status : Nat) (message : String)
  | emptyResponse
  | notAnImage (kind : String)
  | imageFetch (detail : String)
deriving DecidableEq, Repr

def AssistantError.message : AssistantError → String
  | missingKey => "no Gemini API key is configured"
  | request detail => "network error: " ++ detail
  | api status message => "API error " ++ toString status ++ ": " ++ message
  | emptyResponse => "the model returned no text"
  | notAnImage kind => "fetched resource is not an image: " ++ kind
  | imageFetch detail => "failed to fetch image: " ++ detail

inductive Failure where
  /-- The assistant has no key. -/
  | configuration
  | contentNotFound (message : String)
  | permissionDenied
  /-- The assistant or the network failed. -/
  | collaborator (message : String)
  | alreadyActive (what : String)
  | unsupported (message : String)
  | storage (message : String)
deriving DecidableEq, Repr

namespace Failure

def message : Failure → String
  | configuration => "Lumen needs a Gemini API key for AI features. Add one in the options page."
  | contentNotFound message => message
  | permissionDenied => "Lumen Voice Control: Please allow microphone access for this site."
  | collaborator message => message
  | alreadyActive what => what ++ " is already active"
  | unsupported message => message
  | storage message => "settings storage failed: " ++ message

/-- Failures that the user is not told about. -/
def silent : Failure → Bool
  | alreadyActive _ => true
  | _ => false

def ofAssistant : AssistantError → Failure
  | .missingKey => configuration
  | e => collaborator e.message

/-- A failure of the storage with its causes, the outermost first. -/
def ofCauses (causes : List String) : Failure := storage (": ".intercalate causes)

end Failure

end PageAid
