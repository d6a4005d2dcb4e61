import PageAid.Text.Case
import PageAid.Text.Find

/-!
Reading aloud: what is handed to a speech synthesizer, and which of its voices is chosen. A voice
suits a persona if its name or its language contains one of the persona's hints.
-/

namespace PageAid.Speech

structure Voice where
  name : String
  lang : String
deriving DecidableEq, Repr

structure Utterance where
  text : String
  rate : Float32
  pitch : Float32 := 1.0
  volume : Float32 := 1.0
  /-- Name of the voice; the platform chooses one if there is none. -/
  voice : Option String := none

def utteranceLimit : Nat := 2000

def readingRate : Float32 := 0.8

/-- Parts of a name or language that suit a persona. A persona without hints of its own has those
of the default one. -/
def hints (persona : String) : List String :=
  match persona with
  | "Puck" => ["male", "english", "us", "alex", "daniel"]
  | "Zephyr" => ["female", "english", "uk", "victoria", "kate"]
  | "Charon" => ["male", "english", "us", "fred", "thomas"]
  | _ => ["female", "google", "english", "karen", "samantha"]

def Voice.suits (v : Voice) (hints : List String) : Bool :=
  let name := Text.lower v.name
  let lang := Text.lower v.lang
  hints.any fun hint => Text.contains name hint || Text.contains lang hint

def pickVoice? (voices : List Voice) (persona : String) : Option Voice :=
  voices.find? (·.suits (hints persona)) <|> voices.head?

def reading (content persona : String) (voices : List Voice) : Utterance :=
  { text := String.ofList (content.toList.take utteranceLimit)
    rate := readingRate
    voice := (pickVoice? voices persona).map (·.name) }

end PageAid.Speech
