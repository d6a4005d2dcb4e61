import PageAid.Speech.Utterance

/-!
The speech synthesis of a platform, which may be missing, and the log of what it was asked for.
-/

namespace PageAid.Speech

structure Synthesizer where
  voices : List Voice := []
  /-- The message with which it refuses every utterance, if it does. -/
  refusal : Option String := none

def voicesOf (s : Option Synthesizer) : List Voice :=
  match s with
  | some s => s.voices
  | none => []

def muteMessage : String := "Text-to-speech is not supported by your browser."

structure Log where
  spoken : List Utterance := []
  cancels : Nat := 0

namespace Log

instance : Inhabited Log := ⟨{}⟩

def cancel (l : Log) (s : Option Synthesizer) : Log :=
  if s.isSome then { l with cancels := l.cancels + 1 } else l

/-- Hands an utterance to the synthesizer, which takes it or refuses it with a message. -/
def speak (l : Log) (s : Option Synthesizer) (u : Utterance) : Except String Log :=
  match s with
  | none => .error muteMessage
  | some s =>
    match s.refusal with
    | some message => .error message
    | none => .ok { l with spoken := l.spoken ++ [u] }

end Log

end PageAid.Speech
