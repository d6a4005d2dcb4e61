import PageAid.Number.Binary

/-!
The alarm of the Pomodoro timer: a tone that sounds in pulses, with a pause as long as a pulse
after each, as a sequence of samples.
-/

namespace PageAid

def sampleRate : Nat := 44100

def alarmChannels : Nat := 1

/-- A tone of some frequency in pulses. -/
structure Alarm where
  frequency : Float32
  pulses : Nat
  /-- Samples of a pulse, and of a pause. -/
  span : Nat

namespace Alarm

/-- The alarm with pulses of so many milliseconds. A pulse has at least one sample. -/
def ofMilliseconds (frequency : Float32) (pulses milliseconds : Nat) : Alarm :=
  ⟨frequency, pulses, max 1 (milliseconds * sampleRate / 1000)⟩

def standard : Alarm := ofMilliseconds 880 4 150

def size (a : Alarm) : Nat := a.span * a.pulses * 2

def sounds (a : Alarm) (i : Nat) : Bool := i / a.span % 2 == 0

/-- Half of the circumference of the unit circle. -/
def halfTurn : Float32 := 3.14159265358979

def sample (a : Alarm) (i : Nat) : Float32 :=
  if a.sounds i then
    let seconds := i.toUInt64.toFloat32 / sampleRate.toUInt64.toFloat32
    Float32.sin (2 * halfTurn * a.frequency * seconds) * 0.25
  else 0

def sample? (a : Alarm) (i : Nat) : Option Float32 :=
  if i < a.size then some (a.sample i) else none

def zeros (a : Alarm) : Nat :=
  Nat.fold a.size (fun i _ count => if a.sample i == 0 then count + 1 else count) 0

def nanoseconds (a : Alarm) : Nat :=
  match Number.parts32 (a.size.toUInt64.toFloat32 / sampleRate.toUInt64.toFloat32) with
  | .finite _ significand exponent _ =>
    Number.roundScaled .toEven significand exponent 1000000000
  | _ => 0

end Alarm

end PageAid
