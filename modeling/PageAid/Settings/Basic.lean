import PageAid.Json.Decode
import PageAid.Json.Printer
import PageAid.Json.Reader
import PageAid.Pomodoro

/-!
The settings of a user: one partition that follows the user from device to device and one for this
installation, each a map from keys to JSON values. Readers give a default for anything missing or
of the wrong kind.
-/

namespace PageAid

inductive Area where
  | synced
  | device
deriving DecidableEq, Repr

structure Settings where
  synced : Keyed Json := {}
  device : Keyed Json := {}

namespace Settings

instance : Inhabited Settings := ⟨{}⟩

def blockedSitesKey : String := "blockedSites"
def workKey : String := "pomodoroWork"
def breakKey : String := "pomodoroBreak"
def fontScaleKey : String := "lumen-font-scale"

def defaultBlockedSites : List String :=
  ["twitter.com", "youtube.com", "facebook.com", "reddit.com"]

def defaultWork : Nat := 25
def defaultBreak : Nat := 5
def defaultFontScale : Float := 1.0

def area (s : Settings) : Area → Keyed Json
  | .synced => s.synced
  | .device => s.device

def get? (s : Settings) (a : Area) (key : String) : Option Json := (s.area a).get? key

def insert (s : Settings) (a : Area) (key : String) (v : Json) : Settings :=
  match a with
  | .synced => { s with synced := s.synced.insert key v }
  | .device => { s with device := s.device.insert key v }

def insertMany (s : Settings) (a : Area) (entries : List (String × Json)) : Settings :=
  entries.foldl (fun s (k, v) => s.insert a k v) s

theorem get?_insert (s : Settings) (a b : Area) (key other : String) (v : Json) :
    (s.insert a key v).get? b other =
      if a = b ∧ key = other then some v else s.get? b other := by
  cases a <;> cases b <;> simp [insert, get?, area]

/-! ### Readers -/

/-- A switch of this installation: on only if it is stored as true. -/
def flag (s : Settings) (key : String) : Bool :=
  ((s.get? .device key).bind Json.asBool?).getD false

def fontScale (s : Settings) : Float :=
  ((s.get? .device fontScaleKey).bind Json.asFloat?).getD defaultFontScale

def minutes (s : Settings) (key : String) (default : Nat) : Nat :=
  ((s.get? .synced key).bind Json.asNat?).getD default

def pomodoroMinutes (s : Settings) : Nat × Nat :=
  (s.minutes workKey defaultWork, s.minutes breakKey defaultBreak)

def durations (s : Settings) : Pomodoro.Durations :=
  let (work, rest) := s.pomodoroMinutes
  ⟨Pomodoro.clampMinutes work, Pomodoro.clampMinutes rest⟩

def blockedSites (s : Settings) : List String :=
  ((s.get? .synced blockedSitesKey).bind (Json.list? Json.asString?)).getD []

/-- What a new installation starts with; values under other keys stay. -/
def withDefaults (s : Settings) : Settings :=
  (((s.insert .synced blockedSitesKey (Json.strings defaultBlockedSites)).insert
    .synced workKey (.nat defaultWork)).insert .synced breakKey (.nat defaultBreak)).insert
      .device fontScaleKey (.ofFloat defaultFontScale)

/-! ### Text -/

def toJson (s : Settings) : Json :=
  .object [("sync", .ofKeyed s.synced), ("local", .ofKeyed s.device)]

def print (s : Settings) : String := s.toJson.pretty

def partition? (v : Json) : Option (Keyed Json) := do
  match ← v.sound? with
  | .object members => some (Json.normalMembers members)
  | _ => none

/-- Reads settings; a missing partition is empty. -/
def ofJson? (v : Json) : Option Settings := do
  let r ← Json.record? ["sync", "local"] v
  let synced ← r.defaulted "sync" {} partition?
  let device ← r.defaulted "local" {} partition?
  some { synced, device }

def read? (s : String) : Option Settings := (Json.read? s).bind ofJson?

end Settings

end PageAid
