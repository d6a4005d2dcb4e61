import PageAid.Settings.Basic

/-!
A store of settings: the settings in memory and, for a store with a file, a file to which every
change writes them all. A failed write leaves the change in memory. Several stores may share one
file, so the file is not part of the store.
-/

namespace PageAid

inductive FileContents where
  | missing
  | text (contents : String)
  /-- Something that cannot be read as a text. -/
  | unreadable
deriving DecidableEq, Repr

structure SettingsFile where
  contents : FileContents := .missing
  writable : Bool := true
deriving DecidableEq, Repr

namespace SettingsFile

def text? (f : SettingsFile) : Option String :=
  match f.contents with
  | .text s => some s
  | _ => none

def write? (f : SettingsFile) (s : String) : Option SettingsFile :=
  if f.writable then some { f with contents := .text s } else none

end SettingsFile

/-- Where settings are kept besides memory: nowhere, or in a file. -/
abbrev Medium := Option SettingsFile

inductive StoreFailure where
  | cannotRead
  | cannotParse
  | cannotWrite
deriving DecidableEq, Repr

def StoreFailure.message (path : String) : StoreFailure → String
  | cannotRead => "Failed to read settings from " ++ path
  | cannotParse => "Failed to parse settings in " ++ path
  | cannotWrite => "Failed to write settings to " ++ path

structure Store where
  settings : Settings := {}
  /-- There was no file when the store was opened. -/
  firstRun : Bool := true

namespace Store

instance : Inhabited Store := ⟨{}⟩

/-- Opens a store. A file that holds no settings counts as empty. -/
def openOn : Medium → Except StoreFailure Store
  | none => .ok {}
  | some f =>
    match f.contents with
    | .missing => .ok {}
    | .unreadable => .error .cannotRead
    | .text s => .ok { settings := (Settings.read? s).getD {}, firstRun := false }

structure Written where
  store : Store
  medium : Medium
  failure : Option StoreFailure := none

/-- Changes the settings in memory, then writes them all. -/
def update (s : Store) (m : Medium) (change : Settings → Settings) : Written :=
  let s := { s with settings := change s.settings }
  match m with
  | none => ⟨s, none, none⟩
  | some f =>
    match f.write? s.settings.print with
    | some f => ⟨s, some f, none⟩
    | none => ⟨s, some f, some .cannotWrite⟩

def set (s : Store) (m : Medium) (a : Area) (key : String) (v : Json) : Written :=
  s.update m (·.insert a key v)

def setMany (s : Store) (m : Medium) (a : Area) (entries : List (String × Json)) : Written :=
  s.update m (·.insertMany a entries)

def setFlag (s : Store) (m : Medium) (key : String) (on : Bool) : Written :=
  s.set m .device key (.bool on)

def installDefaults (s : Store) (m : Medium) : Written := s.update m Settings.withDefaults

/-- Takes the settings over from the file; on a failure those in memory stay. -/
def reload (s : Store) (m : Medium) : Written :=
  match m with
  | none => ⟨s, m, none⟩
  | some f =>
    match f.contents with
    | .text t =>
      match Settings.read? t with
      | some settings => ⟨{ s with settings := settings }, m, none⟩
      | none => ⟨s, m, some .cannotParse⟩
    | _ => ⟨s, m, some .cannotRead⟩

end Store

end PageAid
