import PageAid.Proofs.Json.Varied
import PageAid.Proofs.Settings.Text
import PageAid.Settings.Store

/-!
A store and its file. Every change is written to the file whole, so that from the first write on
the file holds what the store has in memory, whether it was changed there or reloaded from the file
(`reopened_agrees`); and a reload takes over all of another file or nothing (`reload_cases`).
-/

namespace PageAid

/-! ### Settings that come back from their text -/

namespace Json

mutual

theorem isSound_of_lastsAt : ∀ (v : Json) {depth : Nat}, LastsAt depth v → v.isSound
  | .null, _, _ => rfl
  | .bool _, _, _ => rfl
  | .number _, _, _ => rfl
  | .string _, _, _ => rfl
  | .array items, _, h => by
    rw [LastsAt] at h
    exact soundItems_of_lastsAt items h.2
  | .object members, _, h => by
    rw [LastsAt] at h
    exact soundMembers_of_lastsAt members h.2.2
  | .unfit, _, h => by simp [LastsAt] at h

theorem soundItems_of_lastsAt :
    ∀ (items : List Json) {depth : Nat}, ItemsLastAt depth items → soundItems items
  | [], _, _ => rfl
  | v :: r, _, h => by
    rw [ItemsLastAt] at h
    rw [soundItems, isSound_of_lastsAt v h.1, soundItems_of_lastsAt r h.2]
    rfl

theorem soundMembers_of_lastsAt :
    ∀ (members : List (String × Json)) {depth : Nat}, MembersLastAt depth members →
      soundMembers members
  | [], _, _ => rfl
  | (_, v) :: r, _, h => by
    rw [MembersLastAt] at h
    rw [soundMembers, isSound_of_lastsAt v h.1, soundMembers_of_lastsAt r h.2]
    rfl

end

end Json

namespace Settings

/-- Every value comes back from the text of the settings as it is. -/
def Lasts (s : Settings) : Prop := ∀ a key v, s.get? a key = some v → v.LastsAt 2

theorem ext_get? {s t : Settings} (h : ∀ a key, s.get? a key = t.get? a key) : s = t := by
  obtain ⟨synced, device⟩ := s
  obtain ⟨synced', device'⟩ := t
  obtain rfl : synced = synced' := Keyed.ext_get? (h .synced)
  obtain rfl : device = device' := Keyed.ext_get? (h .device)
  rfl

theorem lasts_insert {s : Settings} (h : s.Lasts) {v : Json} (lasts : v.LastsAt 2) (a : Area)
    (key : String) : (s.insert a key v).Lasts := by
  intro b other w found
  rw [get?_insert] at found
  split at found
  · exact Option.some.inj found ▸ lasts
  · exact h b other w found

theorem reread_eq_self {s : Settings} (h : s.Lasts) : s.reread = s := by
  refine ext_get? fun a key => ?_
  rw [get?_reread]
  cases found : s.get? a key with
  | none => rfl
  | some v => exact congrArg some (Json.reread_eq_self (h a key v found))

theorem legible_of_lasts {s : Settings} (h : s.Lasts) : s.legible := by
  have sound : ∀ a, Json.soundMembers (Json.rereadMembers 2 (s.area a).entries) := by
    intro a
    rw [Json.soundMembers_iff, Json.rereadMembers_eq_map]
    intro e he
    obtain ⟨⟨key, v⟩, stored, rfl⟩ := List.mem_map.1 he
    have lasts := h a key v (Keyed.get?_of_mem stored)
    show (v.rereadAt 2).isSound
    rw [Json.rereadAt_eq_self v lasts]
    exact Json.isSound_of_lastsAt v lasts
  exact Bool.and_eq_true_iff.2 ⟨sound .synced, sound .device⟩

theorem read?_print_of_lasts {s : Settings} (h : s.Lasts) : read? s.print = some s := by
  rw [read?_print, if_pos (legible_of_lasts h), reread_eq_self h]

end Settings

/-! ### Calls of a store -/

namespace Store

inductive Call where
  | set (a : Area) (key : String) (v : Json)
  | setMany (a : Area) (entries : List (String × Json))
  | setFlag (key : String) (on : Bool)
  | installDefaults
  | reload

namespace Call

def run (c : Call) (s : Store) (m : Medium) : Written :=
  match c with
  | set a key v => s.set m a key v
  | setMany a entries => s.setMany m a entries
  | setFlag key on => s.setFlag m key on
  | installDefaults => s.installDefaults m
  | reload => s.reload m

/-- The call writes the file; only a reload does not. -/
def writes : Call → Bool
  | reload => false
  | _ => true

theorem run_of_writes {c : Call} (h : c.writes) :
    ∃ change, ∀ s m, c.run s m = Store.update s m change := by
  cases c with
  | set a key v => exact ⟨(·.insert a key v), fun _ _ => rfl⟩
  | setMany a entries => exact ⟨(·.insertMany a entries), fun _ _ => rfl⟩
  | setFlag key on => exact ⟨(·.insert .device key (.bool on)), fun _ _ => rfl⟩
  | installDefaults => exact ⟨Settings.withDefaults, fun _ _ => rfl⟩
  | reload => cases h

end Call

def after (s : Store) (m : Medium) (calls : List Call) : Store × Medium :=
  calls.foldl (fun (s, m) c => ((c.run s m).store, (c.run s m).medium)) (s, m)

/-- What a reload finds: a text of settings, which it takes over whole, or none, and then it leaves
the store as it was. -/
theorem reload_cases (s : Store) (f : SettingsFile) :
    (∃ text settings, f.contents = .text text ∧ Settings.read? text = some settings ∧
      s.reload (some f) = ⟨{ s with settings := settings }, some f, none⟩) ∨
    (∀ text, f.contents = .text text → Settings.read? text = none) ∧
      ∃ failure, s.reload (some f) = ⟨s, some f, some failure⟩ := by
  cases contents : f.contents with
  | missing => exact .inr ⟨by simp, .cannotRead, by simp [reload, contents]⟩
  | unreadable => exact .inr ⟨by simp, .cannotRead, by simp [reload, contents]⟩
  | text text =>
      cases read : Settings.read? text with
      | none =>
          refine .inr ⟨?_, .cannotParse, by simp [reload, contents, read]⟩
          rintro t ⟨⟩
          exact read
      | some settings =>
          exact .inl ⟨text, settings, rfl, read, by simp [reload, contents, read]⟩

/-- The file is writable and holds the settings that were printed there last, and the store has
these in memory, or what is read from their text. -/
def Filed (s : Store) (m : Medium) : Prop :=
  ∃ printed : Settings, m = some { contents := .text printed.print, writable := true } ∧
    (s.settings = printed ∨ Settings.read? printed.print = some s.settings)

variable {s : Store} {m : Medium}

def Writable (m : Medium) : Prop := ∃ f, m = some f ∧ f.writable = true

theorem filed_of_writes {c : Call} (h : c.writes) (writable : Writable m) :
    Filed (c.run s m).store (c.run s m).medium := by
  obtain ⟨change, run⟩ := Call.run_of_writes h
  obtain ⟨⟨contents, _⟩, rfl, rfl⟩ := writable
  rw [run]
  exact ⟨change s.settings, rfl, .inl rfl⟩

theorem filed_reload (h : Filed s m) : Filed (s.reload m).store (s.reload m).medium := by
  obtain ⟨printed, rfl, held⟩ := h
  obtain ⟨text, settings, contents, read, same⟩ | ⟨-, failure, same⟩ :=
    reload_cases s { contents := .text printed.print, writable := true }
  · obtain rfl : printed.print = text := by simpa using contents
    rw [same]
    exact ⟨printed, rfl, .inr read⟩
  · rw [same]
    exact ⟨printed, rfl, held⟩

theorem writable_run (c : Call) (h : Writable m) : Writable (c.run s m).medium := by
  by_cases writes : c.writes
  · obtain ⟨printed, filed, -⟩ := filed_of_writes (s := s) writes h
    exact ⟨_, filed, rfl⟩
  · obtain rfl : c = .reload := by cases c <;> simp_all [Call.writes]
    obtain ⟨f, rfl, writable⟩ := h
    obtain ⟨_, _, -, -, same⟩ | ⟨-, _, same⟩ := reload_cases s f <;>
      exact ⟨f, congrArg Written.medium same, writable⟩

theorem filed_run (c : Call) (h : Filed s m) :
    Filed (c.run s m).store (c.run s m).medium := by
  by_cases writes : c.writes
  · obtain ⟨printed, filed, -⟩ := h
    exact filed_of_writes writes ⟨_, filed, rfl⟩
  · obtain rfl : c = .reload := by cases c <;> simp_all [Call.writes]
    exact filed_reload h

theorem filed_calls {calls : List Call} (h : Filed s m) :
    Filed (s.after m calls).1 (s.after m calls).2 := by
  induction calls generalizing s m with
  | nil => exact h
  | cons c r ih => exact ih (filed_run c h)

/-- From the first write on, the store and the file have the same. -/
theorem filed_after {calls : List Call} (writes : ∃ c ∈ calls, c.writes) (h : Writable m) :
    Filed (s.after m calls).1 (s.after m calls).2 := by
  induction calls generalizing s m with
  | nil => simp at writes
  | cons c r ih =>
      by_cases first : c.writes
      · exact filed_calls (s := (c.run s m).store) (m := (c.run s m).medium)
          (filed_of_writes first h)
      · obtain ⟨c', hc', later⟩ := writes
        have within : c' ∈ r := (List.mem_cons.1 hc').resolve_left fun same => first (same ▸ later)
        exact ih ⟨c', within, later⟩ (writable_run c h)

theorem openOn_of_filed (h : Filed s m) (lasts : s.settings.Lasts) :
    openOn m = .ok { settings := s.settings, firstRun := false } := by
  obtain ⟨printed, rfl, held⟩ := h
  have read : Settings.read? printed.print = some s.settings := by
    rcases held with rfl | reloaded
    · exact Settings.read?_print_of_lasts lasts
    · exact reloaded
  rw [openOn]
  simp [read]

/-- A store on a file that can be written, whatever both hold at first, after any calls with a write
among them, the values that it holds then being such as come back from their text: a store that is
opened on the file holds the same, and no longer is that the first run. And whatever is put in
place of the file, a reload fails and leaves the store as it was, just when the file is missing or
holds no settings, or it takes over what a store holds that is opened on that file. -/
theorem reopened_agrees {file : SettingsFile} (writable : file.writable = true) (store : Store)
    {calls : List Call} (writes : ∃ c ∈ calls, c.writes) {s : Store} {m : Medium}
    (run : store.after (some file) calls = (s, m)) (lasts : s.settings.Lasts) :
    openOn m = .ok { settings := s.settings, firstRun := false } ∧
      ∀ other : SettingsFile,
        ((s.reload (some other)).failure.isSome ∧ (s.reload (some other)).store = s ∧
          ∀ text, other.contents = .text text → Settings.read? text = none) ∨
        ((s.reload (some other)).failure = none ∧
          ∃ text opened, other.contents = .text text ∧ (Settings.read? text).isSome ∧
            openOn (some other) = .ok opened ∧
            (s.reload (some other)).store.settings = opened.settings) := by
  have filed := filed_after (s := store) writes ⟨file, rfl, writable⟩
  rw [run] at filed
  refine ⟨openOn_of_filed filed lasts, fun other => ?_⟩
  obtain ⟨text, settings, contents, read, same⟩ | ⟨none, failure, same⟩ := reload_cases s other
  · have opened : openOn (some other) = .ok ⟨settings, false⟩ := by
      rw [openOn]
      simp [contents, read]
    exact .inr ⟨by rw [same], text, _, contents, by simp [read], opened, by rw [same]⟩
  · exact .inl ⟨by rw [same]; rfl, by rw [same], none⟩

/-- A reload that finds no file yet, two writes, and a reload of what they have written. -/
theorem reopened_agrees_of_missing :
    let calls : List Call := [.reload, .setMany .synced [("pomodoroWork", .nat 40),
      ("greeting", .string "Hello")], .setFlag "lumen-dyslexia" true, .reload]
    ∃ s m, (∃ c ∈ calls, c.writes) ∧ after {} (some {}) calls = (s, m) ∧ s.settings.Lasts ∧
      s.settings.get? .synced "greeting" = some (.string "Hello") ∧ s.firstRun = true ∧
      openOn m = .ok { settings := s.settings, firstRun := false } ∧
      (s.reload (some {})).store = s := by
  intro calls
  let settings := ((Settings.insert {} .synced "pomodoroWork" (.nat 40)).insert .synced "greeting"
    (.string "Hello")).insert .device "lumen-dyslexia" (.bool true)
  have writes : ∃ c ∈ calls, c.writes := ⟨.setFlag "lumen-dyslexia" true, by simp [calls], rfl⟩
  have lasts : settings.Lasts := by
    have none : Settings.Lasts {} := fun a key v found => by cases a <;> cases found
    have number : (Json.nat 40).LastsAt 2 := Json.lastsAt_whole (by decide) (by decide) 2
    have work := Settings.lasts_insert none number .synced "pomodoroWork"
    have greeting := Settings.lasts_insert work (v := .string "Hello") trivial .synced "greeting"
    exact Settings.lasts_insert greeting (v := .bool true) trivial .device "lumen-dyslexia"
  have run : after {} (some {}) calls =
      ({ settings }, some { contents := .text settings.print }) := by
    have read := Settings.read?_print_of_lasts lasts
    show ((reload { settings } (some { contents := .text settings.print })).store,
      (reload { settings } (some { contents := .text settings.print })).medium) = _
    simp [reload, read]
  obtain ⟨opened, later⟩ := reopened_agrees rfl {} writes run lasts
  refine ⟨_, _, writes, run, lasts, by simp [settings, Settings.get?_insert], rfl, opened, ?_⟩
  obtain ⟨-, same, -⟩ | ⟨-, text, -, contents, -⟩ := later {}
  · exact same
  · cases contents

end Store

end PageAid
