import PageAid.Proofs.Json.Lasting
import PageAid.Settings.Basic

/-!
Settings that are printed and read again. Every stored value comes back as it reads from its own
text, under the key that it was stored under, unless some value cannot be kept at all: then the
text is none of settings any more (`read?_print`).
-/

namespace PageAid

namespace Json

theorem rereadMembers_eq_map (depth : Nat) (l : List (String × Json)) :
    rereadMembers depth l = l.map fun (k, v) => (k, v.rereadAt depth) := by
  induction l with
  | nil => rfl
  | cons e r ih =>
      rw [rereadMembers, ih]
      rfl

/-- A stored value as it reads back from a file, where it stands within two objects. -/
def reread (v : Json) : Json := (v.rereadAt 2).normal

theorem reread_eq_self {v : Json} (h : v.LastsAt 2) : v.reread = v := by
  rw [reread, rereadAt_eq_self v h, normal_eq_self v h]

end Json

namespace Settings

def reread (s : Settings) : Settings where
  synced := s.synced.mapValues Json.reread
  device := s.device.mapValues Json.reread

theorem get?_reread (s : Settings) (a : Area) (key : String) :
    s.reread.get? a key = (s.get? a key).map Json.reread := by
  cases a <;> exact Keyed.get?_mapValues Json.reread _ key

def legible (s : Settings) : Bool :=
  Json.soundMembers (Json.rereadMembers 2 s.synced.entries) &&
    Json.soundMembers (Json.rereadMembers 2 s.device.entries)

theorem partition?_reread (m : Keyed Json) :
    partition? (Json.rereadAt 1 (.ofKeyed m)) =
      if Json.soundMembers (Json.rereadMembers 2 m.entries) then some (m.mapValues Json.reread)
      else none := by
  have sorted : (Json.rereadMembers 2 m.entries).Pairwise (·.1 < ·.1) := by
    rw [Json.rereadMembers_eq_map]
    exact m.sorted.map _ fun _ _ h => h
  have normal : Json.normalMembers (Json.rereadMembers 2 m.entries) = m.mapValues Json.reread := by
    rw [Json.normalMembers_eq sorted]
    apply Keyed.ext_entries
    simp only [Keyed.mapValues, Json.rereadMembers_eq_map, List.map_map]
    rfl
  have value : Json.rereadAt 1 (.ofKeyed m) = .object (Json.rereadMembers 2 m.entries) := by
    rw [Json.ofKeyed, Json.rereadAt, if_pos (by decide)]
  rw [partition?, value, Json.sound?, Json.isSound]
  split
  · rw [← normal]
    rfl
  · rfl

theorem ofJson?_object (a b : Json) :
    ofJson? (.object [("sync", a), ("local", b)]) =
      (partition? a).bind fun synced => (partition? b).map fun device => { synced, device } := by
  have record : Json.record? ["sync", "local"] (.object [("sync", a), ("local", b)]) =
      some ⟨[("sync", a), ("local", b)], false⟩ := by simp [Json.record?]
  have other : ("local" == "sync") = false := by decide
  simp only [ofJson?, record, Option.bind_eq_bind, Option.bind_some, Json.Record.defaulted,
    Json.Record.get?, List.lookup_cons, beq_self_eq_true, other]
  cases partition? a <;> cases partition? b <;> rfl

/-- Reading the text of settings gives the settings as they read back, if every value in it can be
kept. -/
theorem read?_print (s : Settings) :
    read? s.print = if s.legible then some s.reread else none := by
  have value : Json.rereadAt 0 s.toJson = .object
      [("sync", Json.rereadAt 1 (.ofKeyed s.synced)),
        ("local", Json.rereadAt 1 (.ofKeyed s.device))] := by
    rw [toJson, Json.rereadAt, if_pos (by decide)]
    rfl
  have synced := partition?_reread s.synced
  have device := partition?_reread s.device
  rw [read?, print, Json.read?_pretty, Option.bind_some, value, legible, ofJson?_object, synced,
    device]
  cases Json.soundMembers (Json.rereadMembers 2 s.synced.entries) <;>
    cases Json.soundMembers (Json.rereadMembers 2 s.device.entries) <;> rfl

theorem eq_reread_of_read? {s t : Settings} (h : read? s.print = some t) : t = s.reread := by
  rw [read?_print] at h
  split at h
  · exact (Option.some.inj h).symm
  · cases h

end Settings

end PageAid
