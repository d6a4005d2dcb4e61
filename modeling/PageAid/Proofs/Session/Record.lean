import PageAid.Session.Toggle

/-!
How switches are recorded. A switch that is read off a key is recorded under this very key
(`key_of_ofKey?`), so that two such switches share a record only if they are the same; recording
one switch leaves the records of the others alone (`flag_persist`).
-/

namespace PageAid

theorem Text.append_of_afterOpening? {start s rest : String}
    (h : Text.afterOpening? start s = some rest) : start ++ rest = s := by
  rw [Text.afterOpening?] at h
  split at h
  · rename_i opens
    obtain ⟨r, hr⟩ := List.isPrefixOf_iff_prefix.1 opens
    obtain rfl := Option.some.inj h
    apply String.toList_inj.1
    simp [String.toList_append, ← hr]
  · simp at h

namespace Toggle

theorem name_of_lookup {name : String} {t : Toggle} (h : named.lookup name = some t) :
    t.name = name := by
  have all : ∀ e ∈ named, e.2.name = e.1 := by decide
  obtain ⟨l, r, hl, -⟩ := List.lookup_eq_some_iff.1 h
  exact all (name, t) (by simp [hl])

theorem key_of_ofKey? {key : String} {t : Toggle} (h : ofKey? key = some t) : t.key = key := by
  simp only [ofKey?, Option.bind_eq_bind, Option.bind_eq_some_iff] at h
  obtain ⟨name, hname, h⟩ := h
  split at h
  · simp at h
  · obtain rfl := Option.some.inj h
    -- the name in the key is that of a switch, or the switch is named after it
    rw [← Text.append_of_afterOpening? hname, Toggle.key]
    cases hl : named.lookup name with
    | none => simp [Toggle.name]
    | some t => simp [name_of_lookup hl]

theorem isSome_afterOpening?_key (t : Toggle) :
    (Text.afterOpening? keyStart t.key).isSome := by
  simp [Text.afterOpening?, key, String.toList_append]

/-- Some key is read as this switch. Of the switches without a meaning of their own, those that
bear the name of another switch are excluded. -/
def Readable (t : Toggle) : Prop := ofKey? t.key = some t

theorem readable_of_ofKey? {key : String} {t : Toggle} (h : ofKey? key = some t) :
    t.Readable := by
  rw [Readable, key_of_ofKey? h, h]

theorem readable_of_ne_other {t : Toggle} (h : ∀ name, t ≠ other name) : t.Readable := by
  have meant : ∃ e ∈ named, e.2 = t := by
    cases t with
    | other name => exact absurd rfl (h name)
    | _ => decide
  obtain ⟨e, he, rfl⟩ := meant
  exact ofKey?_key_of_mem he

theorem readable_focusMode : Toggle.focusMode.Readable := readable_of_ne_other (by simp)

theorem readable_voiceControl : Toggle.voiceControl.Readable := readable_of_ne_other (by simp)

theorem Readable.key_eq_iff {t u : Toggle} (ht : t.Readable) (hu : u.Readable) :
    t.key = u.key ↔ t = u := by
  constructor
  · intro h
    have : some t = some u := by rw [← ht, h, hu]
    exact Option.some.inj this
  · exact fun h => h ▸ rfl

theorem Readable.key_ne_fontScaleKey {t : Toggle} (ht : t.Readable) :
    t.key ≠ Settings.fontScaleKey := by
  intro h
  have none : ofKey? Settings.fontScaleKey = none := by decide
  rw [Readable, h, none] at ht
  simp at ht

theorem readable_of_mem_colorFilters {t : Toggle} (h : t ∈ colorFilters) : t.Readable := by
  apply readable_of_ne_other
  rintro name rfl
  simp [colorFilters] at h

theorem target_of_mem_colorFilters {t : Toggle} (h : t ∈ colorFilters) :
    t.target = .rootClass := by
  revert t
  decide

theorem mem_colorFilters_of_mem_peers {t u : Toggle} (h : u ∈ t.peers) :
    u ∈ colorFilters := by
  rw [peers] at h
  split at h
  · exact (List.mem_filter.1 h).1
  · simp at h

end Toggle

namespace Session

/-- The value is in memory even where the file could not be written. -/
theorem settings_storeValue (s : Session) (a : Area) (key : String) (v : Json) :
    (s.storeValue a key v).store.settings = s.store.settings.insert a key v := by
  simp only [storeValue, Store.set, Store.update]
  split
  · rfl
  · split <;> rfl

theorem flag_storeValue (s : Session) (key : String) (v : Json) (t : Toggle) :
    (s.storeValue .device key v).flag t =
      if key = t.key then v.asBool?.getD false else s.flag t := by
  rw [flag, settings_storeValue, Settings.flag, Settings.get?_insert]
  by_cases h : key = t.key
  · simp [h]
  · simp [h, flag, Settings.flag]

theorem flag_persist {t u : Toggle} (ht : t.Readable) (hu : u.Readable) (s : Session)
    (on : Bool) : (s.persist t on).flag u = if t = u then on else s.flag u := by
  rw [persist, flag_storeValue]
  simp [ht.key_eq_iff hu, Json.asBool?]

end Session

end PageAid
