import PageAid.Proofs.Keyed
import PageAid.Proofs.Session.Record

/-!
A page that has just been loaded takes its settings over entry by entry. `Restored` says what one
entry may do; a property that holds while entries are still to come is carried through all of them
by `restoreSettings_induction`.
-/

namespace PageAid

namespace Session

/-- The page before it has taken its settings over. -/
def opened (platform : Platform) (document : Document) (store : Store) (medium : Medium)
    (recognition : Speech.Recognition) : Session :=
  { platform := platform, document := document, store := store, medium := medium,
    recognition := recognition }

/-- The page after it has taken its settings over. -/
def loaded (platform : Platform) (document : Document) (store : Store) (medium : Medium)
    (recognition : Speech.Recognition) : Session :=
  (opened platform document store medium recognition).restoreSettings

/-- The page after one stored value, by what becomes of the value. -/
inductive Restored (kept : Option Toggle) (s : Session) : String × Json → Session → Prop where
  | scaled (v : Json) :
      Restored kept s (Settings.fontScaleKey, v)
        (s.showFontScale (v.asFloat?.getD Settings.defaultFontScale))
  | skipped (key : String) (v : Json) (h : Toggle.ofKey? key = none) : Restored kept s (key, v) s
  | dropped (t : Toggle) (v : Json) (ht : t.Readable) (h : t.isSessionScoped) :
      Restored kept s (t.key, v) (s.persist t false)
  | cleared (t : Toggle) (v : Json) (ht : t ∈ Toggle.colorFilters) (hv : v.asBool? = some true)
      (h : ∃ u, kept = some u ∧ u ≠ t) :
      Restored kept s (t.key, v) ((s.persist t false).applyToggle t false).2
  | applied (t : Toggle) (v : Json) (ht : t.Readable) (hs : t.isSessionScoped = false)
      (h : v.asBool?.getD false → t ∈ Toggle.colorFilters → ∀ u, kept = some u → u = t) :
      Restored kept s (t.key, v) (s.applyToggle t (v.asBool?.getD false)).2

theorem restored_restore (kept : Option Toggle) (s : Session) (e : String × Json) :
    Restored kept s e (restore kept s e) := by
  obtain ⟨key, v⟩ := e
  unfold restore
  dsimp only
  split
  · rename_i scale
    obtain rfl : key = Settings.fontScaleKey := by simpa using scale
    exact .scaled v
  · split
    · rename_i hk
      exact .skipped key v hk
    · rename_i t hk
      obtain rfl := Toggle.key_of_ofKey? hk
      -- what ends with the session goes first, then the filters besides the one that is kept
      split
      · rename_i passing
        exact .dropped t v hk passing
      · rename_i passing
        split
        · rename_i other
          simp only [Bool.and_eq_true, Toggle.isColorFilter, List.contains_iff_mem,
            Option.any_eq_true, bne_iff_ne] at other
          obtain ⟨⟨on, filter⟩, u, hu, ne⟩ := other
          refine .cleared t v filter ?_ ⟨u, hu, ne⟩
          cases hv : v.asBool? <;> simp_all
        · rename_i alone
          refine .applied t v hk (by simpa using passing) ?_
          intro on filter u hu
          simpa [on, Toggle.isColorFilter, filter, hu] using alone

theorem Restored.of_key {kept : Option Toggle} {s s' : Session} {t : Toggle} {v : Json}
    (ht : t.Readable) (h : Restored kept s (t.key, v) s') :
    (t.isSessionScoped ∧ s' = s.persist t false) ∨
    (t ∈ Toggle.colorFilters ∧ v.asBool? = some true ∧ (∃ u, kept = some u ∧ u ≠ t) ∧
      s' = ((s.persist t false).applyToggle t false).2) ∨
    (t.isSessionScoped = false ∧
      (v.asBool?.getD false → t ∈ Toggle.colorFilters → ∀ u, kept = some u → u = t) ∧
      s' = (s.applyToggle t (v.asBool?.getD false)).2) := by
  generalize he : (t.key, v) = e at h
  cases h with
  | scaled w => exact absurd (Prod.mk.inj he).1 ht.key_ne_fontScaleKey
  | skipped key w none =>
      obtain ⟨rfl, -⟩ := Prod.mk.inj he
      rw [ht] at none
      simp at none
  | dropped u w hu passing =>
      obtain rfl := (ht.key_eq_iff hu).1 (Prod.mk.inj he).1
      exact .inl ⟨passing, rfl⟩
  | cleared u w hu on other =>
      obtain ⟨key, rfl⟩ := Prod.mk.inj he
      obtain rfl := (ht.key_eq_iff (Toggle.readable_of_mem_colorFilters hu)).1 key
      exact .inr (.inl ⟨hu, on, other, rfl⟩)
  | applied u w hu lasting alone =>
      obtain ⟨key, rfl⟩ := Prod.mk.inj he
      obtain rfl := (ht.key_eq_iff hu).1 key
      exact .inr (.inr ⟨lasting, alone, rfl⟩)

theorem applyToggle_lasting (s : Session) {t : Toggle} (h : t.isSessionScoped = false)
    (on : Bool) :
    (s.applyToggle t on).2.store = s.store ∧ (s.applyToggle t on).2.focus = s.focus ∧
      (s.applyToggle t on).2.voice = s.voice ∧
      (s.applyToggle t on).2.recognition = s.recognition := by
  unfold applyToggle
  split
  · exact ⟨rfl, rfl, rfl, rfl⟩
  · exact ⟨rfl, rfl, rfl, rfl⟩
  · exact ⟨rfl, rfl, rfl, rfl⟩
  all_goals
    rename_i target
    cases t <;> simp_all [Toggle.target, Toggle.isSessionScoped]

theorem isSessionScoped_of_mem_colorFilters {t : Toggle} (h : t ∈ Toggle.colorFilters) :
    t.isSessionScoped = false := by
  revert t
  decide

theorem Restored.get? {kept : Option Toggle} {s s' : Session} {e : String × Json}
    (h : Restored kept s e s') {a : Area} {key : String} (other : ¬(a = .device ∧ e.1 = key)) :
    s'.store.settings.get? a key = s.store.settings.get? a key := by
  have persisted : ∀ t : Toggle, e.1 = t.key →
      (s.persist t false).store.settings.get? a key = s.store.settings.get? a key := by
    intro t ht
    rw [persist, settings_storeValue, Settings.get?_insert, if_neg]
    rintro ⟨rfl, same⟩
    exact other ⟨rfl, ht.trans same⟩
  cases h with
  | scaled v => rfl
  | skipped key' v _ => rfl
  | dropped t v _ _ => exact persisted t rfl
  | cleared t v ht _ _ =>
      rw [(applyToggle_lasting _ (isSessionScoped_of_mem_colorFilters ht) false).1]
      exact persisted t rfl
  | applied t v _ lasting _ => rw [(applyToggle_lasting s lasting _).1]

theorem Restored.modes {kept : Option Toggle} {s s' : Session} {e : String × Json}
    (h : Restored kept s e s') :
    s'.focus = s.focus ∧ s'.voice = s.voice ∧ s'.recognition = s.recognition := by
  cases h with
  | scaled v => exact ⟨rfl, rfl, rfl⟩
  | skipped key v _ => exact ⟨rfl, rfl, rfl⟩
  | dropped t v _ _ => exact ⟨rfl, rfl, rfl⟩
  | cleared t v ht _ _ =>
      exact (applyToggle_lasting (s.persist t false)
        (isSessionScoped_of_mem_colorFilters ht) false).2
  | applied t v _ lasting _ => exact (applyToggle_lasting s lasting _).2

theorem Restored.flag {kept : Option Toggle} {s s' : Session} {e : String × Json}
    (h : Restored kept s e s') {t : Toggle} (other : e.1 ≠ t.key) : s'.flag t = s.flag t := by
  rw [Session.flag, Settings.flag, h.get? fun same => other same.2]
  rfl

theorem mem_keys_of_flag {s : Session} {t : Toggle} (h : s.flag t) :
    t.key ∈ s.store.settings.device.entries.map (·.1) := by
  rw [flag, Settings.flag, Settings.get?, Settings.area, Keyed.get?] at h
  cases hv : s.store.settings.device.entries.lookup t.key with
  | none => simp [hv] at h
  | some v =>
      obtain ⟨l, r, hl, -⟩ := List.lookup_eq_some_iff.1 hv
      exact List.mem_map.2 ⟨(t.key, v), by simp [hl], rfl⟩

theorem flag_of_notMem {s : Session} {t : Toggle}
    (absent : t.key ∉ s.store.settings.device.entries.map (·.1)) : s.flag t = false := by
  cases h : s.flag t with
  | true => exact absurd (mem_keys_of_flag h) absent
  | false => rfl

theorem notMem_keys_of_suffix {m : Keyed Json} {e : String × Json} {rest : List (String × Json)}
    (within : e :: rest <:+ m.entries) : e.1 ∉ rest.map (·.1) := by
  intro again
  obtain ⟨e', he', same⟩ := List.mem_map.1 again
  have above := (List.pairwise_cons.1 (m.sorted.sublist within.sublist)).1 e' he'
  rw [same] at above
  exact String.lt_irrefl _ above

/-- What holds of the page when all entries are still to come, and is kept by each entry, holds
when none is left. -/
theorem restoreSettings_induction {P : List (String × Json) → Session → Prop} {s : Session}
    (start : P s.store.settings.device.entries s)
    (step : ∀ {e r s₁ s₂}, e :: r <:+ s.store.settings.device.entries →
      Restored (Toggle.colorFilters.find? s.flag) s₁ e s₂ → P (e :: r) s₁ → P r s₂) :
    P [] s.restoreSettings := by
  have walk : ∀ (l : List (String × Json)) (s₁ : Session),
      l <:+ s.store.settings.device.entries → P l s₁ →
        P [] (l.foldl (restore (Toggle.colorFilters.find? s.flag)) s₁) := by
    intro l
    induction l with
    | nil => exact fun _ _ h => h
    | cons e r ih =>
        intro s₁ within h
        have rest := (List.suffix_cons e r).trans within
        exact ih _ rest (step within (restored_restore _ s₁ e) h)
  exact walk _ s (List.suffix_refl _) start

/-- What one entry brings about: `Waiting` holds until the entry under `key` is taken over, and
`Done` holds from there on, or from the beginning where there is no such entry. -/
theorem restoreSettings_of_entry (key : String) (Waiting Done : Session → Prop) {s : Session}
    (start : Waiting s) (absent : key ∉ s.store.settings.device.entries.map (·.1) → Done s)
    (others : ∀ {e s₁ s₂}, e ∈ s.store.settings.device.entries → e.1 ≠ key →
      Restored (Toggle.colorFilters.find? s.flag) s₁ e s₂ →
        (Waiting s₁ → Waiting s₂) ∧ (Done s₁ → Done s₂))
    (own : ∀ {v s₁ s₂}, (key, v) ∈ s.store.settings.device.entries →
      Restored (Toggle.colorFilters.find? s.flag) s₁ (key, v) s₂ → Waiting s₁ → Done s₂) :
    Done s.restoreSettings := by
  have done := restoreSettings_induction (s := s)
    (P := fun rest s₁ => (key ∈ rest.map (·.1) → Waiting s₁) ∧
      (key ∉ rest.map (·.1) → Done s₁)) ⟨fun _ => start, absent⟩ ?_
  · exact done.2 (by simp)
  · rintro ⟨k, v⟩ rest s₁ s₂ within h ⟨waiting, done⟩
    have among := within.mem List.mem_cons_self
    by_cases same : k = key
    · subst same
      have once : k ∉ rest.map (·.1) := notMem_keys_of_suffix within
      exact ⟨fun again => absurd again once, fun _ => own among h (waiting (by simp))⟩
    · obtain ⟨kept, kept'⟩ := others among same h
      refine ⟨fun later => kept (waiting (by simp [later])), fun none => kept' (done ?_)⟩
      simpa [Ne.symm same] using none

/-- What is kept when a font scale is shown and when a switch is recorded as off or applied is kept
when the settings are taken over. -/
theorem restoreSettings_of_kept {P : Session → Prop} {s : Session} (start : P s)
    (scaled : ∀ s scale, P s → P (s.showFontScale scale))
    (dropped : ∀ s t, P s → P (s.persist t false))
    (applied : ∀ s t on, P s → P (s.applyToggle t on).2) : P s.restoreSettings := by
  refine restoreSettings_induction (P := fun _ => P) start ?_
  intro e r s₁ s₂ _ h hs
  cases h with
  | scaled v => exact scaled s₁ _ hs
  | skipped key v _ => exact hs
  | dropped t v _ _ => exact dropped s₁ t hs
  | cleared t v _ _ _ => exact applied _ t false (dropped s₁ t hs)
  | applied t v _ _ _ => exact applied s₁ t _ hs

end Session

end PageAid
