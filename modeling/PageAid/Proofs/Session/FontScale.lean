import PageAid.Proofs.Number.Rising
import PageAid.Proofs.Session.Load

/-!
The font scale of a page. An increase is held to the upper bound alone and a decrease to the lower
one, and loading shows whatever scale is stored. What follows on a scale within the bounds is
within the bounds, so that a run is as it should be if its first step is (`proper_run_iff`).
-/

namespace PageAid

open Number

namespace Session

/-! ### Scales -/

def Bounded (scale : Float) : Prop := minFontScale ≤ scale ∧ scale ≤ maxFontScale

instance (scale : Float) : Decidable (Bounded scale) :=
  inferInstanceAs (Decidable (_ ∧ _))

def hundredths (scale : Float) : Float := roundHalfAway (scale * 100.0) / 100.0

theorem rising_hundredths : Rising hundredths := by
  have finite : IsFinite 100.0 := by decide +kernel
  have pos : 0 < value 100.0 := by decide +kernel
  exact (Rising.div_right finite pos).comp (rising_roundHalfAway.comp (Rising.mul_right finite pos))

theorem rising_increase : Rising (nextFontScale · .increase) :=
  rising_hundredths.comp ((Rising.min_right (by decide +kernel)).comp
    (Rising.add_right (by decide +kernel)))

theorem rising_decrease : Rising (nextFontScale · .decrease) :=
  rising_hundredths.comp ((Rising.max_right (by decide +kernel)).comp
    (Rising.sub_right (by decide +kernel)))

section

variable {x : Float}

theorem bounded_iff (h : IsNumber x) :
    Bounded x ↔ rank minFontScale ≤ rank x ∧ rank x ≤ rank maxFontScale := by
  rw [Bounded, le_iff (by decide +kernel) h, le_iff h (by decide +kernel)]

theorem Bounded.isNumber (h : Bounded x) : IsNumber x := (isNumber_of_le h.1).2

theorem Bounded.isFinite (h : Bounded x) : x.isFinite := by
  have number := h.isNumber
  rw [bounded_iff number] at h
  apply isFinite_iff.2
  apply Nat.lt_of_le_of_ne number
  intro infinite
  have least : -infinityRank < rank minFontScale := by decide +kernel
  have most : rank maxFontScale < infinityRank := by decide +kernel
  rcases rank_of_infinite infinite with top | bottom <;> omega

/-- The greatest number below `0.695`. -/
def belowLeast : Float := .ofBits 4604435223027321404

/-- The greatest number below `2.105`. -/
def belowMost : Float := .ofBits 4611922457407824854

/-- An increase leads to a scale within the bounds unless it starts too low. -/
theorem bounded_increase_iff : Bounded (nextFontScale x .increase) ↔ ¬x < 0.695 := by
  rcases isNumber_or_eq_notANumber x with hx | none
  · have low : rank minFontScale ≤ rank (nextFontScale x .increase) ↔ rank 0.695 ≤ rank x :=
      rising_increase.reaches_iff (a := belowLeast) (by decide +kernel) (by decide +kernel)
        (by decide +kernel) (by decide +kernel) (by decide +kernel) hx
    have held : rank (nextFontScale x .increase) ≤
        rank (nextFontScale (infinite .positive) .increase) := (rising_increase.bounds hx).2
    have most : rank (nextFontScale (infinite .positive) .increase) = rank maxFontScale := by
      decide +kernel
    rw [bounded_iff (rising_increase.isNumber x hx), lt_iff hx (by decide +kernel)]
    omega
  · refine iff_of_true ?_ fun less => not_isNumber none (isNumber_of_lt less).1
    rw [nextFontScale]
    dsimp only
    rw [add_of_notANumber _ none]
    decide +kernel

theorem bounded_decrease_iff : Bounded (nextFontScale x .decrease) ↔ ¬2.105 ≤ x := by
  rcases isNumber_or_eq_notANumber x with hx | none
  · have high : rank maxFontScale + 1 ≤ rank (nextFontScale x .decrease) ↔ rank 2.105 ≤ rank x :=
      rising_decrease.reaches_iff (a := belowMost) (by decide +kernel) (by decide +kernel)
        (by decide +kernel) (by decide +kernel) (by decide +kernel) hx
    have held : rank (nextFontScale (infinite .negative) .decrease) ≤
        rank (nextFontScale x .decrease) := (rising_decrease.bounds hx).1
    have least : rank (nextFontScale (infinite .negative) .decrease) = rank minFontScale := by
      decide +kernel
    rw [bounded_iff (rising_decrease.isNumber x hx), le_iff (by decide +kernel) hx]
    omega
  · refine iff_of_true ?_ fun more => not_isNumber none (isNumber_of_le more).2
    rw [nextFontScale]
    dsimp only
    rw [sub_of_notANumber _ none]
    decide +kernel

end

/-! ### Steps -/

inductive Resizing where
  | load
  | change (c : FontChange)

def resize (s : Session) : Resizing → Session
  | .load => s.restoreSettings
  | .change c => (s.changeFontSize c).2

def storedScale? (s : Session) : Option Json :=
  s.store.settings.get? .device Settings.fontScaleKey

def ShowsScale (s : Session) (scale : Float) : Prop :=
  s.document.rootStyle.get? fontScaleProperty = some (twoPlaces scale)

/-- The step is as it should be. A page that takes a stored scale over shows it, and it is within
the bounds; after a change the scale that is returned is, and it is the one that is shown and the
one that is stored. -/
def Proper (s : Session) : Resizing → Prop
  | .load => s.storedScale?.isSome →
      Bounded s.store.settings.fontScale ∧ ShowsScale s.restoreSettings s.store.settings.fontScale
  | .change c => Bounded (s.changeFontSize c).1 ∧
      ShowsScale (s.changeFontSize c).2 (s.changeFontSize c).1 ∧
        (s.changeFontSize c).2.storedScale? = some (.number (.real (s.changeFontSize c).1))

/-- From this scale, the step leads to one within the bounds. -/
def Tolerates : Resizing → Float → Prop
  | .load, scale => Bounded scale
  | .change .increase, scale => ¬scale < 0.695
  | .change .decrease, scale => ¬2.105 ≤ scale
  | .change .reset, _ => True

theorem bounded_next_iff (c : FontChange) (scale : Float) :
    Bounded (nextFontScale scale c) ↔ Tolerates (.change c) scale := by
  cases c with
  | increase => exact bounded_increase_iff
  | decrease => exact bounded_decrease_iff
  | reset =>
      have same : nextFontScale scale .reset = nextFontScale 1.0 .reset := rfl
      rw [same]
      exact iff_of_true (by decide +kernel) trivial

theorem tolerates_of_bounded {scale : Float} (h : Bounded scale) (r : Resizing) :
    Tolerates r scale := by
  have number := h.isNumber
  have bounds := (bounded_iff number).1 h
  have low : rank 0.695 < rank minFontScale := by decide +kernel
  have high : rank maxFontScale < rank 2.105 := by decide +kernel
  cases r with
  | load => exact h
  | change c =>
      cases c with
      | increase =>
          rw [Tolerates, lt_iff number (by decide +kernel)]
          omega
      | decrease =>
          rw [Tolerates, le_iff (by decide +kernel) number]
          omega
      | reset => trivial

/-! A change -/

section

variable (s : Session) (c : FontChange)

theorem storedScale?_changeFontSize :
    (s.changeFontSize c).2.storedScale? = some (.ofFloat (s.changeFontSize c).1) := by
  rw [storedScale?, changeFontSize, settings_storeValue, Settings.get?_insert, if_pos ⟨rfl, rfl⟩]

theorem showsScale_changeFontSize : ShowsScale (s.changeFontSize c).2 (s.changeFontSize c).1 :=
  Keyed.get?_insert_self ..

theorem proper_change_iff :
    Proper s (.change c) ↔ Tolerates (.change c) s.store.settings.fontScale := by
  rw [← bounded_next_iff]
  refine ⟨fun proper => proper.1, fun bounded => ⟨bounded, showsScale_changeFontSize s c, ?_⟩⟩
  have finite : (s.changeFontSize c).1.isFinite := Bounded.isFinite bounded
  rw [storedScale?_changeFontSize, Json.ofFloat, if_pos finite]

end

/-! Loading -/

theorem rootStyle_setEnabled (g : Guide) (d : Document) (on : Bool) :
    (g.setEnabled d on).2.rootStyle = d.rootStyle := by
  have detached : (g.detached d).rootStyle = d.rootStyle := by
    rw [Guide.detached]
    split <;> rfl
  cases on <;> cases h : Guide.active d <;>
    simp [Guide.setEnabled, h, detached, Document.append, Document.addListener, Document.removeId]

theorem rootStyle_applyToggle (s : Session) {t : Toggle} (h : t.isSessionScoped = false)
    (on : Bool) : (s.applyToggle t on).2.document.rootStyle = s.document.rootStyle := by
  unfold applyToggle
  split
  · rfl
  · rfl
  · exact rootStyle_setEnabled s.guide s.document on
  all_goals
    rename_i target
    cases t <;> simp_all [Toggle.target, Toggle.isSessionScoped]

theorem Restored.rootStyle {kept : Option Toggle} {s s' : Session} {e : String × Json}
    (h : Restored kept s e s') (other : e.1 ≠ Settings.fontScaleKey) :
    s'.document.rootStyle = s.document.rootStyle := by
  cases h with
  | scaled v => exact absurd rfl other
  | skipped key v _ => rfl
  | dropped t v _ _ => rfl
  | cleared t v ht _ _ =>
      exact rootStyle_applyToggle _ (isSessionScoped_of_mem_colorFilters ht) false
  | applied t v _ lasting _ => exact rootStyle_applyToggle s lasting _

theorem Restored.storedScale? {kept : Option Toggle} {s s' : Session} {e : String × Json}
    (h : Restored kept s e s') : s'.storedScale? = s.storedScale? := by
  by_cases own : e.1 = Settings.fontScaleKey
  · cases h with
    | scaled v => rfl
    | skipped key v _ => rfl
    | dropped t v ht _ => exact absurd own ht.key_ne_fontScaleKey
    | cleared t v ht _ _ =>
        exact absurd own (Toggle.readable_of_mem_colorFilters ht).key_ne_fontScaleKey
    | applied t v ht _ _ => exact absurd own ht.key_ne_fontScaleKey
  · exact h.get? fun same => own same.2

theorem restore_fontScale (kept : Option Toggle) (s : Session) (v : Json) :
    restore kept s (Settings.fontScaleKey, v) =
      s.showFontScale (v.asFloat?.getD Settings.defaultFontScale) := by
  simp [restore]

theorem rootStyle_foldl_restore (kept : Option Toggle) (l : List (String × Json)) (s : Session)
    (others : Settings.fontScaleKey ∉ l.map (·.1)) :
    (l.foldl (restore kept) s).document.rootStyle = s.document.rootStyle := by
  induction l generalizing s with
  | nil => rfl
  | cons e r ih =>
      rw [List.map_cons, List.mem_cons, not_or] at others
      rw [List.foldl_cons, ih _ others.2]
      exact (restored_restore kept s e).rootStyle (Ne.symm others.1)

section

variable (s : Session)

theorem storedScale?_restoreSettings : s.restoreSettings.storedScale? = s.storedScale? :=
  restoreSettings_induction (P := fun _ s' => s'.storedScale? = s.storedScale?) rfl
    fun _ h same => h.storedScale?.trans same

theorem fontScale_restoreSettings :
    s.restoreSettings.store.settings.fontScale = s.store.settings.fontScale :=
  congrArg (fun v => (v.bind Json.asFloat?).getD Settings.defaultFontScale)
    s.storedScale?_restoreSettings

/-- A stored scale is shown as it is. -/
theorem showsScale_restoreSettings (stored : s.storedScale?.isSome) :
    ShowsScale s.restoreSettings s.store.settings.fontScale := by
  obtain ⟨v, hv⟩ := Option.isSome_iff_exists.1 stored
  obtain ⟨before, after, entries⟩ : ∃ before after, s.store.settings.device.entries =
      before ++ (Settings.fontScaleKey, v) :: after :=
    List.append_of_mem (Keyed.mem_entries_iff.2 hv)
  have others := notMem_keys_of_suffix (m := s.store.settings.device) ⟨before, entries.symm⟩
  have scale : s.store.settings.fontScale = v.asFloat?.getD Settings.defaultFontScale := by
    rw [Settings.fontScale, ← storedScale?, hv]
    rfl
  rw [ShowsScale, restoreSettings]
  -- what comes after the scale leaves it alone
  rw [entries, List.foldl_append, List.foldl_cons, rootStyle_foldl_restore _ _ _ others,
    restore_fontScale, scale]
  exact Keyed.get?_insert_self ..

theorem proper_load_iff : Proper s .load ↔ Tolerates .load s.store.settings.fontScale := by
  cases stored : s.storedScale? with
  | none =>
      have scale : s.store.settings.fontScale = Settings.defaultFontScale := by
        rw [Settings.fontScale, ← storedScale?, stored]
        rfl
      refine iff_of_true (fun some => absurd some (by simp [stored])) ?_
      rw [Tolerates, scale]
      decide +kernel
  | some v =>
      have some : s.storedScale?.isSome := by rw [stored]; rfl
      exact ⟨fun proper => (proper some).1,
        fun bounded _ => ⟨bounded, s.showsScale_restoreSettings some⟩⟩

end

/-! ### Runs -/

theorem proper_iff (s : Session) (r : Resizing) :
    Proper s r ↔ Tolerates r s.store.settings.fontScale := by
  cases r with
  | load => exact s.proper_load_iff
  | change c => exact s.proper_change_iff c

theorem bounded_resize {s : Session} {r : Resizing} (h : Proper s r) :
    Bounded (s.resize r).store.settings.fontScale := by
  cases r with
  | load =>
      rw [resize, fontScale_restoreSettings]
      exact (proper_iff s .load).1 h
  | change c =>
      obtain ⟨bounded, -, stored⟩ := h
      have scale : (s.resize (.change c)).store.settings.fontScale = (s.changeFontSize c).1 := by
        rw [resize, Settings.fontScale, ← storedScale?, stored]
        rfl
      rwa [scale]

theorem proper_of_bounded {s : Session} (h : Bounded s.store.settings.fontScale)
    (earlier : List Resizing) (r : Resizing) : Proper (earlier.foldl resize s) r := by
  induction earlier generalizing s with
  | nil => exact (proper_iff s r).2 (tolerates_of_bounded h r)
  | cons first rest ih =>
      exact ih (bounded_resize ((proper_iff s first).2 (tolerates_of_bounded h first)))

/-- All steps of a run are as they should be just if the first one tolerates the scale that it
starts from. -/
theorem proper_run_iff (s : Session) (steps : List Resizing) :
    (∀ earlier r later, earlier ++ r :: later = steps → Proper (earlier.foldl resize s) r) ↔
      ∀ r ∈ steps.head?, Tolerates r s.store.settings.fontScale := by
  cases steps with
  | nil =>
      refine iff_of_true (fun earlier r later h => ?_) (fun r h => ?_)
      · exact absurd h (by simp)
      · simp at h
  | cons first rest =>
      constructor
      · intro proper r hr
        obtain rfl := Option.some.inj hr
        exact (proper_iff s first).1 (proper [] first rest rfl)
      · intro tolerates earlier r later h
        have proper := (proper_iff s first).2 (tolerates first rfl)
        cases earlier with
        | nil =>
            obtain rfl := (List.cons.inj h).1
            exact proper
        | cons e earlier =>
            obtain rfl := (List.cons.inj h).1
            exact proper_of_bounded (bounded_resize proper) earlier r

/-- A stored scale of five is above the upper bound, and after a decrease it still is. -/
theorem beyond_of_storedFive :
    let settings : Settings := { device := .ofList [(Settings.fontScaleKey, .nat 5)] }
    let platform : Platform := { image := fun _ => .error .missingKey }
    let s : Session := { platform, store := { settings } }
    ¬Proper s .load ∧ ¬Proper s (.change .decrease) ∧ (s.changeFontSize .decrease).1 = 4.9 := by
  refine ⟨fun proper => ?_, fun proper => ?_, ?_⟩
  · exact absurd (proper (by decide +kernel)).1 (by decide +kernel)
  · exact absurd proper.1 (by decide +kernel)
  · decide +kernel

end Session

end PageAid
