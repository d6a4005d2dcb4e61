import PageAid.Proofs.Session.Band
import PageAid.Proofs.Session.ClassSwitch

/-!
A page that is loaded over the settings of an earlier one. Loading builds from the records what a
run has brought about one setting after another: a switch that is a class is shown as it is
recorded, in both cases (`shows_loaded`, `shows_run`), and so is the guide. The modes that end with
the session are the exception. `reload_agrees` compares the two pages as wholes.
-/

namespace PageAid

namespace Toggle

theorem isClass_of_isSessionScoped {t : Toggle} (h : t.isSessionScoped) : t.isClass = false := by
  cases t <;> simp_all [isSessionScoped, isClass, target]

theorem isSessionScoped_iff {t : Toggle} :
    t.isSessionScoped ↔ t = .focusMode ∨ t = .voiceControl := by
  simp [isSessionScoped]

theorem readable_of_isSessionScoped {t : Toggle} (h : t.isSessionScoped) : t.Readable := by
  rcases isSessionScoped_iff.1 h with rfl | rfl
  · exact readable_focusMode
  · exact readable_voiceControl

theorem key_ne_noScrollClass {t : Toggle} (h : t.target = .rootClass) :
    t.key ≠ Focus.noScrollClass := by
  cases t <;> simp_all [target] <;> decide

end Toggle

namespace Session

/-! ### What loading makes of the records -/

theorem SetBy.restored {o : Session → Bool} {own : Toggle → Bool} (h : SetBy o own)
    {kept : Option Toggle} {s s' : Session} {e : String × Json} (hr : Restored kept s e s')
    (other : ∀ t, own t → e.1 ≠ t.key) : o s' = o s := by
  have outside : ∀ t : Toggle, e.1 = t.key → own t = false := by
    intro t ht
    cases ho : own t with
    | true => exact absurd ht (other t ho)
    | false => rfl
  cases hr with
  | scaled v => exact h.same (SameClasses.of_markup rfl rfl rfl)
  | skipped key v _ => rfl
  | dropped t v ht passing =>
      exact h.same (sameClasses_persist s ht (Toggle.isClass_of_isSessionScoped passing) false)
  | cleared t v ht _ _ =>
      rw [h.put s false (Toggle.readable_of_mem_colorFilters ht)
        (Toggle.isClass_of_mem_colorFilters ht), outside t rfl]
      rfl
  | applied t v ht _ _ =>
      cases hc : t.isClass with
      | true => exact h.apart s _ ht hc (outside t rfl)
      | false => exact h.same (sameClasses_applyToggle s hc _)

variable (platform : Platform) (document : Document) (store : Store) (medium : Medium)
  (recognition : Speech.Recognition)

theorem shows_loaded {u : Toggle} (hu : u.Readable) (hc : u.isClass)
    (other : u.key ≠ Focus.noScrollClass) (clean : document.shows u = false) :
    (loaded platform document store medium recognition).document.shows u =
      (loaded platform document store medium recognition).flag u := by
  have shown := setBy_shows hu hc other
  have recorded := setBy_flag hu hc
  -- its class is not there and its record is that of the beginning, until its entry is taken over
  refine restoreSettings_of_entry u.key
    (fun s => s.document.shows u = false ∧
      s.flag u = (opened platform document store medium recognition).flag u)
    (fun s => s.document.shows u = s.flag u) ⟨clean, rfl⟩ ?_ ?_ ?_
  · intro absent
    rw [flag_of_notMem absent]
    exact clean
  · intro e s₁ s₂ _ ne h
    have elsewhere : ∀ t, (t == u) = true → e.1 ≠ t.key := fun t ht => eq_of_beq ht ▸ ne
    rw [shown.restored h elsewhere, recorded.restored h elsewhere]
    exact ⟨id, id⟩
  · rintro v s₁ s₂ own h ⟨-, waiting⟩
    have stored := flag_of_mem_entries own
    obtain ⟨passing, -⟩ | ⟨-, -, -, rfl⟩ | ⟨-, -, rfl⟩ := h.of_key hu
    · simp [Toggle.isClass_of_isSessionScoped passing] at hc
    · rw [shown.put s₁ false hu hc, recorded.put s₁ false hu hc, if_pos (beq_self_eq_true u),
        if_pos (beq_self_eq_true u)]
    · have applied := (applyToggle_class s₁ hc (v.asBool?.getD false)).2 u.target u.key
      rw [Document.shows, applied, if_pos ⟨rfl, rfl⟩, flag, (applyToggle_class s₁ hc _).1,
        ← flag, waiting, stored]

theorem hasClass_loaded_of_free {target : Toggle.Target} {name : String}
    (other : target = .bodyClass → name ≠ Focus.noScrollClass)
    (free : ∀ t : Toggle, t.Readable → t.isClass → t.target = target → t.key ≠ name) :
    (loaded platform document store medium recognition).document.hasClass target name =
      document.hasClass target name :=
  restoreSettings_induction
    (P := fun _ s => s.document.hasClass target name = document.hasClass target name) rfl
    fun _ h hs => ((setBy_none other free).restored h (by simp)).trans hs

theorem flag_loaded_of_isSessionScoped {t : Toggle} (h : t.isSessionScoped) :
    (loaded platform document store medium recognition).flag t = false := by
  have readable := Toggle.readable_of_isSessionScoped h
  refine restoreSettings_of_entry t.key (fun _ => True) (fun s => s.flag t = false) trivial
    ?_ ?_ ?_
  · exact flag_of_notMem
  · intro e s₁ s₂ _ ne hr
    rw [hr.flag ne]
    exact ⟨id, id⟩
  · rintro v s₁ s₂ - hr -
    obtain ⟨-, rfl⟩ | ⟨filter, -⟩ | ⟨lasting, -⟩ := hr.of_key readable
    · rw [flag_persist readable readable, if_pos rfl]
    · simp [isSessionScoped_of_mem_colorFilters filter] at h
    · simp [lasting] at h

theorem modes_loaded :
    (loaded platform document store medium recognition).focus = none ∧
      (loaded platform document store medium recognition).voice = {} ∧
      (loaded platform document store medium recognition).recognition = recognition := by
  refine restoreSettings_induction
    (P := fun _ s => s.focus = none ∧ s.voice = {} ∧ s.recognition = recognition)
    ⟨rfl, rfl, rfl⟩ ?_
  rintro e r s₁ s₂ - h ⟨focus, voice, asked⟩
  obtain ⟨focus', voice', asked'⟩ := h.modes
  exact ⟨focus'.trans focus, voice'.trans voice, asked'.trans asked⟩

/-- Where no two colour filters are stored as on, loading leaves every stored value as it is, but
those of the switches of a session. -/
theorem get?_loaded
    (single : ∀ t ∈ Toggle.colorFilters, ∀ u ∈ Toggle.colorFilters,
      store.settings.flag t.key → store.settings.flag u.key → t = u)
    {a : Area} {key : String}
    (lasting : ∀ t : Toggle, t.isSessionScoped → ¬(a = .device ∧ t.key = key)) :
    (loaded platform document store medium recognition).store.settings.get? a key =
      store.settings.get? a key := by
  refine restoreSettings_induction
    (P := fun _ s => s.store.settings.get? a key = store.settings.get? a key) rfl ?_
  intro e r s₁ s₂ within h hs
  cases h with
  | scaled v => exact hs
  | skipped key' v _ => exact hs
  | dropped t v _ passing =>
      rw [persist, settings_storeValue, Settings.get?_insert, if_neg]
      · exact hs
      · exact fun own => lasting t passing ⟨own.1.symm, own.2⟩
  | cleared t v ht on kept =>
      -- the filter that is kept and this one would both be stored as on
      obtain ⟨u, hu, ne⟩ := kept
      have stored := flag_of_mem_entries (within.mem List.mem_cons_self)
      rw [on] at stored
      have among := List.mem_of_find?_eq_some hu
      have on' : store.settings.flag u.key := by
        have found := List.find?_some hu
        exact found
      exact absurd (single u among t ht on' stored) ne
  | applied t v _ hl _ =>
      rw [(applyToggle_lasting s₁ hl _).1]
      exact hs

/-! ### The page before -/

theorem shows_run (hs : List Happening) {u : Toggle} (hu : u.Readable) (hc : u.isClass)
    (other : u.key ≠ Focus.noScrollClass) (clean : document.shows u = false) :
    ((loaded platform document store medium recognition).run hs).document.shows u =
      ((loaded platform document store medium recognition).run hs).flag u := by
  have shown := (setBy_shows hu hc other).run
    (loaded platform document store medium recognition) hs
  have recorded := (setBy_flag hu hc).run
    (loaded platform document store medium recognition) hs
  rw [shown, recorded, shows_loaded platform document store medium recognition hu hc other clean]

theorem Happening.leaves_none (x : Happening) (before : Bool) :
    x.leaves (fun _ => false) before = before := by
  rw [leaves]
  cases x.setting? <;> simp

theorem hasClass_run_of_free (s : Session) (hs : List Happening) {target : Toggle.Target}
    {name : String} (other : target = .bodyClass → name ≠ Focus.noScrollClass)
    (free : ∀ t : Toggle, t.Readable → t.isClass → t.target = target → t.key ≠ name) :
    (s.run hs).document.hasClass target name = s.document.hasClass target name := by
  have run := (setBy_none other free).run s hs
  simp only [Happening.leaves_none, List.foldl_fixed] at run
  exact run

/-! ### The two pages -/

/-- A page that is loaded over the settings of an earlier one, on which the colour filters were in
order, leaves every stored value as it is, but those of the switches of a session. -/
theorem get?_reloaded {first : Session} (filtered : Filtered first)
    (left : store.settings = first.store.settings) {a : Area} {key : String}
    (lasting : ∀ t : Toggle, t.isSessionScoped → ¬(a = .device ∧ t.key = key)) :
    (loaded platform document store medium recognition).store.settings.get? a key =
      first.store.settings.get? a key := by
  rw [get?_loaded platform document store medium recognition ?_ lasting, left]
  rw [left]
  exact filtered.single

theorem flag_reloaded {first : Session} (filtered : Filtered first)
    (left : store.settings = first.store.settings) {t : Toggle} (ht : t.Readable)
    (lasting : t.isSessionScoped = false) :
    (loaded platform document store medium recognition).flag t = first.flag t := by
  have stored : (loaded platform document store medium recognition).store.settings.get?
      .device t.key = first.store.settings.get? .device t.key := by
    refine get?_reloaded platform document store medium recognition filtered left ?_
    intro u hu same
    have readable := Toggle.readable_of_isSessionScoped hu
    obtain rfl := (readable.key_eq_iff ht).1 same.2
    simp [lasting] at hu
  rw [flag, Settings.flag, stored]
  rfl

theorem filtered_run (hs : List Happening)
    (clean : ∀ target name, (Text.afterOpening? Toggle.keyStart name).isSome →
      document.hasClass target name = false) :
    Filtered ((loaded platform document store medium recognition).run hs) :=
  stable_filtered.run hs (filtered_loaded
    (fun t _ => clean .rootClass t.key (Toggle.isSome_afterOpening?_key t))
    platform store medium recognition)

/-- On a second page, loaded over the settings that the first one has left at the end of a run,
root and body have the classes of the first one, but for the class that focus mode puts on the
body. -/
theorem hasClass_reloaded (platform' : Platform) (store' : Store) (medium' : Medium)
    (recognition' : Speech.Recognition) {hs : List Happening}
    (clean : ∀ target name, (Text.afterOpening? Toggle.keyStart name).isSome →
      document.hasClass target name = false)
    (left : store'.settings =
      ((loaded platform document store medium recognition).run hs).store.settings)
    (target : Toggle.Target) (name : String)
    (other : target = .bodyClass → name ≠ Focus.noScrollClass) :
    (loaded platform' document store' medium' recognition').document.hasClass target name =
      ((loaded platform document store medium recognition).run hs).document.hasClass
        target name := by
  by_cases own : ∃ t : Toggle, t.Readable ∧ t.isClass ∧ t.target = target ∧ t.key = name
  · obtain ⟨t, readable, hc, rfl, rfl⟩ := own
    have other' : t.key ≠ Focus.noScrollClass := by
      cases ht : t.target with
      | rootClass => exact Toggle.key_ne_noScrollClass ht
      | bodyClass => exact other ht
      | _ => simp [Toggle.isClass, ht] at hc
    have lasting : t.isSessionScoped = false := by
      cases h : t.isSessionScoped with
      | true => simp [Toggle.isClass_of_isSessionScoped h] at hc
      | false => rfl
    have hidden : document.shows t = false := clean _ _ (Toggle.isSome_afterOpening?_key t)
    -- it is shown as it is recorded on both pages, and recorded on the second as on the first
    have first := shows_run platform document store medium recognition hs readable hc other' hidden
    have second := shows_loaded platform' document store' medium' recognition' readable hc other'
      hidden
    show Document.shows _ t = Document.shows _ t
    rw [first, second]
    exact flag_reloaded platform' document store' medium' recognition'
      (filtered_run platform document store medium recognition hs clean) left readable lasting
  · have free : ∀ t : Toggle, t.Readable → t.isClass → t.target = target → t.key ≠ name :=
      fun t readable hc same key => own ⟨t, readable, hc, same, key⟩
    rw [hasClass_run_of_free _ hs other free,
      hasClass_loaded_of_free platform' document store' medium' recognition' other free,
      hasClass_loaded_of_free platform document store medium recognition other free]

/-- A page comes without classes and without a band of the program. It is loaded over any settings
and anything happens to it; then the same page is loaded anew over the settings that this has left.
The second page has the root classes of the first one, and its body classes but for the class of
focus mode, and it has a band just when the first one has. It has neither a session of focus mode
nor a recognizer, and both of these are recorded as off; every other stored value is as the first
page has left it. -/
theorem reload_agrees (platform platform' : Platform) (document : Document)
    (store store' : Store) (medium medium' : Medium)
    (recognition recognition' : Speech.Recognition) (hs : List Happening)
    (clean : ∀ target name, (Text.afterOpening? Toggle.keyStart name).isSome →
      document.hasClass target name = false)
    (bandless : document.body.countId Guide.nodeId = 0)
    (left : store'.settings =
      ((loaded platform document store medium recognition).run hs).store.settings) :
    let first := (loaded platform document store medium recognition).run hs
    let second := loaded platform' document store' medium' recognition'
    second.document.rootClasses = first.document.rootClasses ∧
      (∀ name, name ≠ Focus.noScrollClass →
        second.document.hasBodyClass name = first.document.hasBodyClass name) ∧
      (second.document.findId Guide.nodeId).isSome = (first.document.findId Guide.nodeId).isSome ∧
      second.focus = none ∧ second.voice.held = none ∧ second.recognition = recognition' ∧
      second.flag .focusMode = false ∧ second.flag .voiceControl = false ∧
      ∀ a key, ¬(a = .device ∧ (key = Toggle.focusMode.key ∨ key = Toggle.voiceControl.key)) →
        second.store.settings.get? a key = first.store.settings.get? a key := by
  intro first second
  have filtered : Filtered first :=
    filtered_run platform document store medium recognition hs clean
  have guide : second.flag .readingGuide = first.flag .readingGuide :=
    flag_reloaded platform' document store' medium' recognition' filtered left
      readable_readingGuide rfl
  have bands := (banded_loaded bandless platform' store' medium' recognition').found
  have bands' := (stable_banded.run hs
    (banded_loaded bandless platform store medium recognition)).found
  have classes := hasClass_reloaded platform document store medium recognition
    platform' store' medium' recognition' clean left
  obtain ⟨focus, voice, asked⟩ := modes_loaded platform' document store' medium' recognition'
  refine ⟨Names.ext_has fun name => classes .rootClass name (by simp),
    fun name other => classes .bodyClass name fun _ => other, ?_, focus, ?_, asked, ?_, ?_, ?_⟩
  · exact bands.trans (guide.trans bands'.symm)
  · exact congrArg Speech.Control.held voice
  · exact flag_loaded_of_isSessionScoped platform' document store' medium' recognition' rfl
  · exact flag_loaded_of_isSessionScoped platform' document store' medium' recognition' rfl
  · intro a key apart
    refine get?_reloaded platform' document store' medium' recognition' filtered left ?_
    rintro t passing ⟨rfl, rfl⟩
    rcases Toggle.isSessionScoped_iff.1 passing with rfl | rfl
    · exact apart ⟨rfl, .inl rfl⟩
    · exact apart ⟨rfl, .inr rfl⟩

/-- A filter, a class of the body, the guide and both modes are switched on before the page is
loaded anew. -/
theorem reload_agrees_of_several :
    let platform : Platform := ⟨.unconfigured, fun _ => .error .missingKey, none⟩
    let document : Document :=
      { body := (Element.new "body").withChild ((Element.new "article").withText "Text") }
    let hs : List Happening :=
      [.message (.toggleFeature "lumen-protanopia" true),
        .message (.toggleFeature "lumen-dyslexia" true),
        .message (.toggleFeature "lumen-reading-guide" true),
        .message (.toggleFeature "lumen-focus-mode" true),
        .message (.toggleFeature "lumen-voice-control" true)]
    let first := (loaded platform document {} none {}).run hs
    let second := loaded platform document { settings := first.store.settings } none {}
    (∀ target name, (Text.afterOpening? Toggle.keyStart name).isSome →
      document.hasClass target name = false) ∧
      document.body.countId Guide.nodeId = 0 ∧
      first.focus.isSome ∧ first.voice.held.isSome ∧
      first.document.hasRootClass "lumen-protanopia" ∧
      first.document.hasBodyClass "lumen-dyslexia" ∧
      (first.document.findId Guide.nodeId).isSome ∧
      second.document.rootClasses = first.document.rootClasses ∧
      (∀ name, name ≠ Focus.noScrollClass →
        second.document.hasBodyClass name = first.document.hasBodyClass name) ∧
      (second.document.findId Guide.nodeId).isSome = (first.document.findId Guide.nodeId).isSome ∧
      second.focus = none ∧ second.voice.held = none ∧ second.recognition = {} ∧
      second.flag .focusMode = false ∧ second.flag .voiceControl = false ∧
      ∀ a key, ¬(a = .device ∧ (key = Toggle.focusMode.key ∨ key = Toggle.voiceControl.key)) →
        second.store.settings.get? a key = first.store.settings.get? a key := by
  intro platform document hs
  have clean : ∀ target name, (Text.afterOpening? Toggle.keyStart name).isSome →
      document.hasClass target name = false := by
    intro target name _
    cases target <;> rfl
  have bandless : document.body.countId Guide.nodeId = 0 := by decide
  -- the two pages stay as they are written, so that comparing them does not run them
  refine ⟨clean, bandless, by decide +kernel, by decide +kernel, by decide +kernel,
    by decide +kernel, by decide +kernel, ?_⟩
  exact reload_agrees platform platform document {} _ none none {} {} hs clean bandless rfl

end Session

end PageAid
