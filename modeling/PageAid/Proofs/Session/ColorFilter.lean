import PageAid.Proofs.Session.Body
import PageAid.Proofs.Session.Change
import PageAid.Proofs.Session.Load

/-!
Of the colour filters at most one is on, and the class of the root shows which one is recorded.
The first is seen to by two pieces of the program, one for what is stored when the page is loaded
and one for the switches that are set later. `colorFilters_agree` covers both.
-/

namespace PageAid

theorem Document.hasRootClass_setRootClass (d : Document) (name other : String) (on : Bool) :
    (d.setRootClass name on).hasRootClass other =
      if name = other then on else d.hasRootClass other := by
  cases on <;> by_cases h : name = other <;>
    simp [hasRootClass, setRootClass, Names.has, Keyed.contains, h]

namespace Session

/-- The class of every colour filter is as recorded, and no two of them are recorded as on. -/
structure Filtered (s : Session) : Prop where
  shown : ∀ t ∈ Toggle.colorFilters, s.document.hasRootClass t.key = s.flag t
  single : ∀ t ∈ Toggle.colorFilters, ∀ u ∈ Toggle.colorFilters, s.flag t → s.flag u → t = u

/-- From `s` to `s'` the colour filters are not touched. -/
structure SameFilters (s s' : Session) : Prop where
  shown : ∀ t ∈ Toggle.colorFilters,
    s'.document.hasRootClass t.key = s.document.hasRootClass t.key
  recorded : ∀ t ∈ Toggle.colorFilters, s'.flag t = s.flag t

namespace SameFilters

variable {s s' s'' : Session}

theorem refl (s : Session) : SameFilters s s := ⟨fun _ _ => rfl, fun _ _ => rfl⟩

theorem trans (h : SameFilters s s') (h' : SameFilters s' s'') : SameFilters s s'' where
  shown t ht := (h'.shown t ht).trans (h.shown t ht)
  recorded t ht := (h'.recorded t ht).trans (h.recorded t ht)

theorem filtered (h : SameFilters s s') (hs : Filtered s) : Filtered s' where
  shown t ht := by rw [h.shown t ht, h.recorded t ht, hs.shown t ht]
  single t ht u hu on on' :=
    hs.single t ht u hu (by rw [← h.recorded t ht, on]) (by rw [← h.recorded u hu, on'])

theorem of_rootClasses (store : s'.store = s.store)
    (classes : s'.document.rootClasses = s.document.rootClasses) : SameFilters s s' where
  shown t _ := by rw [Document.hasRootClass, classes, Document.hasRootClass]
  recorded t _ := by rw [flag, store, flag]

theorem of_document {d : Document} (h : d.rootClasses = s.document.rootClasses) :
    SameFilters s { s with document := d } := of_rootClasses rfl h

theorem of_aside (h : Aside s s') : SameFilters s s' := of_rootClasses h.store h.rootClasses

end SameFilters

/-! ### Switches other than the colour filters -/

theorem sameFilters_storeValue (s : Session) {key : String} (v : Json)
    (h : ∀ t ∈ Toggle.colorFilters, key ≠ t.key) :
    SameFilters s (s.storeValue .device key v) where
  shown _ _ := rfl
  recorded t ht := by rw [flag_storeValue, if_neg (h t ht)]

theorem ne_key_of_notMem_colorFilters {t : Toggle} (ht : t.Readable)
    (h : t ∉ Toggle.colorFilters) : ∀ u ∈ Toggle.colorFilters, t.key ≠ u.key := by
  intro u hu same
  have readable := Toggle.readable_of_mem_colorFilters hu
  exact h ((ht.key_eq_iff readable).1 same ▸ hu)

theorem sameFilters_persist (s : Session) {t : Toggle} (ht : t.Readable)
    (h : t ∉ Toggle.colorFilters) (on : Bool) : SameFilters s (s.persist t on) :=
  sameFilters_storeValue s _ (ne_key_of_notMem_colorFilters ht h)

theorem sameFilters_disableFocus (s : Session) : SameFilters s s.disableFocus := by
  rw [disableFocus]
  refine SameFilters.trans ?_
    (sameFilters_persist _ Toggle.readable_focusMode (by decide) false)
  exact SameFilters.of_rootClasses rfl rfl

theorem sameFilters_enableFocus (s : Session) : SameFilters s s.enableFocus.2 := by
  obtain ⟨-, -, same⟩ | ⟨-, -, told⟩ | ⟨article, -, -, -, shown⟩ := enableFocus_cases s
  · rw [same]
    exact SameFilters.refl s
  · rw [told]
    exact (SameFilters.of_aside (quiet_notify s _ _).toAside).trans
      (sameFilters_persist _ Toggle.readable_focusMode (by decide) false)
  · rw [shown]
    exact SameFilters.of_rootClasses rfl rfl

theorem sameFilters_setBodyClass (s : Session) (name : String) (on : Bool) :
    SameFilters s (s.onPage (·.setBodyClass name on)) := SameFilters.of_rootClasses rfl rfl

theorem sameFilters_applyToggle (s : Session) {t : Toggle} (ht : t.Readable)
    (h : t ∉ Toggle.colorFilters) (on : Bool) : SameFilters s (s.applyToggle t on).2 := by
  unfold applyToggle
  split
  · refine ⟨fun u hu => ?_, fun _ _ => rfl⟩
    rw [onPage, Document.hasRootClass_setRootClass,
      if_neg (ne_key_of_notMem_colorFilters ht h u hu)]
  · exact sameFilters_setBodyClass s _ on
  · exact SameFilters.of_rootClasses rfl (Guide.rootClasses_setEnabled _ _ on)
  · cases on
    · exact sameFilters_disableFocus s
    · exact sameFilters_enableFocus s
  · cases on
    · exact SameFilters.of_rootClasses rfl rfl
    · simp only [if_true, enableVoice]
      split
      · exact SameFilters.of_rootClasses rfl rfl
      · exact SameFilters.refl s

/-! ### Colour filters -/

theorem applyToggle_filter (s : Session) {t u : Toggle} (ht : t ∈ Toggle.colorFilters)
    (hu : u ∈ Toggle.colorFilters) (on : Bool) :
    ((s.applyToggle t on).2).flag u = s.flag u ∧
      ((s.applyToggle t on).2).document.hasRootClass u.key =
        if t = u then on else s.document.hasRootClass u.key := by
  have same := (Toggle.readable_of_mem_colorFilters ht).key_eq_iff
    (Toggle.readable_of_mem_colorFilters hu)
  rw [applyToggle, Toggle.target_of_mem_colorFilters ht]
  refine ⟨rfl, ?_⟩
  show (s.document.setRootClass t.key on).hasRootClass u.key = _
  rw [Document.hasRootClass_setRootClass]
  simp only [same]

/-- Setting a colour filter, its peers apart, changes its own record and class and no other's. -/
theorem setFilter (s : Session) {t u : Toggle} (ht : t ∈ Toggle.colorFilters)
    (hu : u ∈ Toggle.colorFilters) (on : Bool) :
    (((s.persist t on).applyToggle t on).2).flag u = (if t = u then on else s.flag u) ∧
      (((s.persist t on).applyToggle t on).2).document.hasRootClass u.key =
        if t = u then on else s.document.hasRootClass u.key := by
  obtain ⟨flag, shown⟩ := applyToggle_filter (s.persist t on) ht hu on
  rw [flag, flag_persist (Toggle.readable_of_mem_colorFilters ht)
    (Toggle.readable_of_mem_colorFilters hu)]
  exact ⟨rfl, shown⟩

theorem clearFilters (peers : List Toggle) (s : Session)
    (hp : ∀ t ∈ peers, t ∈ Toggle.colorFilters) {u : Toggle} (hu : u ∈ Toggle.colorFilters) :
    let s' := peers.foldl (fun s peer => ((s.persist peer false).applyToggle peer false).2) s
    s'.flag u = (if u ∈ peers then false else s.flag u) ∧
      s'.document.hasRootClass u.key =
        if u ∈ peers then false else s.document.hasRootClass u.key := by
  induction peers generalizing s with
  | nil => simp
  | cons t r ih =>
      obtain ⟨ht, hr⟩ := List.forall_mem_cons.1 hp
      obtain ⟨flag, shown⟩ := setFilter s ht hu false
      obtain ⟨flags, classes⟩ := ih ((s.persist t false).applyToggle t false).2 hr
      rw [flag] at flags
      rw [shown] at classes
      rw [List.foldl_cons]
      by_cases h : t = u
      · subst h
        exact ⟨flags.trans (by simp), classes.trans (by simp)⟩
      · have h' : u ≠ t := Ne.symm h
        exact ⟨flags.trans (by simp [h, h']), classes.trans (by simp [h, h'])⟩

theorem filtered_setFilter {s : Session} (hs : Filtered s) {t : Toggle}
    (ht : t ∈ Toggle.colorFilters) (on : Bool) :
    Filtered (((if on then s.clearPeers t else s).persist t on).applyToggle t on).2 := by
  cases on with
  | false =>
      have after := fun u hu => setFilter s (u := u) ht hu false
      refine ⟨fun u hu => ?_, fun u hu w hw => ?_⟩
      · rw [if_neg (by simp), (after u hu).1, (after u hu).2, hs.shown u hu]
      · rw [if_neg (by simp), (after u hu).1, (after w hw).1]
        intro on on'
        split at on
        · simp at on
        · split at on'
          · simp at on'
          · exact hs.single u hu w hw on on'
  | true =>
      have peers : t.peers = Toggle.colorFilters.filter (· != t) := by
        rw [Toggle.peers, Toggle.isColorFilter, if_pos (by simpa using ht)]
      have after : ∀ u ∈ Toggle.colorFilters,
          ((((s.clearPeers t).persist t true).applyToggle t true).2).flag u = decide (t = u) ∧
            ((((s.clearPeers t).persist t true).applyToggle t true).2).document.hasRootClass
              u.key = decide (t = u) := by
        intro u hu
        have cleared := clearFilters t.peers s (fun _ => Toggle.mem_colorFilters_of_mem_peers) hu
        obtain ⟨flag, shown⟩ := setFilter (s.clearPeers t) ht hu true
        rw [flag, shown]
        -- the filter itself is recorded last; every other one is among its peers
        by_cases h : t = u
        · simp [h]
        · have among : u ∈ t.peers := by
            rw [peers]
            exact List.mem_filter.2 ⟨hu, by simpa using Ne.symm h⟩
          rw [if_pos among, if_pos among] at cleared
          rw [if_neg h, if_neg h, clearPeers, cleared.1, cleared.2]
          simp [h]
      rw [if_pos rfl]
      refine ⟨fun u hu => ?_, fun u hu w hw on on' => ?_⟩
      · rw [(after u hu).1, (after u hu).2]
      · rw [(after u hu).1] at on
        rw [(after w hw).1] at on'
        exact (of_decide_eq_true on).symm.trans (of_decide_eq_true on')

theorem clearPeers_of_notMem (s : Session) {t : Toggle} (h : t ∉ Toggle.colorFilters) :
    s.clearPeers t = s := by
  have none : t.peers = [] := by
    rw [Toggle.peers, Toggle.isColorFilter, if_neg (by simpa using h)]
  rw [clearPeers, none, List.foldl_nil]

theorem filtered_setToggle {s : Session} {t : Toggle} (on : Bool) (ht : t.Readable)
    (hs : Filtered s) : Filtered (s.setToggle t on) := by
  refine (SameFilters.of_aside (quiet_setToggle s t on).toAside).filtered ?_
  by_cases h : t ∈ Toggle.colorFilters
  · exact filtered_setFilter hs h on
  · rw [clearPeers_of_notMem s h, ite_self]
    exact ((sameFilters_persist s ht h on).trans (sameFilters_applyToggle _ ht h on)).filtered hs

/-! ### Runs -/

theorem stable_filtered : Stable Filtered where
  aside h hs := (SameFilters.of_aside h).filtered hs
  pause _ hs := { hs with }
  setToggle on ht hs := filtered_setToggle on ht hs
  changeFontSize {s} c hs := by
    have resized : SameFilters s (s.showFontScale (nextFontScale s.store.settings.fontScale c)) :=
      SameFilters.of_rootClasses rfl rfl
    refine (resized.trans (sameFilters_storeValue _ _ fun t ht => ?_)).filtered hs
    exact (Toggle.readable_of_mem_colorFilters ht).key_ne_fontScaleKey.symm
  addSkipLink {s} hs := by
    obtain ⟨rest, classes⟩ := addSkipLink_eq s
    have store : s.addSkipLink.store = s.store := by rw [rest]
    exact (SameFilters.of_rootClasses store classes).filtered hs
  pointerMoved {s} y hs :=
    (SameFilters.of_document (s.guide.rootClasses_pointerMoved s.document y)).filtered hs
  scrollTo {s} y hs := (SameFilters.of_document (d := s.document.scrollTo y) rfl).filtered hs
  hear _ _ hs := { hs with }
  forgetVoice {s} hs :=
    (sameFilters_persist s Toggle.readable_voiceControl (by decide) false).filtered hs
  enterFocus {s} hs := by
    have entered := sameFilters_enableFocus s
    rw [execute_enterFocusMode]
    split
    · exact entered.filtered hs
    · exact (entered.trans
        (sameFilters_persist _ Toggle.readable_focusMode (by decide) true)).filtered hs
  disableFocus {s} hs := (sameFilters_disableFocus s).filtered hs
  tick {s i due} _ hs := by
    have ticked : SameFilters s ({ s with agenda := s.agenda.eraseIdx i }.tick due) :=
      SameFilters.of_rootClasses (store_tick _ due) (rootClasses_tick _ due)
    exact ticked.filtered hs

/-! ### From loading on -/

/-- While settings are taken over, a colour filter with an entry that is still to come is not shown
and recorded as in the beginning; any other is shown as recorded, and on only if it is the one
that is kept. -/
structure Filtering (start : Session) (rest : List (String × Json)) (s : Session) : Prop where
  waiting : ∀ t ∈ Toggle.colorFilters, t.key ∈ rest.map (·.1) →
    s.document.hasRootClass t.key = false ∧ s.flag t = start.flag t
  done : ∀ t ∈ Toggle.colorFilters, t.key ∉ rest.map (·.1) →
    s.document.hasRootClass t.key = s.flag t ∧
      (s.flag t → Toggle.colorFilters.find? start.flag = some t)

theorem Filtering.of_sameFilters {start : Session} {e : String × Json}
    {rest : List (String × Json)} {s s' : Session} (hs : Filtering start (e :: rest) s)
    (h : SameFilters s s') (other : ∀ t ∈ Toggle.colorFilters, e.1 ≠ t.key) :
    Filtering start rest s' where
  waiting t ht within := by
    rw [h.shown t ht, h.recorded t ht]
    exact hs.waiting t ht (List.mem_cons_of_mem _ within)
  done t ht without := by
    rw [h.shown t ht, h.recorded t ht]
    refine hs.done t ht ?_
    rw [List.map_cons, List.mem_cons]
    rintro (same | within)
    · exact other t ht same.symm
    · exact without within

theorem Filtering.of_filter {start : Session} {t : Toggle} {v : Json}
    {rest : List (String × Json)} {s s' : Session} (hs : Filtering start ((t.key, v) :: rest) s)
    (ht : t ∈ Toggle.colorFilters) (once : t.key ∉ rest.map (·.1))
    (itself : s'.document.hasRootClass t.key = s'.flag t ∧
      (s'.flag t → Toggle.colorFilters.find? start.flag = some t))
    (others : ∀ u ∈ Toggle.colorFilters, t ≠ u →
      s'.document.hasRootClass u.key = s.document.hasRootClass u.key ∧ s'.flag u = s.flag u) :
    Filtering start rest s' where
  waiting u hu within := by
    have ne : t ≠ u := fun same => once (same ▸ within)
    rw [(others u hu ne).1, (others u hu ne).2]
    exact hs.waiting u hu (List.mem_cons_of_mem _ within)
  done u hu without := by
    by_cases same : t = u
    · exact same ▸ itself
    · rw [(others u hu same).1, (others u hu same).2]
      refine hs.done u hu ?_
      rw [List.map_cons, List.mem_cons]
      rintro (key | within)
      · exact same (((Toggle.readable_of_mem_colorFilters ht).key_eq_iff
          (Toggle.readable_of_mem_colorFilters hu)).1 key.symm)
      · exact without within

theorem flag_of_mem_entries {s : Session} {t : Toggle} {v : Json}
    (h : (t.key, v) ∈ s.store.settings.device.entries) :
    s.flag t = v.asBool?.getD false := by
  rw [flag, Settings.flag, Settings.get?, Settings.area, Keyed.get?_of_mem h]
  rfl

theorem filtering_restored {start s s' : Session} {e : String × Json}
    {rest : List (String × Json)} (within : e :: rest <:+ start.store.settings.device.entries)
    (h : Restored (Toggle.colorFilters.find? start.flag) s e s')
    (hs : Filtering start (e :: rest) s) : Filtering start rest s' := by
  have once : e.1 ∉ rest.map (·.1) := notMem_keys_of_suffix within
  cases h with
  | scaled v =>
      refine hs.of_sameFilters (SameFilters.of_rootClasses rfl rfl) fun t ht => ?_
      exact (Toggle.readable_of_mem_colorFilters ht).key_ne_fontScaleKey.symm
  | skipped key v none =>
      refine hs.of_sameFilters (SameFilters.refl s) ?_
      rintro t ht rfl
      rw [Toggle.readable_of_mem_colorFilters ht] at none
      simp at none
  | dropped t v ht passing =>
      have other : t ∉ Toggle.colorFilters := by
        intro filter
        simp [isSessionScoped_of_mem_colorFilters filter] at passing
      exact hs.of_sameFilters (sameFilters_persist s ht other false)
        (ne_key_of_notMem_colorFilters ht other)
  | cleared t v ht _ _ =>
      -- off in both respects, whatever was recorded
      refine hs.of_filter ht once ?_ fun u hu ne => ?_
      · obtain ⟨flag, shown⟩ := setFilter s ht ht false
        rw [flag, shown]
        simp
      · obtain ⟨flag, shown⟩ := setFilter s ht hu false
        rw [flag, shown, if_neg ne, if_neg ne]
        exact ⟨rfl, rfl⟩
  | applied t v ht _ alone =>
      by_cases filter : t ∈ Toggle.colorFilters
      · have recorded := flag_of_mem_entries (within.mem List.mem_cons_self)
        refine hs.of_filter filter once ?_ fun u hu ne => ?_
        · obtain ⟨flag, shown⟩ := applyToggle_filter s filter filter (v.asBool?.getD false)
          -- its record is still that of the beginning, which is the entry
          have before := (hs.waiting t filter (by simp)).2
          rw [flag, shown, if_pos rfl, before, recorded]
          refine ⟨rfl, fun on => ?_⟩
          -- some filter is kept, since this one is recorded as on
          have some_on : (Toggle.colorFilters.find? start.flag).isSome :=
            List.find?_isSome.2 ⟨t, filter, by rw [recorded, on]⟩
          obtain ⟨u, hu⟩ := Option.isSome_iff_exists.1 some_on
          rw [hu, alone on filter u hu]
        · obtain ⟨flag, shown⟩ := applyToggle_filter s filter hu (v.asBool?.getD false)
          rw [flag, shown, if_neg ne]
          exact ⟨rfl, rfl⟩
      · exact hs.of_sameFilters (sameFilters_applyToggle s ht filter _)
          (ne_key_of_notMem_colorFilters ht filter)

theorem filtered_loaded {document : Document}
    (clean : ∀ t ∈ Toggle.colorFilters, document.hasRootClass t.key = false)
    (platform : Platform) (store : Store) (medium : Medium)
    (recognition : Speech.Recognition) :
    Filtered (loaded platform document store medium recognition) := by
  have start : Filtering (opened platform document store medium recognition)
      store.settings.device.entries (opened platform document store medium recognition) := by
    refine ⟨fun t ht _ => ⟨clean t ht, rfl⟩, fun t ht without => ?_⟩
    rw [flag_of_notMem without]
    exact ⟨clean t ht, by simp⟩
  have done : Filtering (opened platform document store medium recognition) []
      (loaded platform document store medium recognition) :=
    restoreSettings_induction start filtering_restored
  refine ⟨fun t ht => (done.done t ht (by simp)).1, fun t ht u hu on on' => ?_⟩
  have kept := (done.done t ht (by simp)).2 on
  rw [(done.done u hu (by simp)).2 on'] at kept
  exact (Option.some.inj kept).symm

theorem countP_le_one {p : Toggle → Bool} {l : List Toggle} (distinct : l.Nodup)
    (single : ∀ t ∈ l, ∀ u ∈ l, p t → p u → t = u) : l.countP p ≤ 1 := by
  induction l with
  | nil => simp
  | cons t r ih =>
      obtain ⟨ht, hr⟩ := List.nodup_cons.1 distinct
      rw [List.countP_cons]
      split
      · rename_i on
        have none : r.countP p = 0 := by
          refine List.countP_eq_zero.2 fun u hu on' => ht ?_
          rw [single t (by simp) u (by simp [hu]) on on']
          exact hu
        omega
      · exact ih hr fun u hu w hw => single u (by simp [hu]) w (by simp [hw])

/-- On a page that comes without the class of a colour filter, whatever is stored and whatever
happens after the page is loaded: at most one colour filter is recorded as on, at most one is a
class of the root, and one is a class of the root just when it is recorded as on. -/
theorem colorFilters_agree (platform : Platform) (document : Document) (store : Store)
    (medium : Medium) (recognition : Speech.Recognition) (hs : List Happening)
    (clean : ∀ t ∈ Toggle.colorFilters, document.hasRootClass t.key = false) :
    let s := (loaded platform document store medium recognition).run hs
    Toggle.colorFilters.countP s.flag ≤ 1 ∧
      Toggle.colorFilters.countP (s.document.hasRootClass ·.key) ≤ 1 ∧
      ∀ t ∈ Toggle.colorFilters, s.document.hasRootClass t.key = s.flag t := by
  intro s
  have filtered : Filtered s :=
    stable_filtered.run hs (filtered_loaded clean platform store medium recognition)
  refine ⟨countP_le_one (by decide) filtered.single, ?_, filtered.shown⟩
  refine countP_le_one (by decide) fun t ht u hu on on' => filtered.single t ht u hu ?_ ?_
  · rw [← filtered.shown t ht, on]
  · rw [← filtered.shown u hu, on']

/-- Two colour filters are stored as on, and the third one is set later: it alone is on. -/
theorem colorFilters_agree_of_several :
    let document : Document := {}
    let device : Keyed Json := .ofList
      [("lumen-protanopia", .bool true), ("lumen-deuteranopia", .bool true)]
    let store : Store := { settings := { device := device } }
    let s := (loaded ⟨.unconfigured, fun _ => .error .missingKey, none⟩ document store none {}).run
      [.message (.toggleFeature "lumen-tritanopia" true)]
    (∀ t ∈ Toggle.colorFilters, document.hasRootClass t.key = false) ∧
      s.flag .tritanopia ∧
      Toggle.colorFilters.countP s.flag ≤ 1 ∧
      Toggle.colorFilters.countP (s.document.hasRootClass ·.key) ≤ 1 ∧
      ∀ t ∈ Toggle.colorFilters, s.document.hasRootClass t.key = s.flag t := by
  intro document device store s
  have clean : ∀ t ∈ Toggle.colorFilters, document.hasRootClass t.key = false := by decide
  have on : s.flag .tritanopia := by decide +kernel
  exact ⟨clean, on, colorFilters_agree _ document store none {} _ clean⟩

end Session

end PageAid
