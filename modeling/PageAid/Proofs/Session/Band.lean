import PageAid.Proofs.Session.ColorFilter

/-!
The band of the reading guide is on the page once at most, among the children of the body and
nowhere deeper, also not in an overlay that copies a part of the page (`stable_lone`). On a page
that was loaded once it is there just when the guide is recorded as on (`stable_banded`).
-/

namespace PageAid

namespace Element

/-- Where all elements with an identifier are children, none stands below another element. -/
theorem countId_eq_zero_of_countId_le {e x : Element} {id : String}
    (h : e.countId id ≤ e.children.countP (·.hasId id)) (hx : x ∈ e.descendants) :
    x.countId id = 0 := by
  have deeper : ∀ c ∈ e.children, c.countId id = 0 := by
    rw [countId_eq_bearersIn] at h
    have split : ∀ cs : List Element, bearersIn cs id ≤ cs.countP (·.hasId id) →
        ∀ c ∈ cs, c.countId id = 0 := by
      intro cs
      induction cs with
      | nil => simp
      | cons c r ih =>
          intro le
          have least : r.countP (·.hasId id) ≤ bearersIn r id := by
            have := countP_children_le (node default r) id
            rwa [countId_eq_bearersIn] at this
          rw [bearersIn_cons, bearers_eq, List.countP_cons] at le
          refine List.forall_mem_cons.2 ⟨by omega, ih (by omega)⟩
    exact split e.children h
  obtain ⟨c, hc, rfl | below⟩ := mem_descendants_iff.1 hx
  · exact deeper x hc
  · exact Nat.le_zero.1 (deeper c hc ▸ countId_le_of_mem below id)

end Element

namespace Session

open Element

/-- There is one band at most, and it is a child of the body. -/
structure Lone (s : Session) : Prop where
  single : s.document.body.children.countP (·.hasId Guide.nodeId) ≤ 1
  outermost : s.document.body.countId Guide.nodeId ≤
    s.document.body.children.countP (·.hasId Guide.nodeId)

/-- The band is a child of the body just when the guide is recorded as on, and there is no band
anywhere else. -/
structure Banded (s : Session) : Prop where
  among : s.document.body.children.countP (·.hasId Guide.nodeId) =
    if s.flag .readingGuide then 1 else 0
  outermost : s.document.body.countId Guide.nodeId ≤
    s.document.body.children.countP (·.hasId Guide.nodeId)

theorem Banded.lone {s : Session} (hs : Banded s) : Lone s where
  single := by
    rw [hs.among]
    split <;> omega
  outermost := hs.outermost

theorem Banded.found {s : Session} (hs : Banded s) :
    (s.document.findId Guide.nodeId).isSome = s.flag .readingGuide := by
  have least := countP_children_le s.document.body Guide.nodeId
  have among := hs.among
  have outermost := hs.outermost
  rw [Bool.eq_iff_iff, Document.findId, isSome_findId_iff]
  cases h : s.flag .readingGuide with
  | false =>
      rw [h, if_neg Bool.false_ne_true] at among
      simp only [Bool.false_eq_true, iff_false]
      omega
  | true =>
      rw [h, if_pos rfl] at among
      simp only [iff_true]
      omega

theorem lone_of_without {s : Session} (without : s.document.body.countId Guide.nodeId = 0) :
    Lone s where
  single := by
    have least := countP_children_le s.document.body Guide.nodeId
    omega
  outermost := without ▸ Nat.zero_le _

/-- From `s` to `s'` the bands stay, unless one went with an element that was taken out from around
it, and so does the record of the guide. -/
structure SameBands (s s' : Session) : Prop where
  among : s'.document.body.children.countP (·.hasId Guide.nodeId) =
    s.document.body.children.countP (·.hasId Guide.nodeId)
  outermost : s'.document.body.countId Guide.nodeId ≤ s.document.body.countId Guide.nodeId
  recorded : s'.flag .readingGuide = s.flag .readingGuide

namespace SameBands

variable {s s' s'' : Session}

theorem trans (h : SameBands s s') (h' : SameBands s' s'') : SameBands s s'' where
  among := h'.among.trans h.among
  outermost := Nat.le_trans h'.outermost h.outermost
  recorded := h'.recorded.trans h.recorded

theorem banded (h : SameBands s s') (hs : Banded s) : Banded s' where
  among := by rw [h.among, hs.among, h.recorded]
  outermost := by
    rw [h.among]
    exact Nat.le_trans h.outermost hs.outermost

theorem lone (h : SameBands s s') (hs : Lone s) : Lone s' where
  single := h.among ▸ hs.single
  outermost := by
    rw [h.among]
    exact Nat.le_trans h.outermost hs.outermost

theorem of_body (body : s'.document.body = s.document.body) (store : s'.store = s.store) :
    SameBands s s' where
  among := by rw [body]
  outermost := Nat.le_of_eq (by rw [body])
  recorded := by rw [flag, store, flag]

theorem of_aside (h : Aside s s') : SameBands s s' where
  among := h.countP_children _
  outermost := Nat.le_of_eq (h.countId _)
  recorded := h.flag _

theorem of_updatedAt {p : Path} {f : Markup → Markup}
    (body : s'.document.body = s.document.body.updatedAt p f) (store : s'.store = s.store)
    (kept : s.document.body.KeepsId p f Guide.nodeId) : SameBands s s' where
  among := by rw [body, countP_children_updatedAt kept]
  outermost := Nat.le_of_eq (by rw [body, countId_updatedAt kept])
  recorded := by rw [flag, store, flag]

end SameBands

/-! ### Changes that the guide has no part in -/

theorem readable_readingGuide : Toggle.readingGuide.Readable :=
  Toggle.readable_of_ne_other (by simp)

theorem sameBands_storeValue (s : Session) {key : String} (v : Json)
    (h : key ≠ Toggle.readingGuide.key) : SameBands s (s.storeValue .device key v) where
  among := rfl
  outermost := Nat.le_refl _
  recorded := by rw [flag_storeValue, if_neg h]

theorem sameBands_persist (s : Session) {t : Toggle} (ht : t.Readable) (h : t ≠ .readingGuide)
    (on : Bool) : SameBands s (s.persist t on) :=
  sameBands_storeValue s _ fun same => h ((ht.key_eq_iff readable_readingGuide).1 same)

theorem sameBands_showFontScale (s : Session) (scale : Float) :
    SameBands s (s.showFontScale scale) := SameBands.of_body rfl rfl

theorem sameBands_setBodyClass (s : Session) (name : String) (on : Bool) :
    SameBands s (s.onPage (·.setBodyClass name on)) :=
  SameBands.of_updatedAt (p := []) rfl rfl fun m _ => m.hasId_setClass name on _

theorem sameBands_disableFocus (s : Session) : SameBands s s.disableFocus := by
  have other : Focus.overlayId ≠ Guide.nodeId := by decide
  have removed : SameBands s (s.onPage fun d => (d.removeId Focus.overlayId).2) :=
    ⟨countP_children_removeId other _, countId_removeId_le _ _ _, rfl⟩
  have page := removed.trans (sameBands_setBodyClass _ Focus.noScrollClass false)
  rw [disableFocus]
  refine SameBands.trans ?_ (sameBands_persist _ Toggle.readable_focusMode (by simp) false)
  exact page.trans (SameBands.of_body rfl rfl)

/-- The overlay brings no band along, as long as none stands deeper in the body. -/
theorem sameBands_enableFocus {s : Session}
    (outermost : s.document.body.countId Guide.nodeId ≤
      s.document.body.children.countP (·.hasId Guide.nodeId)) :
    SameBands s s.enableFocus.2 := by
  obtain ⟨-, -, same⟩ | ⟨-, -, told⟩ | ⟨article, ha, -, -, shown⟩ := enableFocus_cases s
  · rw [same]
    exact SameBands.of_body rfl rfl
  · rw [told]
    exact (SameBands.of_aside (quiet_notify s _ _).toAside).trans
      (sameBands_persist _ Toggle.readable_focusMode (by simp) false)
  · rw [shown]
    -- the overlay is no band, and the article that is copied has none below it
    have itself : (Focus.overlay article).hasId Guide.nodeId = false := rfl
    have within : (Focus.overlay article).bearers Guide.nodeId = 0 := by
      rw [Focus.bearers_overlay, countId_eq_zero_of_countId_le outermost ha]
      rfl
    have appended : SameBands s (s.onPage (·.append (Focus.overlay article))) := by
      refine ⟨?_, ?_, rfl⟩
      · show (s.document.body.withChild _).children.countP _ = _
        rw [children_withChild, List.countP_append]
        simp [itself]
      · show (s.document.body.withChild _).countId _ ≤ _
        rw [countId_withChild, within]
        exact Nat.le_refl _
    have page := appended.trans (sameBands_setBodyClass _ Focus.noScrollClass true)
    exact page.trans (SameBands.of_body rfl rfl)

theorem sameBands_addSkipLink (s : Session) : SameBands s s.addSkipLink := by
  have store : s.addSkipLink.store = s.store := by rw [(addSkipLink_eq s).1]
  have other : Guide.nodeId ≠ SkipLink.nodeId := by decide
  obtain ⟨-, among, all⟩ := counts_addSkipLink s other (by decide)
  exact ⟨among, Nat.le_of_eq all, by rw [flag, store, flag]⟩

theorem sameBands_pointerMoved (s : Session) (y : Float) : SameBands s (s.pointerMoved y) := by
  rcases s.guide.body_pointerMoved s.document y with same | ⟨p, top, -, moved⟩
  · exact SameBands.of_body same rfl
  · exact SameBands.of_updatedAt moved rfl fun _ _ => rfl

theorem sameBands_tick (s : Session) (due : Nat) : SameBands s (s.tick due) := by
  rcases body_tick s due with same | ⟨p, text, -, shown⟩
  · exact SameBands.of_body same (store_tick s due)
  · exact SameBands.of_updatedAt shown (store_tick s due) fun _ _ => rfl

/-! ### The guide on and off -/

theorem sameBands_applyToggle {s : Session}
    (outermost : s.document.body.countId Guide.nodeId ≤
      s.document.body.children.countP (·.hasId Guide.nodeId))
    {t : Toggle} (h : t ≠ .readingGuide) (on : Bool) : SameBands s (s.applyToggle t on).2 := by
  unfold applyToggle
  split
  · exact SameBands.of_body rfl rfl
  · exact sameBands_setBodyClass s _ on
  · rename_i target
    cases t <;> simp_all [Toggle.target]
  · cases on
    · exact sameBands_disableFocus s
    · exact sameBands_enableFocus outermost
  · cases on
    · exact SameBands.of_body rfl rfl
    · simp only [if_true, enableVoice]
      split
      · exact SameBands.of_body rfl rfl
      · exact SameBands.of_body rfl rfl

theorem counts_applyGuide {s : Session} (hs : Lone s) (on : Bool) :
    (s.applyToggle .readingGuide on).2.document.body.children.countP (·.hasId Guide.nodeId) =
        (if on then 1 else 0) ∧
      (s.applyToggle .readingGuide on).2.document.body.countId Guide.nodeId =
        (if on then 1 else 0) := by
  obtain ⟨single, outermost⟩ := hs
  have body := s.guide.body_setEnabled s.document on
  have active : Guide.active s.document = true ↔ 0 < s.document.body.countId Guide.nodeId :=
    isSome_findId_iff
  have least := countP_children_le s.document.body Guide.nodeId
  show (s.guide.setEnabled s.document on).2.body.children.countP _ = _ ∧
    (s.guide.setEnabled s.document on).2.body.countId _ = _
  cases ha : Guide.active s.document with
  | false =>
      have none : s.document.body.countId Guide.nodeId = 0 := by
        simpa [ha] using active
      rw [ha] at body
      cases on with
      | false =>
          rw [body]
          exact ⟨Nat.le_zero.1 (none ▸ least), none⟩
      | true =>
          have one : Guide.band.bearers Guide.nodeId = 1 := rfl
          have itself : Guide.band.hasId Guide.nodeId = true := rfl
          rw [body, children_withChild, List.countP_append, countId_withChild, one, none]
          simp [itself, Nat.le_zero.1 (none ▸ least)]
  | true =>
      have some := active.1 ha
      rw [ha] at body
      cases on with
      | false =>
          have fewer := countId_removeId_lt some
          have left := countP_children_le (s.document.body.removeId Guide.nodeId).2 Guide.nodeId
          rw [body]
          simp only [Bool.false_eq_true, if_false]
          omega
      | true =>
          rw [body]
          simp only [if_true]
          omega

theorem banded_applyGuide {s : Session} {on : Bool} (recorded : s.flag .readingGuide = on)
    (hs : Lone s) : Banded (s.applyToggle .readingGuide on).2 := by
  obtain ⟨among, all⟩ := counts_applyGuide hs on
  refine ⟨?_, Nat.le_of_eq (all.trans among.symm)⟩
  rw [among, ← recorded]
  rfl

theorem lone_applyToggle {s : Session} (hs : Lone s) (t : Toggle) (on : Bool) :
    Lone (s.applyToggle t on).2 := by
  by_cases h : t = .readingGuide
  · subst h
    obtain ⟨among, all⟩ := counts_applyGuide hs on
    refine ⟨?_, Nat.le_of_eq (all.trans among.symm)⟩
    rw [among]
    split <;> omega
  · exact (sameBands_applyToggle hs.outermost h on).lone hs

theorem lone_persist {s : Session} (hs : Lone s) (t : Toggle) (on : Bool) :
    Lone (s.persist t on) := ⟨hs.single, hs.outermost⟩

theorem lone_setToggle {s : Session} (t : Toggle) (on : Bool) (hs : Lone s) :
    Lone (s.setToggle t on) := by
  have cleared : Lone (if on then s.clearPeers t else s) := by
    cases on
    · exact hs
    · exact clearPeers_induction t hs fun _ u _ hs => lone_applyToggle (lone_persist hs u false) u _
  refine (SameBands.of_aside (quiet_setToggle s t on).toAside).lone ?_
  exact lone_applyToggle (lone_persist cleared t on) t on

theorem banded_setToggle {s : Session} {t : Toggle} (on : Bool) (ht : t.Readable)
    (hs : Banded s) : Banded (s.setToggle t on) := by
  refine (SameBands.of_aside (quiet_setToggle s t on).toAside).banded ?_
  by_cases h : t = .readingGuide
  · subst h
    have alone : (if on then s.clearPeers .readingGuide else s) = s := by
      cases on <;> rfl
    have recorded : (s.persist .readingGuide on).flag .readingGuide = on := by
      rw [flag_persist readable_readingGuide readable_readingGuide, if_pos rfl]
    rw [alone]
    exact banded_applyGuide recorded (lone_persist hs.lone .readingGuide on)
  · have cleared : Banded (if on then s.clearPeers t else s) := by
      cases on
      · exact hs
      · refine clearPeers_induction t hs fun s' u hu hs' => ?_
        have ne : u ≠ .readingGuide := by
          rintro rfl
          simp [Toggle.colorFilters] at hu
        have recorded := (sameBands_persist s' (Toggle.readable_of_mem_colorFilters hu) ne
          false).banded hs'
        exact (sameBands_applyToggle recorded.outermost ne false).banded recorded
    have recorded := (sameBands_persist _ ht h on).banded cleared
    exact (sameBands_applyToggle recorded.outermost h on).banded recorded

/-! ### Runs -/

/-- What is kept where the bands are, and when a switch is set, every kind of change keeps. -/
theorem stable_of_sameBands {P : Session → Prop} (lone : ∀ {s}, P s → Lone s)
    (kept : ∀ {s s'}, SameBands s s' → P s → P s')
    (setToggle : ∀ {s t} (on : Bool), t.Readable → P s → P (s.setToggle t on)) : Stable P where
  aside h := kept (SameBands.of_aside h)
  pause {s} _ := kept (SameBands.of_body rfl rfl)
  setToggle := setToggle
  changeFontSize {s} c := by
    refine kept ((sameBands_showFontScale s _).trans (sameBands_storeValue _ _ ?_))
    exact readable_readingGuide.key_ne_fontScaleKey.symm
  addSkipLink {s} := kept (sameBands_addSkipLink s)
  pointerMoved {s} y := kept (sameBands_pointerMoved s y)
  scrollTo {s} y := kept (SameBands.of_body rfl rfl)
  hear _ _ := kept (SameBands.of_body rfl rfl)
  forgetVoice {s} :=
    kept (sameBands_persist s Toggle.readable_voiceControl (by simp) false)
  enterFocus {s} hs := by
    have entered := sameBands_enableFocus (lone hs).outermost
    rw [execute_enterFocusMode]
    split
    · exact kept entered hs
    · exact kept (entered.trans
        (sameBands_persist _ Toggle.readable_focusMode (by simp) true)) hs
  disableFocus {s} := kept (sameBands_disableFocus s)
  tick {s i due} _ := by
    have taken : SameBands s { s with agenda := s.agenda.eraseIdx i } :=
      SameBands.of_body rfl rfl
    exact kept (taken.trans (sameBands_tick _ due))

theorem stable_banded : Stable Banded :=
  stable_of_sameBands (·.lone) (·.banded) banded_setToggle

theorem stable_lone : Stable Lone :=
  stable_of_sameBands id (·.lone) fun on _ => lone_setToggle _ on

/-! ### From loading on -/

theorem sameBands_restored {kept : Option Toggle} {s s' : Session} {e : String × Json}
    (h : Restored kept s e s') (other : e.1 ≠ Toggle.readingGuide.key)
    (outermost : s.document.body.countId Guide.nodeId ≤
      s.document.body.children.countP (·.hasId Guide.nodeId)) : SameBands s s' := by
  have recorded : s'.flag .readingGuide = s.flag .readingGuide := h.flag other
  cases h with
  | scaled v => exact sameBands_showFontScale s _
  | skipped key v _ => exact SameBands.of_body rfl rfl
  | dropped t v _ _ => exact ⟨rfl, Nat.le_refl _, recorded⟩
  | cleared t v ht _ _ =>
      have applied := sameBands_applyToggle (s := s.persist t false) outermost
        (ne_of_mem_of_not_mem ht (by decide)) false
      exact ⟨applied.among, applied.outermost, recorded⟩
  | applied t v _ _ _ =>
      refine sameBands_applyToggle outermost ?_ _
      rintro rfl
      exact other rfl

theorem lone_restoreSettings {s : Session} (hs : Lone s) : Lone s.restoreSettings :=
  restoreSettings_of_kept hs (fun s scale => (sameBands_showFontScale s scale).lone)
    (fun _ t hs => lone_persist hs t false) fun _ t on hs => lone_applyToggle hs t on

/-- On a page that comes without a band there is one just when the guide is recorded as on, once
the settings are taken over. -/
theorem banded_loaded {document : Document} (clean : document.body.countId Guide.nodeId = 0)
    (platform : Platform) (store : Store) (medium : Medium)
    (recognition : Speech.Recognition) :
    Banded (loaded platform document store medium recognition) := by
  -- there is no band and the record is that of the beginning, until the guide is taken over
  refine restoreSettings_of_entry Toggle.readingGuide.key
    (fun s => s.document.body.countId Guide.nodeId = 0 ∧ s.flag .readingGuide =
      (opened platform document store medium recognition).flag .readingGuide)
    Banded ⟨clean, rfl⟩ ?_ ?_ ?_
  · intro absent
    refine ⟨?_, clean ▸ Nat.zero_le _⟩
    rw [flag_of_notMem absent]
    exact Nat.le_zero.1 (clean ▸ countP_children_le document.body Guide.nodeId)
  · intro e s₁ s₂ _ other h
    constructor
    · rintro ⟨without, recorded⟩
      have same := sameBands_restored h other (lone_of_without without).outermost
      exact ⟨Nat.le_zero.1 (without ▸ same.outermost), same.recorded.trans recorded⟩
    · exact fun hs => (sameBands_restored h other hs.outermost).banded hs
  · rintro v s₁ s₂ own h ⟨without, recorded⟩
    have stored := flag_of_mem_entries own
    obtain ⟨passing, -⟩ | ⟨filter, -⟩ | ⟨-, -, rfl⟩ := h.of_key readable_readingGuide
    · simp [Toggle.isSessionScoped] at passing
    · exact absurd filter (by decide)
    · exact banded_applyGuide (recorded.trans stored) (lone_of_without without)

end Session

end PageAid
