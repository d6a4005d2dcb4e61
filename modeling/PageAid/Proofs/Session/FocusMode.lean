import PageAid.Proofs.Session.Body
import PageAid.Proofs.Session.Change
import PageAid.Proofs.Session.Load

/-!
Focus mode is five things at once: the session that is held, the overlay on the page, the state of
the Pomodoro timer, its ticker, and the record of the switch. They agree in every state that a page
goes through (`focusMode_agrees`), whichever way focus mode was switched on or off.
-/

namespace PageAid.Session

open Element

/-- The overlay, the timer and its ticker are there just as long as a session of focus mode is
held. Every overlay is a child of the body. -/
structure Shown (s : Session) : Prop where
  body : s.document.body.hasId Focus.overlayId = false
  overlay : s.document.body.children.countP (·.hasId Focus.overlayId) =
    if s.focus.isSome then 1 else 0
  outermost : s.document.body.countId Focus.overlayId ≤
    s.document.body.children.countP (·.hasId Focus.overlayId)
  timer : s.pomodoro.isSome = s.focus.isSome
  ticker : s.tickers = if s.focus.isSome then 1 else 0

/-- The record of the switch agrees too. -/
structure Agreed (s : Session) : Prop extends Shown s where
  recorded : s.flag .focusMode = s.focus.isSome

/-- Focus mode is not touched from `s` to `s'`; overlays may only have gone with an element that
was taken out from around them. -/
structure SameFocus (s s' : Session) : Prop where
  focus : s'.focus = s.focus
  body : s'.document.body.hasId Focus.overlayId = s.document.body.hasId Focus.overlayId
  overlay : s'.document.body.children.countP (·.hasId Focus.overlayId) =
    s.document.body.children.countP (·.hasId Focus.overlayId)
  outermost : s'.document.body.countId Focus.overlayId ≤
    s.document.body.countId Focus.overlayId
  timer : s'.pomodoro.isSome = s.pomodoro.isSome
  ticker : s'.tickers = s.tickers
  recorded : s'.flag .focusMode = s.flag .focusMode

namespace SameFocus

variable {s s' s'' : Session}

theorem refl (s : Session) : SameFocus s s := ⟨rfl, rfl, rfl, Nat.le_refl _, rfl, rfl, rfl⟩

theorem trans (h : SameFocus s s') (h' : SameFocus s' s'') : SameFocus s s'' where
  focus := h'.focus.trans h.focus
  body := h'.body.trans h.body
  overlay := h'.overlay.trans h.overlay
  outermost := Nat.le_trans h'.outermost h.outermost
  timer := h'.timer.trans h.timer
  ticker := h'.ticker.trans h.ticker
  recorded := h'.recorded.trans h.recorded

theorem shown (h : SameFocus s s') (hs : Shown s) : Shown s' where
  body := h.body.trans hs.body
  overlay := by rw [h.overlay, hs.overlay, h.focus]
  outermost := by
    rw [h.overlay]
    exact Nat.le_trans h.outermost hs.outermost
  timer := by rw [h.timer, hs.timer, h.focus]
  ticker := by rw [h.ticker, hs.ticker, h.focus]

theorem agreed (h : SameFocus s s') (hs : Agreed s) : Agreed s' :=
  { h.shown hs.toShown with recorded := by rw [h.recorded, hs.recorded, h.focus] }

theorem of_aside (h : Aside s s') : SameFocus s s' where
  focus := h.focus
  body := by rw [← hasId_outline, h.outline, hasId_outline]
  overlay := h.countP_children _
  outermost := Nat.le_of_eq (h.countId _)
  timer := by rw [h.pomodoro]
  ticker := h.tickers
  recorded := h.flag _

theorem of_document {d : Document}
    (body : d.body.hasId Focus.overlayId = s.document.body.hasId Focus.overlayId)
    (overlay : d.body.children.countP (·.hasId Focus.overlayId) =
      s.document.body.children.countP (·.hasId Focus.overlayId))
    (outermost : d.body.countId Focus.overlayId ≤ s.document.body.countId Focus.overlayId) :
    SameFocus s { s with document := d } :=
  ⟨rfl, body, overlay, outermost, rfl, rfl, rfl⟩

theorem of_body_eq {d : Document} (h : d.body = s.document.body) :
    SameFocus s { s with document := d } :=
  of_document (by rw [h]) (by rw [h]) (Nat.le_of_eq (by rw [h]))

theorem of_updatedAt {d : Document} {p : Path} {f : Markup → Markup}
    (h : d.body = s.document.body.updatedAt p f)
    (kept : s.document.body.KeepsId p f Focus.overlayId) :
    SameFocus s { s with document := d } := by
  refine of_document ?_ ?_ ?_ <;> rw [h]
  · exact hasId_updatedAt kept
  · exact countP_children_updatedAt kept
  · exact Nat.le_of_eq (countId_updatedAt kept)

end SameFocus

/-! ### Changes that focus mode has no part in -/

theorem sameFocus_storeValue (s : Session) {key : String} (v : Json)
    (h : key ≠ Toggle.focusMode.key) : SameFocus s (s.storeValue .device key v) :=
  { SameFocus.refl s with recorded := by rw [flag_storeValue, if_neg h] }

theorem sameFocus_persist (s : Session) {t : Toggle} (ht : t.Readable) (h : t ≠ .focusMode)
    (on : Bool) : SameFocus s (s.persist t on) :=
  sameFocus_storeValue s _ fun same => h ((ht.key_eq_iff Toggle.readable_focusMode).1 same)

theorem sameFocus_showFontScale (s : Session) (scale : Float) :
    SameFocus s (s.showFontScale scale) := SameFocus.of_body_eq rfl

theorem sameFocus_setBodyClass (s : Session) (name : String) (on : Bool) :
    SameFocus s (s.onPage (·.setBodyClass name on)) := by
  refine SameFocus.of_updatedAt (p := []) rfl ?_
  intro m _
  exact m.hasId_setClass name on _

theorem sameFocus_setGuide (s : Session) (on : Bool) :
    SameFocus s { s with
      guide := (s.guide.setEnabled s.document on).1
      document := (s.guide.setEnabled s.document on).2 } := by
  have other : Guide.nodeId ≠ Focus.overlayId := by decide
  have no_overlay : Guide.band.bearers Focus.overlayId = 0 := by decide
  have page : SameFocus s { s with document := (s.guide.setEnabled s.document on).2 } := by
    have body := s.guide.body_setEnabled s.document on
    -- the band is taken off or put on only where that is called for
    cases on <;> cases active : Guide.active s.document <;> rw [active] at body
    · exact SameFocus.of_body_eq body
    · refine SameFocus.of_document ?_ ?_ ?_ <;> rw [body]
      · simp [hasId]
      · exact countP_children_removeId other _
      · exact countId_removeId_le _ _ _
    · refine SameFocus.of_document ?_ ?_ ?_ <;> rw [body]
      · simp [hasId]
      · simp [List.countP_append, show Guide.band.hasId Focus.overlayId = false by decide]
      · exact Nat.le_of_eq (by rw [countId_withChild, no_overlay, Nat.add_zero])
    · exact SameFocus.of_body_eq body
  exact { page with }

theorem sameFocus_applyToggle (s : Session) {t : Toggle} (h : t ≠ .focusMode) (on : Bool) :
    SameFocus s (s.applyToggle t on).2 := by
  unfold applyToggle
  split
  · exact SameFocus.of_body_eq rfl
  · exact sameFocus_setBodyClass s _ on
  · exact sameFocus_setGuide s on
  · rename_i target
    cases t <;> simp_all [Toggle.target]
  · cases on
    · exact { SameFocus.refl s with }
    · simp only [if_true, enableVoice]
      split
      · exact { SameFocus.refl s with }
      · exact SameFocus.refl s

theorem sameFocus_clearPeers (s : Session) (t : Toggle) : SameFocus s (s.clearPeers t) := by
  refine clearPeers_induction t (SameFocus.refl s) fun s' u hu hs => ?_
  have ne : u ≠ .focusMode := ne_of_mem_of_not_mem hu (by decide)
  have recorded := sameFocus_persist s' (Toggle.readable_of_mem_colorFilters hu) ne false
  exact (hs.trans recorded).trans (sameFocus_applyToggle _ ne false)

theorem sameFocus_addSkipLink (s : Session) : SameFocus s s.addSkipLink := by
  have other : Focus.overlayId ≠ SkipLink.nodeId := by decide
  obtain ⟨body, overlay, outermost⟩ := counts_addSkipLink s other (by decide)
  rw [(addSkipLink_eq s).1] at body overlay outermost ⊢
  exact SameFocus.of_document body overlay (Nat.le_of_eq outermost)

theorem sameFocus_pointerMoved (s : Session) (y : Float) : SameFocus s (s.pointerMoved y) := by
  rcases s.guide.body_pointerMoved s.document y with same | ⟨p, top, -, moved⟩
  · exact SameFocus.of_body_eq same
  · exact SameFocus.of_updatedAt moved fun _ _ => rfl

/-- A tick of a running timer is followed by the next one. -/
theorem sameFocus_tick {s : Session} {i due : Nat} (hi : s.agenda[i]? = some ⟨due, .tick⟩)
    (running : s.pomodoro.isSome) :
    SameFocus s ({ s with agenda := s.agenda.eraseIdx i }.tick due) := by
  obtain ⟨state, hstate⟩ := Option.isSome_iff_exists.1 running
  -- the tick that is taken off the agenda is made up for by the next one
  have one := countP_eraseIdx_add hi (·.step.isTick)
  have page : SameFocus s { s with document :=
      ({ s with agenda := s.agenda.eraseIdx i }.tick due).document } := by
    rcases body_tick { s with agenda := s.agenda.eraseIdx i } due with same | ⟨p, text, -, shown⟩
    · exact SameFocus.of_body_eq same
    · exact SameFocus.of_updatedAt shown fun _ _ => rfl
  have rest : ∃ journal, { s with agenda := s.agenda.eraseIdx i }.tick due =
      { s with
        document := ({ s with agenda := s.agenda.eraseIdx i }.tick due).document
        pomodoro := some state.tick.2
        agenda := s.agenda.eraseIdx i ++ [⟨due + tickInterval, .tick⟩]
        journal := journal } := by
    rw [tick]
    simp only [hstate]
    split <;> exact ⟨_, rfl⟩
  obtain ⟨journal, rest⟩ := rest
  rw [rest]
  refine { page with timer := by simp [hstate], ticker := ?_ }
  simp only [tickers, List.countP_append]
  simpa [Step.isTick] using one

/-! ### Focus mode on and off -/

@[simp] theorem tickers_withoutTicks (s : Session) : s.withoutTicks.tickers = 0 := by
  simp [withoutTicks, tickers, List.countP_filter]

theorem tickers_startTimer (s : Session) (d : Pomodoro.Durations) :
    (s.startTimer d).tickers = 1 := by
  have none_left := s.tickers_withoutTicks
  rw [tickers] at none_left
  have started : (s.startTimer d).agenda = s.withoutTicks.agenda ++ [⟨s.clock + 0, .tick⟩] := rfl
  rw [tickers, started, List.countP_append, none_left]
  rfl

theorem flag_persist_focusMode (s : Session) (on : Bool) :
    (s.persist .focusMode on).flag .focusMode = on := by
  rw [flag_persist Toggle.readable_focusMode Toggle.readable_focusMode, if_pos rfl]

theorem agreed_disableFocus {s : Session} (hs : Shown s) : Agreed s.disableFocus := by
  have none_left : s.disableFocus.document.body.countId Focus.overlayId = 0 := by
    rw [body_disableFocus, countId_mapMarkup]
    have le := countId_removeId_le s.document.body Focus.overlayId Focus.overlayId
    have bound := hs.outermost
    rw [hs.overlay] at bound
    -- there is one overlay at most, and the removal takes one
    by_cases h : 0 < s.document.body.countId Focus.overlayId
    · have lt := countId_removeId_lt h
      split at bound <;> omega
    · omega
  have none_among := Nat.le_zero.1 (none_left ▸ countP_children_le _ _)
  refine { body := ?_, overlay := none_among, outermost := ?_, timer := rfl, ticker := ?_,
           recorded := ?_ }
  · rw [body_disableFocus, ← hs.body]
    simp [hasId]
  · rw [none_left]
    exact Nat.zero_le _
  · exact s.tickers_withoutTicks
  · exact flag_persist_focusMode _ false

theorem shown_enableFocus {s : Session} {article : Element} (hs : Shown s)
    (off : s.focus = none) (ha : article ∈ s.document.body.descendants) (session : FocusSession)
    (d : Pomodoro.Durations) :
    Shown (({ s.onPage (fun d => (d.append (Focus.overlay article)).setBodyClass
      Focus.noScrollClass true) with focus := some session } : Session).startTimer d) := by
  have among := hs.overlay
  rw [off] at among
  have none_yet : s.document.body.countId Focus.overlayId = 0 := by
    have bound := hs.outermost
    rw [among] at bound
    exact Nat.le_zero.1 bound
  -- nor is there one in the article, whose children are copied
  have in_article := countId_le_of_mem ha Focus.overlayId
  have itself : (Focus.overlay article).hasId Focus.overlayId = true := rfl
  have overlay : ((s.document.body.withChild (Focus.overlay article)).mapMarkup
      (·.setClass Focus.noScrollClass true)).children.countP (·.hasId Focus.overlayId) = 1 := by
    rw [children_mapMarkup, children_withChild, List.countP_append, among]
    simp [itself]
  refine { body := ?_, overlay := overlay, outermost := ?_, timer := rfl, ticker := ?_ }
  · rw [← hs.body]
    simp [startTimer, withoutTicks, arrange, onPage, Document.append, Document.setBodyClass, hasId]
  · refine Nat.le_trans ?_ (Nat.le_of_eq overlay.symm)
    show ((s.document.body.withChild (Focus.overlay article)).mapMarkup
      (·.setClass Focus.noScrollClass true)).countId Focus.overlayId ≤ 1
    have frame : (Focus.overlay (.node default [])).bearers Focus.overlayId = 1 := rfl
    rw [countId_mapMarkup, countId_withChild, Focus.bearers_overlay, frame]
    omega
  · exact tickers_startTimer _ d

theorem shown_persist {s : Session} (hs : Shown s) (t : Toggle) (on : Bool) :
    Shown (s.persist t on) := ⟨hs.body, hs.overlay, hs.outermost, hs.timer, hs.ticker⟩

theorem agreed_notFound {s : Session} (hs : Shown s) (off : s.focus = none) :
    Agreed ((s.notify .error Focus.notFoundMessage).persist .focusMode false) := by
  have told := SameFocus.of_aside (quiet_notify s .error Focus.notFoundMessage).toAside
  refine { shown_persist (told.shown hs) .focusMode false with recorded := ?_ }
  rw [flag_persist_focusMode]
  show false = s.focus.isSome
  rw [off]
  rfl

theorem shown_enabled {s : Session} (hs : Shown s) : Shown s.enableFocus.2 := by
  obtain ⟨-, -, same⟩ | ⟨off, -, told⟩ | ⟨article, ha, off, -, shown⟩ := enableFocus_cases s
  · rw [same]
    exact hs
  · rw [told]
    exact (agreed_notFound hs off).toShown
  · rw [shown]
    exact shown_enableFocus hs off ha _ _

/-- Where focus mode is recorded as on before it is switched on, the record is right afterwards. -/
theorem agreed_enableFocus {s : Session} (hs : Shown s) (recorded : s.flag .focusMode = true) :
    Agreed s.enableFocus.2 := by
  refine { shown_enabled hs with recorded := ?_ }
  obtain ⟨on, -, same⟩ | ⟨off, -, told⟩ | ⟨article, -, -, -, shown⟩ := enableFocus_cases s
  · rw [same, recorded, on]
  · rw [told]
    exact (agreed_notFound hs off).recorded
  · rw [shown]
    exact recorded

theorem agreed_enterFocusMode {s : Session} (hs : Agreed s) :
    Agreed (s.execute .enterFocusMode) := by
  rw [execute_enterFocusMode]
  obtain ⟨on, failed, same⟩ | ⟨off, failed, told⟩ | ⟨article, ha, off, done, shown⟩ :=
    enableFocus_cases s
  · rw [if_pos failed, same]
    exact hs
  · rw [if_pos failed, told]
    exact agreed_notFound hs.toShown off
  · rw [done, shown]
    refine { shown_persist (shown_enableFocus hs.toShown off ha _ _) .focusMode true with
      recorded := ?_ }
    exact flag_persist_focusMode _ true

theorem shown_applyToggle {s : Session} (hs : Shown s) (t : Toggle) (on : Bool) :
    Shown (s.applyToggle t on).2 := by
  by_cases h : t = .focusMode
  · subst h
    cases on with
    | true => exact shown_enabled hs
    | false => exact (agreed_disableFocus hs).toShown
  · exact (sameFocus_applyToggle s h on).shown hs

theorem shown_setToggle {s : Session} (t : Toggle) (on : Bool) (hs : Shown s) :
    Shown (s.setToggle t on) := by
  have cleared : Shown (if on then s.clearPeers t else s) := by
    cases on
    · exact hs
    · exact (sameFocus_clearPeers s t).shown hs
  refine (SameFocus.of_aside (quiet_setToggle s t on).toAside).shown ?_
  exact shown_applyToggle (shown_persist cleared t on) t on

theorem agreed_setToggle {s : Session} {t : Toggle} (on : Bool) (ht : t.Readable)
    (hs : Agreed s) : Agreed (s.setToggle t on) := by
  refine (SameFocus.of_aside (quiet_setToggle s t on).toAside).agreed ?_
  by_cases h : t = .focusMode
  · subst h
    have alone : (if on then s.clearPeers .focusMode else s) = s := by
      cases on <;> rfl
    have before := shown_persist hs.toShown .focusMode on
    rw [alone]
    cases on with
    | true => exact agreed_enableFocus before (flag_persist_focusMode s true)
    | false => exact agreed_disableFocus before
  · have cleared : SameFocus s (if on then s.clearPeers t else s) := by
      cases on
      · exact SameFocus.refl s
      · exact sameFocus_clearPeers s t
    have recorded := cleared.trans (sameFocus_persist _ ht h on)
    exact (recorded.trans (sameFocus_applyToggle _ h on)).agreed hs

/-! ### Runs -/

theorem pomodoro_isSome_of_tick {s : Session} {i due : Nat} (hs : Shown s)
    (hi : s.agenda[i]? = some ⟨due, .tick⟩) : s.pomodoro.isSome := by
  have one : 0 < s.tickers := by
    refine List.countP_pos_iff.2 ⟨⟨due, .tick⟩, List.mem_of_getElem? hi, rfl⟩
  rw [hs.ticker] at one
  rw [hs.timer]
  cases h : s.focus.isSome with
  | true => rfl
  | false => simp [h] at one

/-- What is kept wherever focus mode is not touched, and when it is switched, every kind of change
keeps. -/
theorem stable_of_sameFocus {P : Session → Prop} (shown : ∀ {s}, P s → Shown s)
    (kept : ∀ {s s'}, SameFocus s s' → P s → P s')
    (setToggle : ∀ {s t} (on : Bool), t.Readable → P s → P (s.setToggle t on))
    (enterFocus : ∀ {s}, P s → P (s.execute .enterFocusMode))
    (disableFocus : ∀ {s}, P s → P s.disableFocus) : Stable P where
  aside h := kept (SameFocus.of_aside h)
  pause {s} _ := kept { SameFocus.refl s with }
  setToggle := setToggle
  changeFontSize {s} c := by
    refine kept ((sameFocus_showFontScale s _).trans (sameFocus_storeValue _ _ ?_))
    exact Toggle.readable_focusMode.key_ne_fontScaleKey.symm
  addSkipLink {s} := kept (sameFocus_addSkipLink s)
  pointerMoved {s} y := kept (sameFocus_pointerMoved s y)
  scrollTo {s} y := kept (SameFocus.of_body_eq (d := s.document.scrollTo y) rfl)
  hear {s} _ _ := kept { SameFocus.refl s with }
  forgetVoice {s} :=
    kept (sameFocus_persist s Toggle.readable_voiceControl (by simp) false)
  enterFocus := enterFocus
  disableFocus := disableFocus
  tick hi hs := kept (sameFocus_tick hi (pomodoro_isSome_of_tick (shown hs) hi)) hs

theorem stable_agreed : Stable Agreed :=
  stable_of_sameFocus (·.toShown) (·.agreed) agreed_setToggle agreed_enterFocusMode
    fun hs => agreed_disableFocus hs.toShown

/-- Whatever is recorded, the overlay, the timer and the session stay together. -/
theorem stable_shown : Stable Shown :=
  stable_of_sameFocus id (·.shown) (fun on _ => shown_setToggle _ on)
    (fun {s} hs => by
      rw [execute_enterFocusMode]
      split
      · exact shown_enabled hs
      · exact shown_persist (shown_enabled hs) .focusMode true)
    fun hs => (agreed_disableFocus hs).toShown

/-! ### From loading on -/

theorem shown_opened {document : Document}
    (clean : document.body.bearers Focus.overlayId = 0) (platform : Platform) (store : Store)
    (medium : Medium) (recognition : Speech.Recognition) :
    Shown (opened platform document store medium recognition) := by
  rw [bearers_eq] at clean
  have below : document.body.countId Focus.overlayId = 0 := by omega
  have itself : document.body.hasId Focus.overlayId = false := by
    cases h : document.body.hasId Focus.overlayId with
    | true => simp [h] at clean
    | false => rfl
  have among := Nat.le_zero.1 (below ▸ countP_children_le document.body Focus.overlayId)
  exact ⟨itself, among, by simp [opened, below], rfl, rfl⟩

theorem shown_restoreSettings {s : Session} (hs : Shown s) : Shown s.restoreSettings :=
  restoreSettings_of_kept hs (fun s scale => (sameFocus_showFontScale s scale).shown)
    (fun _ t hs => shown_persist hs t false) fun _ t on hs => shown_applyToggle hs t on

/-- While settings are taken over there is no session, and a record of focus mode as on is only
one that is still to come. -/
structure Loading (rest : List (String × Json)) (s : Session) : Prop extends Shown s where
  off : s.focus = none
  recorded : s.flag .focusMode → Toggle.focusMode.key ∈ rest.map (·.1)

theorem Loading.of_sameFocus {e : String × Json} {rest : List (String × Json)} {s s' : Session}
    (hs : Loading (e :: rest) s) (h : SameFocus s s') (other : e.1 ≠ Toggle.focusMode.key) :
    Loading rest s' := by
  refine { h.shown hs.toShown with off := h.focus.trans hs.off, recorded := ?_ }
  intro on
  have among := hs.recorded (by rw [← h.recorded, on])
  rw [List.map_cons, List.mem_cons] at among
  exact among.resolve_left fun same => other same.symm

theorem loading_restored {kept : Option Toggle} {e : String × Json}
    {rest : List (String × Json)} {s s' : Session} (h : Restored kept s e s')
    (hs : Loading (e :: rest) s) : Loading rest s' := by
  have other : ∀ t : Toggle, t.Readable → t ≠ .focusMode → t.key ≠ Toggle.focusMode.key :=
    fun t ht ne same => ne ((ht.key_eq_iff Toggle.readable_focusMode).1 same)
  cases h with
  | scaled v =>
      exact hs.of_sameFocus (sameFocus_showFontScale s _)
        Toggle.readable_focusMode.key_ne_fontScaleKey.symm
  | skipped key v none =>
      refine hs.of_sameFocus (SameFocus.refl s) ?_
      rintro rfl
      rw [Toggle.readable_focusMode] at none
      simp at none
  | dropped t v ht _ =>
      by_cases same : t = .focusMode
      · subst same
        refine { shown_persist hs.toShown .focusMode false with off := hs.off, recorded := ?_ }
        rw [flag_persist_focusMode]
        simp
      · exact hs.of_sameFocus (sameFocus_persist s ht same false) (other t ht same)
  | cleared t v ht _ _ =>
      have ne : t ≠ .focusMode := ne_of_mem_of_not_mem ht (by decide)
      have readable := Toggle.readable_of_mem_colorFilters ht
      have recorded := sameFocus_persist s readable ne false
      exact hs.of_sameFocus (recorded.trans (sameFocus_applyToggle _ ne false))
        (other t readable ne)
  | applied t v ht passing _ =>
      have ne : t ≠ .focusMode := by
        rintro rfl
        simp [Toggle.isSessionScoped] at passing
      exact hs.of_sameFocus (sameFocus_applyToggle s ne _) (other t ht ne)

theorem agreed_loaded {document : Document}
    (clean : document.body.bearers Focus.overlayId = 0) (platform : Platform) (store : Store)
    (medium : Medium) (recognition : Speech.Recognition) :
    Agreed (loaded platform document store medium recognition) := by
  have start := shown_opened clean platform store medium recognition
  have done : Loading [] (loaded platform document store medium recognition) :=
    restoreSettings_induction { start with off := rfl, recorded := mem_keys_of_flag }
      fun _ h hs => loading_restored h hs
  refine { done.toShown with recorded := ?_ }
  rw [done.off]
  cases h : (loaded platform document store medium recognition).flag .focusMode with
  | true => simpa using done.recorded h
  | false => rfl

/-- On a page that comes without an overlay, focus mode is on or off in every respect at once,
whatever happens after the page is loaded: a session is held just as long as exactly one overlay is
shown, as the timer has a state and one ticker, and as the switch is recorded as on. -/
theorem focusMode_agrees (platform : Platform) (document : Document) (store : Store)
    (medium : Medium) (recognition : Speech.Recognition) (hs : List Happening)
    (clean : document.body.bearers Focus.overlayId = 0) :
    let s := (loaded platform document store medium recognition).run hs
    s.document.body.bearers Focus.overlayId = (if s.focus.isSome then 1 else 0) ∧
      s.pomodoro.isSome = s.focus.isSome ∧
      s.tickers = (if s.focus.isSome then 1 else 0) ∧
      s.flag .focusMode = s.focus.isSome := by
  intro s
  have agreed : Agreed s :=
    stable_agreed.run hs (agreed_loaded clean platform store medium recognition)
  refine ⟨?_, agreed.timer, agreed.ticker, agreed.recorded⟩
  have least := countP_children_le s.document.body Focus.overlayId
  have most := agreed.outermost
  rw [bearers_eq, agreed.body, ← agreed.overlay]
  simp only [Bool.false_eq_true, if_false]
  omega

/-- The switch is set on a page with an article: the overlay, the timer and the record are there. -/
theorem focusMode_agrees_on_article :
    let document : Document :=
      { body := (Element.new "body").withChild ((Element.new "article").withText "Text") }
    let s := (loaded ⟨.unconfigured, fun _ => .error .missingKey, none⟩ document {} none {}).run
      [.message (.toggleFeature "lumen-focus-mode" true), .step 0]
    document.body.bearers Focus.overlayId = 0 ∧ s.focus.isSome ∧
      s.document.body.bearers Focus.overlayId = (if s.focus.isSome then 1 else 0) ∧
      s.pomodoro.isSome = s.focus.isSome ∧
      s.tickers = (if s.focus.isSome then 1 else 0) ∧
      s.flag .focusMode = s.focus.isSome := by
  intro document s
  have clean : document.body.bearers Focus.overlayId = 0 := by decide
  have on : s.focus.isSome := by decide +kernel
  exact ⟨clean, on, focusMode_agrees _ document {} none {} _ clean⟩

end PageAid.Session
