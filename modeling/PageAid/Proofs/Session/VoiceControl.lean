import PageAid.Proofs.Session.Episode
import PageAid.Proofs.Session.Reload
import PageAid.Proofs.Speech.Recognizers

/-!
Voice control is two things at once: the record of its switch and the recognizer that is held. They
agree in every state that a page with speech recognition goes through, and the requests to the
platform account for every recognizer (`voiceControl_agrees`).
-/

namespace PageAid.Session

open Speech

/-- What voice control goes by: the record of its switch, what it holds, and the recognition of the
platform. -/
structure Hearing where
  recorded : Bool
  voice : Control
  recognition : Recognition

def hearing (s : Session) : Hearing := ⟨s.flag .voiceControl, s.voice, s.recognition⟩

/-- The switch is recorded as on while a recognizer is held, and the requests account for that
recognizer. -/
structure Hearing.InOrder (h : Hearing) : Prop where
  supported : h.recognition.supported = true
  recorded : h.recorded = h.voice.listening
  accounted : h.recognition.Accounted h.voice.held

/-! ### Voice control on, off and restarted -/

theorem supported_start (r : Recognition) (n : Nat) : (r.start n).supported = r.supported := by
  rw [Recognition.start]
  split <;> rfl

theorem inOrder_start {r : Recognition} {n : Nat} {b : Bool}
    (h : Hearing.InOrder ⟨b, ⟨some n⟩, r⟩) : Hearing.InOrder ⟨true, ⟨some n⟩, r.start n⟩ where
  supported := (supported_start r n).trans h.supported
  recorded := rfl
  accounted := h.accounted.start

theorem inOrder_stop {r : Recognition} {n : Nat} {b : Bool}
    (h : Hearing.InOrder ⟨b, ⟨some n⟩, r⟩) : Hearing.InOrder ⟨false, ⟨none⟩, r.stop n⟩ where
  supported := h.supported
  recorded := rfl
  accounted := h.accounted.stop

theorem inOrder_enable {h : Hearing} (hs : h.InOrder) :
    ∃ voice recognition, h.voice.enable? h.recognition = some (voice, recognition) ∧
      Hearing.InOrder ⟨true, voice, recognition⟩ := by
  obtain ⟨b, ⟨held⟩, r⟩ := h
  cases held with
  | some n => exact ⟨⟨some n⟩, r.start n, rfl, inOrder_start hs⟩
  | none =>
      have made : r.create? {} =
          some (r.created + 1, r.asked (.created (r.created + 1) {})) := by
        rw [Recognition.create?, if_pos hs.supported]
        rfl
      obtain ⟨accounted, supported⟩ := Recognition.Accounted.create hs.accounted made
      have created : Hearing.InOrder ⟨true, ⟨some (r.created + 1)⟩,
          r.asked (.created (r.created + 1) {})⟩ :=
        ⟨supported.trans hs.supported, rfl, accounted⟩
      refine ⟨_, _, ?_, inOrder_start created⟩
      rw [Control.enable?]
      dsimp only
      rw [made]
      rfl

theorem inOrder_disable {h : Hearing} (hs : h.InOrder) :
    Hearing.InOrder ⟨false, (h.voice.disable h.recognition).1,
      (h.voice.disable h.recognition).2⟩ := by
  obtain ⟨b, ⟨held⟩, r⟩ := h
  cases held with
  | some n => exact inOrder_stop hs
  | none => exact ⟨hs.supported, rfl, hs.accounted⟩

/-! ### What leaves voice control alone -/

theorem hearing_of_aside {s s' : Session} (h : Aside s s') : s'.hearing = s.hearing := by
  have voice : s'.still.voice = s.still.voice := by rw [h.still]
  have recognition : s'.still.recognition = s.still.recognition := by rw [h.still]
  rw [hearing, h.flag]
  exact congrArg₂ (Hearing.mk _) voice recognition

theorem hearing_storeValue (s : Session) {key : String} (v : Json)
    (h : key ≠ Toggle.voiceControl.key) : (s.storeValue .device key v).hearing = s.hearing := by
  show Hearing.mk ((s.storeValue .device key v).flag .voiceControl) s.voice s.recognition = _
  rw [flag_storeValue, if_neg h]
  rfl

theorem hearing_persist (s : Session) {t : Toggle} (ht : t.Readable) (h : t ≠ .voiceControl)
    (on : Bool) : (s.persist t on).hearing = s.hearing :=
  hearing_storeValue s _ fun same => h ((ht.key_eq_iff Toggle.readable_voiceControl).1 same)

theorem hearing_disableFocus (s : Session) : s.disableFocus.hearing = s.hearing := by
  rw [disableFocus, hearing_persist _ Toggle.readable_focusMode (by simp)]
  rfl

theorem hearing_enableFocus (s : Session) : s.enableFocus.2.hearing = s.hearing := by
  obtain ⟨-, -, same⟩ | ⟨-, -, told⟩ | ⟨article, -, -, -, shown⟩ := enableFocus_cases s
  · rw [same]
  · rw [told, hearing_persist _ Toggle.readable_focusMode (by simp)]
    rfl
  · rw [shown]
    rfl

theorem hearing_applyToggle (s : Session) {t : Toggle} (h : t ≠ .voiceControl) (on : Bool) :
    (s.applyToggle t on).2.hearing = s.hearing := by
  unfold applyToggle
  split
  · rfl
  · rfl
  · rfl
  · cases on
    · exact hearing_disableFocus s
    · exact hearing_enableFocus s
  · rename_i target
    cases t <;> simp_all [Toggle.target]

theorem hearing_clearPeers (s : Session) (t : Toggle) : (s.clearPeers t).hearing = s.hearing := by
  refine clearPeers_induction (P := fun s' => s'.hearing = s.hearing) t rfl ?_
  intro s' u hu same
  have other : u ≠ .voiceControl := ne_of_mem_of_not_mem hu (by decide)
  rw [hearing_applyToggle _ other,
    hearing_persist _ (Toggle.readable_of_mem_colorFilters hu) other, same]

theorem hearing_setToggle (s : Session) {t : Toggle} (ht : t.Readable) (h : t ≠ .voiceControl)
    (on : Bool) : (s.setToggle t on).hearing = s.hearing := by
  rw [hearing_of_aside (quiet_setToggle s t on).toAside, hearing_applyToggle _ h,
    hearing_persist _ ht h]
  cases on
  · rfl
  · exact hearing_clearPeers s t

theorem hearing_tick (s : Session) (i due : Nat) :
    ({ s with agenda := s.agenda.eraseIdx i }.tick due).hearing = s.hearing := by
  rw [tick]
  split
  · rfl
  · dsimp only
    split <;> rfl

theorem hearing_execute (s : Session) {c : Command} (h : c ≠ .disableVoice) :
    (s.execute c).hearing = s.hearing := by
  cases c with
  | enterFocusMode =>
      rw [execute_enterFocusMode]
      split
      · exact hearing_enableFocus s
      · rw [hearing_persist _ Toggle.readable_focusMode (by simp), hearing_enableFocus]
  | exitFocusMode => exact hearing_disableFocus s
  | disableVoice => exact absurd rfl h
  | _ => rfl

/-! ### Runs -/

variable {s : Session}

theorem flag_persist_voiceControl (s : Session) (on : Bool) :
    (s.persist .voiceControl on).flag .voiceControl = on := by
  rw [flag_persist Toggle.readable_voiceControl Toggle.readable_voiceControl, if_pos rfl]

theorem hearing_persist_voiceControl (s : Session) (on : Bool) :
    (s.persist .voiceControl on).hearing = ⟨on, s.voice, s.recognition⟩ := by
  show Hearing.mk ((s.persist .voiceControl on).flag .voiceControl) s.voice s.recognition = _
  rw [flag_persist_voiceControl]

theorem inOrder_setToggle (hs : s.hearing.InOrder) (on : Bool) :
    (s.setToggle .voiceControl on).hearing.InOrder := by
  have recorded := hearing_persist_voiceControl s on
  rw [hearing_of_aside (quiet_setToggle s .voiceControl on).toAside,
    clearPeers_of_notMem s (by decide), ite_self]
  cases on with
  | false =>
      show Hearing.InOrder ⟨(s.persist .voiceControl false).flag .voiceControl, _, _⟩
      rw [flag_persist_voiceControl]
      exact inOrder_disable hs
  | true =>
      obtain ⟨voice, recognition, enabled, done⟩ := inOrder_enable hs
      have enabled : (s.persist .voiceControl true).voice.enable?
          (s.persist .voiceControl true).recognition = some (voice, recognition) := enabled
      show (s.persist .voiceControl true).enableVoice.2.hearing.InOrder
      rw [enableVoice, enabled]
      show Hearing.InOrder ⟨(s.persist .voiceControl true).flag .voiceControl, _, _⟩
      rw [flag_persist_voiceControl]
      exact done

/-- Nothing is done about an event of a recognizer that is not held any more. -/
theorem voiceEvent_of_unheld (h : s.voice.held = none) (e : Event) :
    s.voiceEvent e = (.ignored, s) := by
  have unheld : s.voice = ⟨none⟩ := by rw [← h]
  rw [voiceEvent, unheld, Control.handle_of_unheld]
  show (Outcome.ignored, { s with voice := ⟨none⟩ }) = _
  rw [← unheld]

theorem voiceEvent_ended_of_held (hs : s.hearing.InOrder) {n : Nat} (h : s.voice.held = some n) :
    s.voiceEvent .ended = (.restarted, { s with recognition := s.recognition.start n }) := by
  have held : s.voice = ⟨some n⟩ := by rw [← h]
  have recorded : s.flag .voiceControl = true := by
    have := hs.recorded
    rwa [hearing, held] at this
  rw [voiceEvent, recorded, held]
  show (Outcome.restarted, { s with voice := ⟨some n⟩, recognition := s.recognition.start n }) = _
  rw [← held]

theorem inOrder_voiceEvent (hs : s.hearing.InOrder) (e : Event) :
    (s.voiceEvent e).2.hearing.InOrder ∧ (s.voiceEvent e).1 ≠ .ended := by
  cases h : s.voice.held with
  | none =>
      rw [voiceEvent_of_unheld h]
      exact ⟨hs, by simp⟩
  | some n =>
      have held : s.voice = ⟨some n⟩ := by rw [← h]
      have here : Hearing.InOrder ⟨s.flag .voiceControl, ⟨some n⟩, s.recognition⟩ := by
        rwa [hearing, held] at hs
      have heard := Control.heard_handle n s.recognition e (s.flag .voiceControl)
      rw [voiceEvent, held]
      generalize Control.handle ⟨some n⟩ s.recognition e (s.flag .voiceControl) = r at heard
      cases heard with
      | command results c =>
          refine ⟨?_, by simp⟩
          show (({ s with voice := ⟨some n⟩ } : Session).execute c).hearing.InOrder
          by_cases hc : c = .disableVoice
          · subst hc
            show Hearing.InOrder ⟨(s.persist .voiceControl false).flag .voiceControl, ⟨none⟩,
              s.recognition.stop n⟩
            rw [flag_persist_voiceControl]
            exact inOrder_stop here
          · rw [hearing_execute _ hc]
            exact here
      | unmatched results transcript => exact ⟨here, by simp⟩
      | ignored e => exact ⟨here, by simp⟩
      | denied kind =>
          refine ⟨?_, by simp⟩
          show Hearing.InOrder ⟨(s.persist .voiceControl false).flag .voiceControl, ⟨none⟩,
            s.recognition.stop n⟩
          rw [flag_persist_voiceControl]
          exact inOrder_stop here
      | restarted recorded =>
          refine ⟨?_, by simp⟩
          show Hearing.InOrder ⟨s.flag .voiceControl, ⟨some n⟩, s.recognition.start n⟩
          rw [recorded]
          exact inOrder_start here
      | ended recorded =>
          -- the switch is recorded as on while a recognizer is held
          have on : s.flag .voiceControl = true := here.recorded
          simp [recorded] at on

theorem inOrder_happen (hs : s.hearing.InOrder) (x : Happening) :
    (s.happen x).hearing.InOrder := by
  have change := change_happen s x
  generalize s.happen x = s' at change
  cases change with
  | stayed => exact hs
  | waited n => exact hs
  | asked m task _ => exact hs
  | toggled key t on ht =>
      by_cases h : t = .voiceControl
      · exact h ▸ inOrder_setToggle hs on
      · rw [hearing_setToggle s (Toggle.readable_of_ofKey? ht) h]
        exact hs
  | resized c =>
      have same := hearing_storeValue (s.showFontScale (nextFontScale s.store.settings.fontScale c))
        (.ofFloat (nextFontScale s.store.settings.fontScale c))
        Toggle.readable_voiceControl.key_ne_fontScaleKey.symm
      exact same ▸ hs
  | linked =>
      rw [(addSkipLink_eq s).1]
      exact hs
  | pointed y => exact hs
  | heard e => exact (inOrder_voiceEvent hs e).1
  | left =>
      rw [hearing_disableFocus]
      exact hs
  | spoke success =>
      rw [hearing_of_aside (quiet_speechFinished s success).toAside]
      exact hs
  | ticked i due _ =>
      rw [hearing_tick]
      exact hs
  | performed i e he ht =>
      rw [hearing_of_aside (aside_performed he ht)]
      exact hs

theorem inOrder_occur (hs : s.hearing.InOrder) (x : Occurrence) :
    (s.occur x).hearing.InOrder := by
  cases x with
  | page x => exact inOrder_happen hs x
  | platform running broken =>
      exact ⟨hs.supported, hs.recorded, hs.accounted.of_history rfl⟩

theorem inOrder_occurrences (hs : s.hearing.InOrder) (xs : List Occurrence) :
    (xs.foldl occur s).hearing.InOrder := by
  induction xs generalizing s with
  | nil => exact hs
  | cons x r ih => exact ih (inOrder_occur hs x)

theorem inOrder_loaded (platform : Platform) (document : Document) (store : Store)
    (medium : Medium) {recognition : Recognition} (supported : recognition.supported = true)
    (unused : recognition.history = []) :
    (loaded platform document store medium recognition).hearing.InOrder := by
  obtain ⟨-, voice, same⟩ := modes_loaded platform document store medium recognition
  have off := flag_loaded_of_isSessionScoped platform document store medium recognition
    (t := .voiceControl) rfl
  rw [hearing, voice, same, off]
  exact ⟨supported, rfl, Recognition.accounted_of_history_eq_nil unused⟩

/-- On a platform with speech recognition, whatever happens after a page is loaded: the switch of
voice control is recorded as on just as long as a recognizer is held. Of the recognizers that were
created at most one has not been stopped, namely the one that is held; every other one was stopped
once, and none is started after that. When the recognizer ends, the one that is held is started
again, and without one the event is ignored, so that no event leaves a recognizer ended. -/
theorem voiceControl_agrees (platform : Platform) (document : Document) (store : Store)
    (medium : Medium) (recognition : Recognition) (xs : List Occurrence)
    (supported : recognition.supported = true) (unused : recognition.history = []) :
    let s := xs.foldl occur (loaded platform document store medium recognition)
    s.flag .voiceControl = s.voice.held.isSome ∧
      (∀ m n, s.recognition.Created m → s.recognition.Created n →
        s.recognition.stopsOf m = 0 → s.recognition.stopsOf n = 0 → m = n) ∧
      (∀ n, s.voice.held = some n → s.recognition.Created n) ∧
      (∀ n, s.recognition.Created n →
        s.recognition.stopsOf n = if s.voice.held = some n then 0 else 1) ∧
      (∀ n, ¬ s.recognition.StartedAgain n) ∧
      s.voiceEvent .ended = (match s.voice.held with
        | none => (.ignored, s)
        | some n => (.restarted, { s with recognition := s.recognition.start n })) ∧
      ∀ e, (s.voiceEvent e).1 ≠ .ended := by
  intro s
  have ordered : s.hearing.InOrder :=
    inOrder_occurrences (inOrder_loaded platform document store medium supported unused) xs
  have accounted : s.recognition.Accounted s.voice.held := ordered.accounted
  have unstopped : ∀ n, s.recognition.Created n → s.recognition.stopsOf n = 0 →
      s.voice.held = some n := by
    intro n created never
    have stops := accounted.stopped n created
    by_contra other
    rw [if_neg other] at stops
    exact absurd (never.symm.trans stops) (by decide)
  refine ⟨ordered.recorded, fun m n hm hn freeM freeN => ?_, accounted.created, accounted.stopped,
    accounted.finished, ?_, fun e => (inOrder_voiceEvent ordered e).2⟩
  · have one := (unstopped m hm freeM).symm.trans (unstopped n hn freeN)
    exact Option.some.inj one
  · split
    · rename_i none
      exact voiceEvent_of_unheld none .ended
    · rename_i n held
      exact voiceEvent_ended_of_held ordered held

/-- Voice control is switched on, off and on again, and an end comes after the first recognizer has
been let go of. -/
theorem voiceControl_agrees_of_lateEnd :
    let s := [.page (.message (.toggleFeature "lumen-voice-control" true)),
      .page (.message (.toggleFeature "lumen-voice-control" false)),
      .platform false false, .page (.event (.voice .ended)),
      .page (.message (.toggleFeature "lumen-voice-control" true))].foldl occur
        (loaded ⟨.unconfigured, fun _ => .error .missingKey, none⟩ {} {} none {})
    ({} : Recognition).supported = true ∧ ({} : Recognition).history = [] ∧
      s.recognition.Created 1 ∧ s.recognition.Created 2 ∧ s.voice.held = some 2 ∧
      s.flag .voiceControl = s.voice.held.isSome ∧ s.recognition.stopsOf 1 = 1 ∧
      (s.voiceEvent .ended).1 = .restarted := by
  intro s
  have held : s.voice.held = some 2 := by decide +kernel
  have first : s.recognition.Created 1 := ⟨{}, by decide +kernel⟩
  have second : s.recognition.Created 2 := ⟨{}, by decide +kernel⟩
  obtain ⟨recorded, -, -, stopped, -, ended, -⟩ := voiceControl_agrees
    ⟨.unconfigured, fun _ => .error .missingKey, none⟩ {} {} none {} _ rfl rfl
  have stops := stopped 1 first
  rw [held] at stops ended
  exact ⟨rfl, rfl, first, second, held, recorded, stops, congrArg Prod.fst ended⟩

end PageAid.Session
