import PageAid.Proofs.Session.Body
import PageAid.Proofs.Session.Change
import PageAid.Proofs.Session.Load

/-!
Whatever does not belong to a translation leaves translations alone: what it takes off or puts on
the agenda is no step of one, and nothing that was asked is forgotten (`calm_happen`). Nor does the
page ever come by another assistant (`platform_happen`).
-/

namespace PageAid.Session

/-- From `s` to `s'` no translation begins, ends or goes on. -/
structure Calm (s s' : Session) : Prop where
  translating : s'.translating = s.translating
  translations :
    (s'.agenda.filter (·.step.translates)).Sublist (s.agenda.filter (·.step.translates))
  asked : s.journal.queries <+: s'.journal.queries

namespace Calm

variable {s s' s'' : Session}

theorem refl (s : Session) : Calm s s := ⟨rfl, List.Sublist.refl _, List.prefix_rfl⟩

theorem trans (h : Calm s s') (h' : Calm s' s'') : Calm s s'' where
  translating := h'.translating.trans h.translating
  translations := h'.translations.trans h.translations
  asked := h.asked.trans h'.asked

theorem of_quiet (h : Quiet s s') : Calm s s' := ⟨h.translating, h.translations, h.asked⟩

theorem of_eq (translating : s'.translating = s.translating) (agenda : s'.agenda = s.agenda)
    (journal : s'.journal = s.journal) : Calm s s' := by
  refine ⟨translating, ?_, ?_⟩
  · exact agenda ▸ List.Sublist.refl _
  · exact journal ▸ List.prefix_rfl

end Calm

theorem calm_persist (s : Session) (t : Toggle) (on : Bool) : Calm s (s.persist t on) :=
  Calm.of_eq rfl rfl rfl

theorem calm_withoutTicks (s : Session) : Calm s s.withoutTicks :=
  ⟨rfl, List.filter_sublist.filter _, List.prefix_rfl⟩

theorem filter_translates_append_tick (l : List Entry) (due : Nat) :
    (l ++ [(⟨due, .tick⟩ : Entry)]).filter (·.step.translates) =
      l.filter (·.step.translates) := by
  rw [List.filter_append]
  exact List.append_nil _

theorem calm_startTimer (s : Session) (d : Pomodoro.Durations) : Calm s (s.startTimer d) := by
  have started : Calm s { s.withoutTicks with pomodoro := some (.start d) } :=
    (calm_withoutTicks s).trans (Calm.of_eq rfl rfl rfl)
  have arranged := filter_translates_append_tick s.withoutTicks.agenda s.clock
  exact started.trans ⟨rfl, arranged ▸ List.Sublist.refl _, List.prefix_rfl⟩

theorem calm_disableFocus (s : Session) : Calm s s.disableFocus := by
  have cancelled : ∀ s : Session, Calm s s.cancelTimer :=
    fun s => (calm_withoutTicks s).trans (Calm.of_eq rfl rfl rfl)
  rw [disableFocus]
  refine Calm.trans ?_ (calm_persist _ .focusMode false)
  refine Calm.trans ?_ (cancelled _)
  exact Calm.of_eq rfl rfl rfl

theorem calm_enableFocus (s : Session) : Calm s s.enableFocus.2 := by
  obtain ⟨-, -, same⟩ | ⟨-, -, told⟩ | ⟨article, -, -, -, shown⟩ := enableFocus_cases s
  · rw [same]
    exact Calm.refl s
  · rw [told]
    exact (Calm.of_quiet (quiet_notify s _ _)).trans (calm_persist _ _ _)
  · rw [shown]
    refine Calm.trans ?_ (calm_startTimer _ _)
    exact Calm.of_eq rfl rfl rfl

theorem calm_applyToggle (s : Session) (t : Toggle) (on : Bool) :
    Calm s (s.applyToggle t on).2 := by
  unfold applyToggle
  split
  · exact Calm.of_eq rfl rfl rfl
  · exact Calm.of_eq rfl rfl rfl
  · exact Calm.of_eq rfl rfl rfl
  · cases on
    · exact calm_disableFocus s
    · exact calm_enableFocus s
  · cases on
    · exact Calm.of_eq rfl rfl rfl
    · simp only [if_true, enableVoice]
      split
      · exact Calm.of_eq rfl rfl rfl
      · exact Calm.refl s

theorem calm_setToggle (s : Session) (t : Toggle) (on : Bool) : Calm s (s.setToggle t on) := by
  refine Calm.trans ?_ (Calm.of_quiet (quiet_setToggle s t on))
  refine Calm.trans ?_ (calm_applyToggle _ t on)
  refine Calm.trans ?_ (calm_persist _ t on)
  cases on with
  | false => exact Calm.refl s
  | true =>
      refine clearPeers_induction t (Calm.refl s) fun s' u _ hs => ?_
      exact (hs.trans (calm_persist s' u false)).trans (calm_applyToggle _ u false)

theorem calm_tick (s : Session) (i due : Nat) :
    Calm s ({ s with agenda := s.agenda.eraseIdx i }.tick due) := by
  have erased : Calm s { s with agenda := s.agenda.eraseIdx i } :=
    ⟨rfl, (List.eraseIdx_sublist s.agenda i).filter _, List.prefix_rfl⟩
  refine erased.trans ?_
  generalize ({ s with agenda := s.agenda.eraseIdx i } : Session) = s
  rw [tick]
  split
  · exact Calm.refl s
  · dsimp only
    refine ⟨?_, ?_, ?_⟩
    · split <;> rfl
    · rw [filter_translates_append_tick]
      split <;> exact List.Sublist.refl _
    · split <;> exact List.prefix_rfl

/-- Every kind of change but translations keeps what has been calm since `start`. -/
theorem steady_calm (start : Session) : Steady (Calm start) where
  quiet h hs := hs.trans (Calm.of_quiet h)
  pause _ hs := hs.trans (Calm.of_eq rfl rfl rfl)
  setToggle {s t} on _ hs := hs.trans (calm_setToggle s t on)
  changeFontSize {s} c hs := hs.trans (Calm.of_eq rfl rfl rfl)
  addSkipLink {s} hs := by
    have linked : Calm s s.addSkipLink := by
      rw [(addSkipLink_eq s).1]
      exact Calm.of_eq rfl rfl rfl
    exact hs.trans linked
  pointerMoved {s} y hs := hs.trans (Calm.of_eq rfl rfl rfl)
  scrollTo {s} y hs := ⟨hs.translating, hs.translations, hs.asked⟩
  hear _ _ hs := { hs with }
  forgetVoice {s} hs := hs.trans (calm_persist s _ _)
  enterFocus {s} hs := by
    have entered := hs.trans (calm_enableFocus s)
    rw [execute_enterFocusMode]
    split
    · exact entered
    · exact entered.trans (calm_persist _ _ _)
  disableFocus {s} hs := hs.trans (calm_disableFocus s)
  tick {s i due} _ hs := hs.trans (calm_tick s i due)

theorem calm_happen {s : Session} {x : Happening} (h : x.translates s = false) :
    Calm s (s.happen x) := (steady_calm s).happen h (Calm.refl s)

theorem calm_restoreSettings (s : Session) : Calm s s.restoreSettings :=
  restoreSettings_of_kept (Calm.refl s) (fun _ _ hs => hs.trans (Calm.of_eq rfl rfl rfl))
    (fun s' t hs => hs.trans (calm_persist s' t false))
    fun s' t on hs => hs.trans (calm_applyToggle s' t on)

/-! ### The services -/

theorem platform_enableFocus (s : Session) : s.enableFocus.2.platform = s.platform := by
  obtain ⟨-, -, same⟩ | ⟨-, -, told⟩ | ⟨article, -, -, -, shown⟩ := enableFocus_cases s
  · rw [same]
  · rw [told]
    rfl
  · rw [shown]
    rfl

theorem platform_applyToggle (s : Session) (t : Toggle) (on : Bool) :
    (s.applyToggle t on).2.platform = s.platform := by
  unfold applyToggle
  split
  · rfl
  · rfl
  · rfl
  · cases on
    · rfl
    · exact platform_enableFocus s
  · cases on
    · rfl
    · simp only [if_true, enableVoice]
      split <;> rfl

theorem steady_platform (p : Platform) : Steady fun s => s.platform = p where
  quiet h hs := h.platform.trans hs
  pause _ hs := hs
  setToggle {s t} on _ hs := by
    rw [(quiet_setToggle s t on).platform, platform_applyToggle]
    cases on with
    | false => exact hs
    | true =>
        refine clearPeers_induction (P := fun s' => s'.platform = p) t hs fun s' u _ hs => ?_
        rw [platform_applyToggle]
        exact hs
  changeFontSize _ hs := hs
  addSkipLink {s} hs := by
    rw [(addSkipLink_eq s).1]
    exact hs
  pointerMoved _ hs := hs
  scrollTo _ hs := hs
  hear _ _ hs := hs
  forgetVoice hs := hs
  enterFocus {s} hs := by
    rw [execute_enterFocusMode]
    split
    · exact (platform_enableFocus s).trans hs
    · exact (platform_enableFocus s).trans hs
  disableFocus hs := hs
  tick {s i due} _ hs := by
    rw [tick]
    split
    · exact hs
    · dsimp only
      split <;> exact hs

theorem platform_happen {s : Session} {x : Happening} (h : x.translates s = false) :
    (s.happen x).platform = s.platform := (steady_platform s.platform).happen h rfl

theorem platform_restoreSettings (s : Session) : s.restoreSettings.platform = s.platform :=
  restoreSettings_of_kept (P := fun s' => s'.platform = s.platform) rfl (fun _ _ hs => hs)
    (fun _ _ hs => hs) fun s' t on hs => (platform_applyToggle s' t on).trans hs

end PageAid.Session
