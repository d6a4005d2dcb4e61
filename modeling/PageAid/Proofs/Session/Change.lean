import PageAid.Proofs.Session.Aside
import PageAid.Proofs.Session.Record

/-!
What may happen to a page, said once: every message, event and step of the agenda makes one of the
changes that `Change` lists. A property that each kind of change keeps is `Stable`, and holds at
the end of every run that it holds at the beginning of (`Stable.run`). One that translations may
break is still `Steady`.
-/

namespace PageAid.Session

/-- The page after a happening, by what the happening does. -/
inductive Change (s : Session) : Happening → Session → Prop where
  | stayed (h : Happening) : Change s h s
  | waited (n : Nat) : Change s (.pause n) { s with clock := s.clock + n }
  | asked (m : Message) (task : Task) (h : task? m = some task) :
      Change s (.message m) (s.arrange 0 (.begin task))
  | toggled (key : String) (t : Toggle) (on : Bool) (h : Toggle.ofKey? key = some t) :
      Change s (.message (.toggleFeature key on)) (s.setToggle t on)
  | resized (c : FontChange) : Change s (.message (.adjustFontSize c)) (s.changeFontSize c).2
  | linked : Change s (.message .addSkipLink) s.addSkipLink
  | pointed (y : Float) : Change s (.event (.pointerMove y)) (s.pointerMoved y)
  | heard (e : Speech.Event) : Change s (.event (.voice e)) (s.voiceEvent e).2
  | left : Change s (.event .focusExitClicked) s.disableFocus
  | spoke (success : Bool) :
      Change s (.event (.speechFinished success)) (s.speechFinished success)
  | ticked (i due : Nat) (h : s.agenda[i]? = some ⟨due, .tick⟩) :
      Change s (.step i) ({ s with agenda := s.agenda.eraseIdx i }.tick due)
  | performed (i : Nat) (e : Entry) (h : s.agenda[i]? = some e) (ht : e.step.isTick = false) :
      Change s (.step i) ({ s with agenda := s.agenda.eraseIdx i }.perform e)

theorem change_happen (s : Session) (h : Happening) : Change s h (s.happen h) := by
  cases h with
  | message m =>
      rw [happen]
      unfold receive
      split
      · rename_i task hm
        exact .asked m task hm
      · split
        · rename_i key on _
          split
          · rename_i t ht
            exact .toggled key t on ht
          · exact .stayed _
        · exact .resized _
        · exact .linked
        · exact .stayed _
  | event e =>
      cases e with
      | pointerMove y => exact .pointed y
      | voice e => exact .heard e
      | focusExitClicked => exact .left
      | speechFinished success => exact .spoke success
  | pause n => exact .waited n
  | step i =>
      rw [happen]
      obtain ⟨-, same⟩ | ⟨due, he, ticked⟩ | ⟨e, he, ht, performed⟩ := performAt_cases s i
      · rw [same]
        exact .stayed _
      · rw [ticked]
        exact .ticked i due he
      · rw [performed]
        exact .performed i e he ht

/-! ### The clock -/

theorem run_append (s : Session) (a b : List Happening) : s.run (a ++ b) = (s.run a).run b :=
  List.foldl_append

theorem exists_of_next? {s s' : Session} {limit : Nat} (h : s.next? limit = some s') :
    ∃ due i, due ≤ limit ∧ s' = { s with clock := max s.clock due }.performAt i := by
  simp only [next?, Option.bind_eq_bind, Option.bind_eq_some_iff] at h
  obtain ⟨due, -, h⟩ := h
  split at h
  · rename_i within
    obtain ⟨i, -, h⟩ := Option.bind_eq_some_iff.1 h
    exact ⟨due, i, within, (Option.some.inj h).symm⟩
  · simp at h

theorem exists_run_next? {s s' : Session} {limit : Nat} (h : s.next? limit = some s') :
    ∃ hs, s' = s.run hs := by
  obtain ⟨due, i, -, rfl⟩ := exists_of_next? h
  refine ⟨[.pause (max s.clock due - s.clock), .step i], ?_⟩
  have waited : s.clock + (max s.clock due - s.clock) = max s.clock due := by omega
  simp only [run, List.foldl_cons, List.foldl_nil, happen, waited]

theorem exists_run_runTo (limit n : Nat) (s : Session) : ∃ hs, runTo limit n s = s.run hs := by
  induction n generalizing s with
  | zero => exact ⟨[], rfl⟩
  | succ n ih =>
      rw [runTo]
      split
      · rename_i s' h
        obtain ⟨a, rfl⟩ := exists_run_next? h
        obtain ⟨b, hb⟩ := ih (s.run a)
        exact ⟨a ++ b, by rw [hb, run_append]⟩
      · exact ⟨[], rfl⟩

theorem clock_tick (s : Session) (due : Nat) : (s.tick due).clock = s.clock := by
  rw [tick]
  split
  · rfl
  · dsimp only
    split <;> rfl

theorem clock_performAt (s : Session) (i : Nat) : (s.performAt i).clock = s.clock := by
  obtain ⟨-, same⟩ | ⟨due, -, ticked⟩ | ⟨e, he, ht, performed⟩ := performAt_cases s i
  · rw [same]
  · rw [ticked, clock_tick]
  · rw [performed, (aside_performed he ht).clock]

theorem clock_runTo_le {limit : Nat} (n : Nat) {s : Session} (h : s.clock ≤ limit) :
    (runTo limit n s).clock ≤ limit := by
  induction n generalizing s with
  | zero => exact h
  | succ n ih =>
      rw [runTo]
      split
      · rename_i s' hs'
        obtain ⟨due, i, within, rfl⟩ := exists_of_next? hs'
        refine ih ?_
        rw [clock_performAt]
        exact Nat.max_le.2 ⟨h, within⟩
      · exact h

/-- The passing of time, with all that falls due in it, is a run. -/
theorem exists_run_advance (s : Session) (milliseconds : Nat) :
    ∃ hs, s.advance milliseconds = s.run hs := by
  have within := clock_runTo_le (s.load (s.clock + milliseconds))
    (Nat.le_add_right s.clock milliseconds)
  obtain ⟨a, ha⟩ := exists_run_runTo (s.clock + milliseconds)
    (s.load (s.clock + milliseconds)) s
  rw [ha] at within
  -- what is left of the time is waited for at the end
  refine ⟨a ++ [.pause (s.clock + milliseconds - (s.run a).clock)], ?_⟩
  have waited : (s.run a).clock + (s.clock + milliseconds - (s.run a).clock) =
      s.clock + milliseconds := by omega
  rw [advance, run_append, ha]
  simp only [run, List.foldl_cons, List.foldl_nil, happen]
  rw [← run, waited]

theorem exists_run_drain (s : Session) : ∃ hs, s.drain = s.run hs := by
  have drained : ∀ (n : Nat) (s : Session), ∃ hs, drainWithin n s = s.run hs := by
    intro n
    induction n with
    | zero => exact fun s => ⟨[], rfl⟩
    | succ n ih =>
        intro s
        rw [drainWithin]
        split
        · rename_i due _
          obtain ⟨a, ha⟩ := exists_run_advance s (due - s.clock)
          obtain ⟨b, hb⟩ := ih (s.run a)
          exact ⟨a ++ b, by rw [ha, hb, run_append]⟩
        · exact ⟨[], rfl⟩
  obtain ⟨a, ha⟩ := exists_run_runTo s.clock (s.load s.clock) s
  obtain ⟨b, hb⟩ := drained (s.settle.load s.settle.clock) s.settle
  refine ⟨a ++ b, ?_⟩
  rw [drain, hb, settle, ha, run_append]

/-! ### Spoken commands -/

theorem handle_command {c : Speech.Control} {r : Speech.Recognition} {e : Speech.Event}
    {keep : Bool} {command : Speech.Command}
    (h : (c.handle r e keep).1 = .command command) :
    (c.handle r e keep).2 = (c, r) := by
  unfold Speech.Control.handle at h ⊢
  split <;> simp_all
  · split <;> simp_all
    split <;> simp_all
  · split at h <;> simp_all
  · split at h <;> simp_all

/-- An event of the recognizer brings a command, or changes the recognizer; where the microphone is
refused, this is recorded and told. -/
theorem voiceEvent_cases (s : Session) (e : Speech.Event) :
    (∃ c, (s.voiceEvent e).1 = .command c ∧ (s.voiceEvent e).2 = s.execute c) ∨
    (∀ c, (s.voiceEvent e).1 ≠ .command c) ∧
      ((∃ voice recognition,
        (s.voiceEvent e).2 = { s with voice := voice, recognition := recognition }) ∨
      ∃ voice recognition, (s.voiceEvent e).2 =
        (({ s with voice := voice, recognition := recognition } : Session).persist
          .voiceControl false).notify .error Failure.permissionDenied.message) := by
  unfold voiceEvent
  generalize hh : s.voice.handle s.recognition e (s.flag .voiceControl) = r
  obtain ⟨outcome, voice, recognition⟩ := r
  dsimp only
  split
  · rename_i c
    -- the voice control and the recognizer are put back as they were
    have commanded : (s.voice.handle s.recognition e (s.flag .voiceControl)).1 = .command c := by
      rw [hh]
    have same := handle_command commanded
    rw [hh] at same
    obtain ⟨rfl, rfl⟩ := Prod.mk.inj same
    exact .inl ⟨c, rfl, rfl⟩
  · exact .inr ⟨by simp, .inr ⟨voice, recognition, rfl⟩⟩
  · rename_i other _
    exact .inr ⟨other, .inl ⟨voice, recognition, rfl⟩⟩

/-! ### Properties that every change keeps -/

def Happening.translates (s : Session) : Happening → Bool
  | .message m => (task? m).any fun task => (Step.begin task).translates
  | .step i => s.agenda[i]?.any (·.step.translates)
  | _ => false

theorem Happening.translates_step {s : Session} (h : s.agenda.filter (·.step.translates) = [])
    (i : Nat) : (Happening.step i).translates s = false := by
  rw [translates]
  cases he : s.agenda[i]? with
  | none => rfl
  | some e => simpa using List.filter_eq_nil_iff.1 h e (List.mem_of_getElem? he)

/-- The property is kept by each kind of change, translations apart. A switch is set for the user
only if some key is read as it. -/
structure Steady (P : Session → Prop) : Prop where
  quiet {s s' : Session} : Quiet s s' → P s → P s'
  pause {s : Session} (now : Nat) : P s → P { s with clock := now }
  setToggle {s : Session} {t : Toggle} (on : Bool) : t.Readable → P s → P (s.setToggle t on)
  changeFontSize {s : Session} (c : FontChange) : P s → P (s.changeFontSize c).2
  addSkipLink {s : Session} : P s → P s.addSkipLink
  pointerMoved {s : Session} (y : Float) : P s → P (s.pointerMoved y)
  scrollTo {s : Session} (y : Float) :
    P s → P { s with document := s.document.scrollTo y }
  hear {s : Session} (voice : Speech.Control) (recognition : Speech.Recognition) :
    P s → P { s with voice := voice, recognition := recognition }
  forgetVoice {s : Session} : P s → P (s.persist .voiceControl false)
  enterFocus {s : Session} : P s → P (s.execute .enterFocusMode)
  disableFocus {s : Session} : P s → P s.disableFocus
  tick {s : Session} {i due : Nat} : s.agenda[i]? = some ⟨due, .tick⟩ → P s →
    P ({ s with agenda := s.agenda.eraseIdx i }.tick due)

/-- The property is kept by each kind of change, translations among them. -/
structure Stable (P : Session → Prop) : Prop extends Steady P where
  aside {s s' : Session} : Aside s s' → P s → P s'
  quiet h := aside h.toAside

namespace Steady

variable {P : Session → Prop}

theorem execute (h : Steady P) {s : Session} (c : Speech.Command) (hs : P s) :
    P (s.execute c) := by
  cases c with
  | scrollDown =>
      rw [Session.execute, onPage, Document.scrollBy]
      exact h.scrollTo _ hs
  | scrollUp =>
      rw [Session.execute, onPage, Document.scrollBy]
      exact h.scrollTo _ hs
  | goToTop =>
      rw [Session.execute, onPage]
      exact h.scrollTo _ hs
  | goToBottom =>
      rw [Session.execute, onPage]
      exact h.scrollTo _ hs
  | enterFocusMode => exact h.enterFocus hs
  | exitFocusMode => exact h.disableFocus hs
  | disableVoice => exact h.hear _ _ (h.forgetVoice hs)

theorem voiceEvent (h : Steady P) {s : Session} (e : Speech.Event) (hs : P s) :
    P (s.voiceEvent e).2 := by
  obtain ⟨c, -, hc⟩ | ⟨-, ⟨voice, recognition, hv⟩ | ⟨voice, recognition, hv⟩⟩ :=
    voiceEvent_cases s e
  · rw [hc]
    exact h.execute c hs
  · rw [hv]
    exact h.hear voice recognition hs
  · rw [hv]
    exact h.quiet (quiet_notify _ _ _) (h.forgetVoice (h.hear voice recognition hs))

theorem happen (h : Steady P) {s : Session} {x : Happening} (calm : x.translates s = false)
    (hs : P s) : P (s.happen x) := by
  have change := change_happen s x
  generalize s.happen x = s' at change
  cases change with
  | stayed => exact hs
  | waited n => exact h.pause _ hs
  | asked m task hm =>
      rw [Happening.translates, hm] at calm
      exact h.quiet (quiet_arrange s 0 rfl calm) hs
  | toggled key t on ht => exact h.setToggle on (Toggle.readable_of_ofKey? ht) hs
  | resized c => exact h.changeFontSize c hs
  | linked => exact h.addSkipLink hs
  | pointed y => exact h.pointerMoved y hs
  | heard e => exact h.voiceEvent e hs
  | left => exact h.disableFocus hs
  | spoke success => exact h.quiet (quiet_speechFinished s success) hs
  | ticked i due hi => exact h.tick hi hs
  | performed i e he ht =>
      rw [Happening.translates, he] at calm
      exact h.quiet ((quiet_eraseIdx s he ht).trans (quiet_perform _ ht calm)) hs

end Steady

/-- A translation changes nothing but texts, and what actions tell, ask and arrange. -/
theorem aside_happen {s : Session} {x : Happening} (h : x.translates s) :
    Aside s (s.happen x) := by
  cases x with
  | message m =>
      obtain ⟨task, hm, -⟩ := (Option.any_eq_true _ _).1 h
      rw [happen]
      unfold receive
      simp only [hm]
      exact aside_arrange s 0 rfl
  | event e => simp [Happening.translates] at h
  | pause n => simp [Happening.translates] at h
  | step i =>
      obtain ⟨e, he, ht⟩ := (Option.any_eq_true _ _).1 h
      have other := Step.isTick_eq_false_of_translates ht
      rw [happen, performAt, he]
      exact aside_performed he other

namespace Stable

variable {P : Session → Prop}

theorem happen (h : Stable P) {s : Session} (x : Happening) (hs : P s) : P (s.happen x) := by
  cases translates : x.translates s with
  | true => exact h.aside (aside_happen translates) hs
  | false => exact h.toSteady.happen translates hs

theorem run (h : Stable P) (hs : List Happening) {s : Session} (hp : P s) : P (s.run hs) := by
  induction hs generalizing s with
  | nil => exact hp
  | cons x r ih => exact ih (h.happen x hp)

end Stable

/-- What is kept when a colour filter is recorded as off and applied is kept when the peers of a
switch are cleared. -/
theorem clearPeers_induction {P : Session → Prop} {s : Session} (t : Toggle) (start : P s)
    (clear : ∀ s, ∀ u ∈ Toggle.colorFilters, P s →
      P ((s.persist u false).applyToggle u false).2) : P (s.clearPeers t) := by
  have filters : ∀ u ∈ t.peers, u ∈ Toggle.colorFilters :=
    fun _ => Toggle.mem_colorFilters_of_mem_peers
  rw [clearPeers]
  generalize t.peers = peers at filters
  induction peers generalizing s with
  | nil => exact start
  | cons u r ih =>
      obtain ⟨hu, hr⟩ := List.forall_mem_cons.1 filters
      exact ih (clear s u hu start) hr

/-- A switch that is set for the user: what excludes it is cleared, it is recorded and applied;
what the platform does not support is told besides. -/
theorem quiet_setToggle (s : Session) (t : Toggle) (on : Bool) :
    Quiet (((if on then s.clearPeers t else s).persist t on).applyToggle t on).2
      (s.setToggle t on) := by
  unfold setToggle
  dsimp only
  generalize ((if on then s.clearPeers t else s).persist t on).applyToggle t on = r
  obtain ⟨failure, s'⟩ := r
  cases failure with
  | none => exact Quiet.refl s'
  | some e =>
      cases e with
      | unsupported message => exact quiet_notify s' _ _
      | _ => exact Quiet.refl s'

end PageAid.Session
