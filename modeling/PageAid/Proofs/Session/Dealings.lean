import PageAid.Proofs.Session.Activation
import PageAid.Proofs.Session.Change

/-!
What a page has to do with its services, apart from speech recognition: what it has asked of them,
the dialogue in which they answer, and the actions that are still to come. Whatever is no action
leaves all of this as it is (`dealings_happen`).
-/

namespace PageAid

def Notice.missingKey : Notice := ⟨.error, Failure.configuration.message⟩

namespace Guide

theorem told_detached (g : Guide) (d : Document) :
    (g.detached d).modal = d.modal ∧ (g.detached d).notices = d.notices := by
  rw [detached]
  split <;> exact ⟨rfl, rfl⟩

theorem told_setEnabled (g : Guide) (d : Document) (on : Bool) :
    (g.setEnabled d on).2.modal = d.modal ∧ (g.setEnabled d on).2.notices = d.notices := by
  obtain ⟨modal, notices⟩ := g.told_detached d
  cases on <;> cases h : active d <;>
    simp [setEnabled, h, Document.append, Document.addListener, Document.removeId, modal, notices]

theorem told_pointerMoved (g : Guide) (d : Document) (y : Float) :
    (g.pointerMoved d y).modal = d.modal ∧ (g.pointerMoved d y).notices = d.notices := by
  rw [pointerMoved]
  split
  · split <;> exact ⟨rfl, rfl⟩
  · exact ⟨rfl, rfl⟩

end Guide

namespace Session

/-- The services of a page, what has been asked of them, and what is under way. -/
structure Dealings where
  platform : Platform
  queries : List Query
  fetched : List String
  speech : Speech.Log
  readingAloud : Bool
  modal : Option Modal
  /-- Entries of the agenda other than ticks. -/
  pending : List Entry
  /-- How often the user was told that the key is missing. -/
  reminders : Nat

def dealings (s : Session) : Dealings where
  platform := s.platform
  queries := s.journal.queries
  fetched := s.journal.fetched
  speech := s.journal.speech
  readingAloud := s.readingAloud
  modal := s.document.modal
  pending := s.agenda.filter (!·.step.isTick)
  reminders := s.document.notices.count Notice.missingKey

theorem dealings_withDocument (s : Session) {d : Document}
    (same : d.modal = s.document.modal ∧ d.notices = s.document.notices) :
    ({ s with document := d } : Session).dealings = s.dealings := by
  simp [dealings, same]

theorem dealings_notify (s : Session) {level : NoticeLevel} {message : String}
    (other : (⟨level, message⟩ : Notice) ≠ Notice.missingKey) :
    (s.notify level message).dealings = s.dealings := by
  simp [dealings, notify, onPage, Document.notify, List.count_append, other]

theorem dealings_persist (s : Session) (t : Toggle) (on : Bool) :
    (s.persist t on).dealings = s.dealings := rfl

/-! ### Ticks -/

theorem dealings_withoutTicks (s : Session) : s.withoutTicks.dealings = s.dealings := by
  simp [dealings, withoutTicks, List.filter_filter]

theorem pending_append_tick (l : List Entry) (due : Nat) :
    (l ++ [(⟨due, .tick⟩ : Entry)]).filter (!·.step.isTick) = l.filter (!·.step.isTick) := by
  rw [List.filter_append]
  exact List.append_nil _

theorem dealings_startTimer (s : Session) (d : Pomodoro.Durations) :
    (s.startTimer d).dealings = s.dealings := by
  have arranged := pending_append_tick s.withoutTicks.agenda s.clock
  rw [← dealings_withoutTicks s, startTimer, arrange]
  unfold dealings
  rw [← arranged]
  rfl

theorem dealings_tick {s : Session} {i due : Nat} (hi : s.agenda[i]? = some ⟨due, .tick⟩) :
    ({ s with agenda := s.agenda.eraseIdx i }.tick due).dealings = s.dealings := by
  have erased : ({ s with agenda := s.agenda.eraseIdx i } : Session).dealings = s.dealings := by
    have same : (s.agenda.eraseIdx i).filter (!·.step.isTick) = s.agenda.filter (!·.step.isTick) :=
      filter_eraseIdx hi rfl
    simp [dealings, same]
  rw [← erased]
  generalize ({ s with agenda := s.agenda.eraseIdx i } : Session) = s
  have arranged := pending_append_tick s.agenda (due + tickInterval)
  rw [tick]
  split
  · rfl
  · unfold dealings
    rw [← arranged]
    dsimp only
    split <;> rfl

/-! ### Switches -/

theorem dealings_disableFocus (s : Session) : s.disableFocus.dealings = s.dealings := by
  rw [disableFocus, dealings_persist, cancelTimer]
  exact dealings_withoutTicks s

theorem dealings_enableFocus (s : Session) : s.enableFocus.2.dealings = s.dealings := by
  obtain ⟨-, -, same⟩ | ⟨-, -, told⟩ | ⟨article, -, -, -, shown⟩ := enableFocus_cases s
  · rw [same]
  · rw [told, dealings_persist, dealings_notify _ (by decide)]
  · rw [shown, dealings_startTimer]
    rfl

theorem dealings_applyToggle (s : Session) (t : Toggle) (on : Bool) :
    (s.applyToggle t on).2.dealings = s.dealings := by
  unfold applyToggle
  split
  · rfl
  · rfl
  · exact dealings_withDocument s (s.guide.told_setEnabled s.document on)
  · cases on
    · exact dealings_disableFocus s
    · exact dealings_enableFocus s
  · cases on
    · rfl
    · simp only [if_true, enableVoice]
      split <;> rfl

/-- What a switch does not find on its platform is told in words of its own. -/
theorem message_of_applyToggle {s : Session} {t : Toggle} {on : Bool} {message : String}
    (h : (s.applyToggle t on).1 = some (.unsupported message)) :
    message = Speech.Control.unsupportedMessage := by
  unfold applyToggle at h
  split at h
  · simp at h
  · simp at h
  · simp at h
  · cases on
    · simp at h
    · exact absurd h (enableFocus_ne_unsupported s message)
  · cases on
    · simp at h
    · simp only [if_true, enableVoice] at h
      split at h
      · simp at h
      · simpa using h.symm

theorem dealings_clearPeers (s : Session) (t : Toggle) :
    (s.clearPeers t).dealings = s.dealings := by
  refine clearPeers_induction (P := fun s' => s'.dealings = s.dealings) t rfl fun s' u _ same => ?_
  rw [dealings_applyToggle, dealings_persist, same]

theorem dealings_setToggle (s : Session) (t : Toggle) (on : Bool) :
    (s.setToggle t on).dealings = s.dealings := by
  have cleared : (if on then s.clearPeers t else s).dealings = s.dealings := by
    cases on
    · rfl
    · exact dealings_clearPeers s t
  rw [← cleared]
  unfold setToggle
  dsimp only
  generalize (if on then s.clearPeers t else s) = s
  have applied := dealings_applyToggle (s.persist t on) t on
  split
  · rename_i message s' h
    rw [h] at applied
    obtain rfl := message_of_applyToggle (congrArg Prod.fst h)
    rw [dealings_notify _ (by decide), applied, dealings_persist]
  · rename_i h
    rw [h] at applied
    rw [applied, dealings_persist]

/-! ### Everything else that is no action -/

theorem dealings_changeFontSize (s : Session) (c : FontChange) :
    (s.changeFontSize c).2.dealings = s.dealings := rfl

theorem dealings_addSkipLink (s : Session) : s.addSkipLink.dealings = s.dealings := by
  rw [addSkipLink]
  split
  · rfl
  · split
    · exact dealings_notify s (by decide)
    · rfl

theorem dealings_execute (s : Session) (c : Speech.Command) :
    (s.execute c).dealings = s.dealings := by
  cases c with
  | enterFocusMode =>
      rw [execute_enterFocusMode]
      split
      · exact dealings_enableFocus s
      · exact dealings_enableFocus s
  | exitFocusMode => exact dealings_disableFocus s
  | _ => rfl

theorem dealings_voiceEvent (s : Session) (e : Speech.Event) :
    (s.voiceEvent e).2.dealings = s.dealings := by
  obtain ⟨c, -, hc⟩ | ⟨-, ⟨voice, recognition, hv⟩ | ⟨voice, recognition, hv⟩⟩ :=
    voiceEvent_cases s e
  · rw [hc, dealings_execute]
  · rw [hv]
    rfl
  · rw [hv, dealings_notify _ (by decide)]
    rfl

/-- The happening belongs to an action: it asks for one, is a step of one, or reports the end of an
utterance. -/
def Happening.acts (s : Session) : Happening → Bool
  | .message m => (task? m).isSome
  | .event (.speechFinished _) => true
  | .step i => s.agenda[i]?.any (!·.step.isTick)
  | _ => false

/-- What belongs to no action leaves them all alone. -/
theorem dealings_happen {s : Session} {x : Happening} (h : x.acts s = false) :
    (s.happen x).dealings = s.dealings := by
  have change := change_happen s x
  generalize s.happen x = s' at change
  cases change with
  | stayed => rfl
  | waited n => rfl
  | asked m task hm => simp [Happening.acts, hm] at h
  | toggled key t on _ => exact dealings_setToggle s t on
  | resized c => exact dealings_changeFontSize s c
  | linked => exact dealings_addSkipLink s
  | pointed y => exact dealings_withDocument s (s.guide.told_pointerMoved s.document y)
  | heard e => exact dealings_voiceEvent s e
  | left => exact dealings_disableFocus s
  | spoke success => simp [Happening.acts] at h
  | ticked i due hi => exact dealings_tick hi
  | performed i e he ht => simp [Happening.acts, he, ht] at h

/-! ### Reading aloud -/

theorem readingFailure_ne_missingKey (message : String) :
    (⟨.error, "Failed to read aloud: " ++ message⟩ : Notice) ≠ Notice.missingKey := by
  intro same
  have text : "Failed to read aloud: " ++ message = Failure.configuration.message :=
    congrArg Notice.message same
  have first := congrArg (fun t : String => t.toList.head?) text
  rw [String.toList_append, List.head?_append_of_ne_nil _ (by decide)] at first
  exact absurd first (by decide)

/-- The page has too little to read; or the synthesizer is told to stop, and then refuses the
utterance or takes it. -/
theorem startReading_cases (s : Session) (persona : String) :
    (∃ e, s.startReading persona = (some e, s)) ∨
    (∃ e, s.startReading persona = (some e, s.cancelSpeech)) ∨
    ∃ u, s.platform.synthesizer.isSome ∧ s.startReading persona =
      (none, { s.cancelSpeech with
        journal.speech.spoken := s.cancelSpeech.journal.speech.spoken ++ [u]
        readingAloud := true }) := by
  rw [startReading]
  split
  · exact .inl ⟨_, rfl⟩
  · cases present : s.platform.synthesizer with
    | none =>
        refine .inr (.inl ⟨.unsupported Speech.muteMessage, ?_⟩)
        simp [Speech.Log.speak, cancelSpeech, present]
    | some synthesizer =>
        cases refused : synthesizer.refusal with
        | some message =>
            refine .inr (.inl ⟨.unsupported message, ?_⟩)
            simp [Speech.Log.speak, cancelSpeech, present, refused]
        | none =>
            refine .inr (.inr ⟨Speech.reading (MainContent.text s.document.body) persona
              (Speech.voicesOf (some synthesizer)), rfl, ?_⟩)
            simp [Speech.Log.speak, cancelSpeech, present, refused]

theorem dealings_readAloud (s : Session) (persona : String) :
    let stopped := s.journal.speech.cancel s.platform.synthesizer
    (s.readingAloud = true ∧ (s.readAloud persona).dealings =
      { s.dealings with speech := stopped, readingAloud := false }) ∨
    s.readingAloud = false ∧ ((s.readAloud persona).dealings = s.dealings ∨
      (s.readAloud persona).dealings = { s.dealings with speech := stopped } ∨
      ∃ u, s.platform.synthesizer.isSome ∧ (s.readAloud persona).dealings =
        { s.dealings with
          speech := { stopped with spoken := stopped.spoken ++ [u] }, readingAloud := true }) := by
  intro stopped
  rw [readAloud]
  split
  · rename_i reading
    refine .inl ⟨reading, ?_⟩
    rw [dealings_notify _ (by decide)]
    rfl
  · rename_i silent
    refine .inr ⟨by simpa using silent, ?_⟩
    obtain ⟨e, few⟩ | ⟨e, refused⟩ | ⟨u, present, taken⟩ := s.startReading_cases persona
    · rw [few]
      exact .inl (dealings_notify _ (readingFailure_ne_missingKey _))
    · rw [refused]
      refine .inr (.inl ?_)
      rw [dealings_notify _ (readingFailure_ne_missingKey _)]
      rfl
    · rw [taken]
      refine .inr (.inr ⟨u, present, ?_⟩)
      rw [dealings_notify _ (by simp [Notice.missingKey])]
      rfl

theorem dealings_speechFinished (s : Session) (success : Bool) :
    (s.speechFinished success).dealings = { s.dealings with readingAloud := false } := by
  rw [speechFinished]
  split
  · dsimp only
    split
    · rw [dealings_notify _ (by decide)]
      rfl
    · rw [dealings_notify _ (by decide)]
      rfl
  · rename_i silent
    simp [dealings, silent]

theorem dealings_restoreSettings (s : Session) : s.restoreSettings.dealings = s.dealings :=
  restoreSettings_of_kept (P := fun s' => s'.dealings = s.dealings) rfl (fun _ _ same => same)
    (fun _ _ same => same) fun s' t on same => (dealings_applyToggle s' t on).trans same

end Session

end PageAid
