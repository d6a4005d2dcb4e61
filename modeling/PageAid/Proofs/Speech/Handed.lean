import PageAid.Proofs.Session.ReadingAloud
import PageAid.Proofs.Worker.Injection

/-!
What is handed to a speech synthesizer, whether it takes it or not. A page hands over the beginning
of its content, and only if there is enough of it; the background worker hands over whatever text
is selected. So the only silent utterance is that of an empty selection (`handedOver_silent_iff`).
-/

namespace PageAid

namespace Speech

def takes (s : Option Synthesizer) : Bool := s.any (·.refusal.isNone)

/-- A synthesizer with the voices of another one, which takes whatever is handed to it. -/
def willing (s : Option Synthesizer) : Option Synthesizer := some { voices := voicesOf s }

@[simp] theorem takes_willing (s : Option Synthesizer) : takes (willing s) = true := rfl

@[simp] theorem Log.spoken_cancel (l : Log) (s : Option Synthesizer) :
    (l.cancel s).spoken = l.spoken := by
  rw [Log.cancel]
  split <;> rfl

theorem Log.speak_cases (l : Log) (s : Option Synthesizer) (u : Utterance) :
    (takes s = true ∧ l.speak s u = .ok { l with spoken := l.spoken ++ [u] }) ∨
      takes s = false ∧ ∃ message, l.speak s u = .error message := by
  cases s with
  | none => exact .inr ⟨rfl, muteMessage, rfl⟩
  | some s =>
      cases refused : s.refusal with
      | none => exact .inl ⟨by simp [takes, refused], by simp [Log.speak, refused]⟩
      | some message =>
          exact .inr ⟨by simp [takes, refused], message, by simp [Log.speak, refused]⟩

theorem text_reading_ne_empty {content : String} (h : content ≠ "") (persona : String)
    (voices : List Voice) : (reading content persona voices).text ≠ "" := by
  intro silent
  have taken : content.toList.take utteranceLimit = [] := by
    simpa [reading] using congrArg String.toList silent
  rcases List.take_eq_nil_iff.1 taken with none | empty
  · simp [utteranceLimit] at none
  · exact h (String.toList_eq_nil_iff.1 empty)

end Speech

open Speech

namespace Session

/-! ### Reading a page -/

/-- What a page hands over when it is read in the voice of a persona: as much of its content as
fits, if there is enough of it. -/
def pageUtterance? (s : Session) (persona : String) : Option Utterance :=
  let content := MainContent.text s.document.body
  if content.length < minReadingChars then none
  else some (reading content persona (voicesOf s.platform.synthesizer))

theorem spoken_startReading (s : Session) (persona : String) :
    (s.startReading persona).2.journal.speech.spoken = s.journal.speech.spoken ++
      if takes s.platform.synthesizer then (s.pageUtterance? persona).toList else [] := by
  rw [startReading, pageUtterance?]
  by_cases few : (MainContent.text s.document.body).length < minReadingChars
  · simp [few]
  · simp only [if_neg few]
    obtain ⟨willing, taken⟩ | ⟨unwilling, message, refused⟩ :=
      s.cancelSpeech.journal.speech.speak_cases s.platform.synthesizer
        (reading (MainContent.text s.document.body) persona (voicesOf s.platform.synthesizer))
    · have same : s.cancelSpeech.platform.synthesizer = s.platform.synthesizer := rfl
      rw [same, taken, if_pos willing]
      simp [cancelSpeech]
    · have same : s.cancelSpeech.platform.synthesizer = s.platform.synthesizer := rfl
      rw [same, refused, unwilling]
      simp [cancelSpeech]

theorem spoken_readAloud (s : Session) (persona : String) :
    (s.readAloud persona).journal.speech.spoken = s.journal.speech.spoken ++
      if takes s.platform.synthesizer && !s.readingAloud then (s.pageUtterance? persona).toList
      else [] := by
  have started := s.spoken_startReading persona
  rw [readAloud]
  cases s.readingAloud with
  | true => simp [cancelSpeech, notify, onPage]
  | false =>
      generalize s.startReading persona = r at started
      obtain ⟨failure, s'⟩ := r
      cases failure with
      | none => simpa [notify, onPage] using started
      | some e => simpa [notify, onPage] using started

/-- The persona in whose voice a happening has the page read, unless it has the reading stopped. -/
def Happening.persona? (s : Session) : Happening → Option String
  | .step i =>
    match s.agenda[i]? with
    | some ⟨_, .begin (.readAloud persona)⟩ => some persona
    | _ => none
  | _ => none

def utterance? (s : Session) (x : Happening) : Option Utterance :=
  if s.readingAloud then none else (x.persona? s).bind s.pageUtterance?

theorem persona?_eq_some {s : Session} {x : Happening} {persona : String}
    (h : x.persona? s = some persona) :
    ∃ i due, x = .step i ∧ s.agenda[i]? = some ⟨due, .begin (.readAloud persona)⟩ := by
  unfold Happening.persona? at h
  split at h
  · rename_i i
    split at h
    · rename_i due _ entry
      obtain rfl := Option.some.inj h
      exact ⟨i, due, rfl, entry⟩
    · cases h
  · cases h

theorem spoken_happen_of_persona?_eq_none {s : Session} {x : Happening}
    (h : x.persona? s = none) :
    (s.happen x).journal.speech.spoken = s.journal.speech.spoken := by
  cases acts : x.acts s with
  | false => exact congrArg (·.speech.spoken) (dealings_happen acts)
  | true =>
      cases x with
      | message m =>
          obtain ⟨task, asked⟩ := Option.isSome_iff_exists.1 acts
          simp [happen, receive, asked, arrange]
      | event e =>
          cases e with
          | speechFinished success =>
              exact congrArg (·.speech.spoken) (dealings_speechFinished s success)
          | _ => simp [Happening.acts] at acts
      | pause n => simp [Happening.acts] at acts
      | step i =>
          obtain ⟨e, he, untimed⟩ := (Option.any_eq_true _ _).1 acts
          have other : ∀ persona, e.step ≠ .begin (.readAloud persona) := by
            intro persona begins
            obtain ⟨due, step⟩ := e
            subst begins
            simp [Happening.persona?, he] at h
          have kept := voicing_perform { s with agenda := s.agenda.eraseIdx i }
            (by simpa using untimed) other
          simp only [happen, performAt, he]
          exact congrArg (·.2.1.spoken) kept

theorem spoken_happen (s : Session) (x : Happening) :
    (s.happen x).journal.speech.spoken = s.journal.speech.spoken ++
      if takes s.platform.synthesizer then (s.utterance? x).toList else [] := by
  rw [utterance?]
  cases reads : x.persona? s with
  | none =>
      rw [spoken_happen_of_persona?_eq_none reads]
      simp
  | some persona =>
      obtain ⟨i, due, rfl, entry⟩ := persona?_eq_some reads
      have begun : s.happen (.step i) =
          ({ s with agenda := s.agenda.eraseIdx i } : Session).readAloud persona := by
        simp [happen, performAt, entry, perform, begin]
      have same : ({ s with agenda := s.agenda.eraseIdx i } : Session).pageUtterance? persona =
          s.pageUtterance? persona := rfl
      rw [begun, spoken_readAloud, same]
      cases s.readingAloud <;> simp

/-- What a happening has the page hand to its synthesizer, as one that takes everything logs it. -/
def handedOver (s : Session) (x : Happening) : List Utterance :=
  let s' := { s with platform.synthesizer := willing s.platform.synthesizer }
  (s'.happen x).journal.speech.spoken.drop s.journal.speech.spoken.length

theorem handedOver_eq (s : Session) (x : Happening) : s.handedOver x = (s.utterance? x).toList := by
  rw [handedOver, spoken_happen, if_pos (takes_willing _), List.drop_left]
  rfl

/-- A synthesizer that takes what is handed to it logs just this. -/
theorem log_happen (s : Session) (x : Happening) :
    (s.happen x).journal.speech.spoken =
      s.journal.speech.spoken ++ if takes s.platform.synthesizer then s.handedOver x else [] := by
  rw [spoken_happen, handedOver_eq]

theorem text_ne_empty_of_mem_handedOver (s : Session) (x : Happening) {u : Utterance}
    (h : u ∈ s.handedOver x) : u.text ≠ "" := by
  rw [handedOver_eq, utterance?] at h
  split at h
  · simp at h
  · obtain ⟨persona, -, reads⟩ := Option.bind_eq_some_iff.1 (Option.mem_toList.1 h)
    rw [pageUtterance?] at reads
    split at reads
    · cases reads
    · rename_i enough
      obtain rfl := Option.some.inj reads
      refine text_reading_ne_empty ?_ persona _
      rintro empty
      rw [empty] at enough
      exact enough (by decide)

end Session

namespace Worker

/-! ### Speaking a selection -/

theorem putIn_silent (w : Worker) (tab : TabId) :
    ∃ result browser waited, ∀ synthesizer,
      ({ w with synthesizer } : Worker).carryOut (putIn tab) =
        (result, { w with synthesizer, browser, waited }) := by
  cases ran : w.browser.call (.runScripts tab contentScripts) with
  | mk result b =>
      cases result with
      | error e =>
          refine ⟨.error e, b, w.waited, fun synthesizer => ?_⟩
          rw [putIn, carryOut_bind, carryOut_call, ran]
      | ok reply =>
          cases styled : b.call (.insertStyles tab contentStyles) with
          | mk result b' =>
              cases result with
              | error e =>
                  refine ⟨.error e, b', w.waited, fun synthesizer => ?_⟩
                  rw [putIn, carryOut_bind, carryOut_call, ran]
                  dsimp only
                  rw [carryOut_bind, carryOut_call, styled]
              | ok reply =>
                  refine ⟨.ok (), b', w.waited + w.settleTime, fun synthesizer => ?_⟩
                  rw [putIn, carryOut_bind, carryOut_call, ran]
                  dsimp only
                  rw [carryOut_bind, carryOut_call, styled]
                  rfl

theorem ensureInjected_silent (w : Worker) (tab : TabId) :
    ∃ result browser waited, ∀ synthesizer,
      ({ w with synthesizer } : Worker).carryOut (ensureInjected tab) =
        (result, { w with synthesizer, browser, waited }) := by
  cases there : (w.browser.call (.send tab .ping)).1.isOk with
  | true =>
      refine ⟨.ok (), (w.browser.call (.send tab .ping)).2, w.waited, fun synthesizer => ?_⟩
      rw [ensureInjected_eq, carryOut_bind, carryOut_answers]
      dsimp only
      rw [there]
      rfl
  | false =>
      obtain ⟨result, browser, waited, done⟩ :=
        putIn_silent { w with browser := (w.browser.call (.send tab .ping)).2 } tab
      refine ⟨result, browser, waited, fun synthesizer => ?_⟩
      rw [ensureInjected_eq, carryOut_bind, carryOut_answers]
      dsimp only
      rw [there]
      exact done synthesizer

/-- The click is one on the entry for speaking, in a tab that scripts can be put into, and are. -/
def speaks (w : Worker) (c : MenuClick) (tab : Tab) : Bool :=
  c.item == "lumen-tts" && !protectedStart.toList.isPrefixOf tab.url.toList &&
    tab.id.any fun id => (w.carryOut (ensureInjected id)).1.isOk

theorem spoken_speakSelection (w : Worker) (selection : Option String) :
    (w.speakSelection selection).speech.spoken = w.speech.spoken ++
      if takes w.synthesizer then [{ text := selection.getD noSelection, rate := 1.0 }]
      else [] := by
  obtain ⟨willing, taken⟩ | ⟨unwilling, message, refused⟩ :=
    (w.speech.cancel w.synthesizer).speak_cases w.synthesizer
      { text := selection.getD noSelection, rate := 1.0 }
  · simp [speakSelection, taken, willing]
  · simp [speakSelection, refused, unwilling]

theorem clickAction_eq_speak_iff {c : MenuClick} :
    clickAction c = .speak ↔ c.item = "lumen-tts" := by
  unfold clickAction
  split
  · rename_i tts
    simp [tts]
  · rename_i other
    simp [other]
  · rename_i other
    simp [other]
  · rename_i other
    simp [other]
  · rename_i other
    simp [other]
  · rename_i other
    split <;> simp [other]
  · rename_i other _ _ _ _ _
    exact iff_of_false nofun other

theorem spoken_answerClick (w : Worker) (c : MenuClick) (id : TabId) :
    (w.carryOut (answerClick c id)).2.speech.spoken = w.speech.spoken ++
      if takes w.synthesizer && c.item == "lumen-tts" then
        [{ text := c.selection.getD noSelection, rate := 1.0 }]
      else [] := by
  rw [answerClick]
  cases act : clickAction c with
  | nothing =>
      have other : c.item ≠ "lumen-tts" := by simp [← clickAction_eq_speak_iff, act]
      rw [beq_false_of_ne other, Bool.and_false]
      exact (List.append_nil _).symm
  | speak =>
      have tts : (c.item == "lumen-tts") = true := beq_iff_eq.2 (clickAction_eq_speak_iff.1 act)
      rw [tts, Bool.and_true]
      exact spoken_speakSelection w c.selection
  | send m =>
      have other : c.item ≠ "lumen-tts" := by simp [← clickAction_eq_speak_iff, act]
      have sent : (w.carryOut (call (.send id m) >>= fun _ => pure (some m))).2.speech =
          w.speech := by
        rw [carryOut_bind, carryOut_call]
        cases (w.browser.call (.send id m)).1 <;> rfl
      rw [beq_false_of_ne other, Bool.and_false]
      exact (congrArg (·.spoken) sent).trans (List.append_nil _).symm

theorem spoken_menuClicked (w : Worker) (c : MenuClick) (tab : Tab) :
    (w.carryOut (menuClicked c tab)).2.speech.spoken = w.speech.spoken ++
      if takes w.synthesizer && w.speaks c tab then
        [{ text := c.selection.getD noSelection, rate := 1.0 }]
      else [] := by
  have idle : w.carryOut (pure none : Channel (Option Message)) = (.ok none, w) := rfl
  obtain ⟨_ | id, url⟩ := tab
  · simp [menuClicked, speaks, idle]
  · rw [menuClicked_eq]
    split
    · rename_i guarded
      simp [speaks, guarded, idle]
    · rename_i unguarded
      obtain ⟨result, browser, waited, done⟩ := w.ensureInjected_silent id
      have ensured : w.carryOut (ensureInjected id) = (result, { w with browser, waited }) :=
        done w.synthesizer
      have heard : w.speaks c ⟨some id, url⟩ = (c.item == "lumen-tts" && result.isOk) := by
        simp [speaks, unguarded, ensured]
      rw [carryOut_bind, ensured, heard]
      cases result with
      | error e => simp [Except.isOk, Except.toBool]
      | ok _ =>
          have answered := spoken_answerClick { w with browser, waited } c id
          rwa [show (Except.ok () : Except ChannelError Unit).isOk = true from rfl, Bool.and_true]

def handedOver (w : Worker) (c : MenuClick) (tab : Tab) : List Utterance :=
  let w' := { w with synthesizer := willing w.synthesizer }
  (w'.carryOut (menuClicked c tab)).2.speech.spoken.drop w.speech.spoken.length

theorem handedOver_eq (w : Worker) (c : MenuClick) (tab : Tab) :
    w.handedOver c tab =
      if w.speaks c tab then [{ text := c.selection.getD noSelection, rate := 1.0 }] else [] := by
  have same : ({ w with synthesizer := willing w.synthesizer } : Worker).speaks c tab =
      w.speaks c tab := by
    unfold speaks
    cases tab.id with
    | none => rfl
    | some id =>
        obtain ⟨result, browser, waited, done⟩ := w.ensureInjected_silent id
        have own : w.carryOut (ensureInjected id) = (result, { w with browser, waited }) :=
          done w.synthesizer
        simp only [Option.any_some]
        rw [done, own]
  rw [handedOver, spoken_menuClicked, takes_willing, same, List.drop_left]
  rfl

theorem log_menuClicked (w : Worker) (c : MenuClick) (tab : Tab) :
    (w.carryOut (menuClicked c tab)).2.speech.spoken =
      w.speech.spoken ++ if takes w.synthesizer then w.handedOver c tab else [] := by
  rw [spoken_menuClicked, handedOver_eq]
  cases takes w.synthesizer <;> simp

end Worker

namespace Speech

/-- Nothing that happens to a page has an utterance without a text handed to a synthesizer. A click
has the worker hand over the text that is selected, or the sentence for no selection if there is
none, and this is without a text just when the selection is there and empty. -/
theorem handedOver_silent_iff (s : Session) (x : Session.Happening) (w : Worker) (c : MenuClick)
    (tab : Tab) :
    (∀ u ∈ s.handedOver x, u.text ≠ "") ∧
      (w.handedOver c tab).map (·.text) =
        (if w.speaks c tab then [c.selection.getD Worker.noSelection] else []) ∧
      ((∃ u ∈ w.handedOver c tab, u.text = "") ↔ w.speaks c tab ∧ c.selection = some "") := by
  refine ⟨fun u => s.text_ne_empty_of_mem_handedOver x, ?_⟩
  rw [w.handedOver_eq c tab]
  cases w.speaks c tab with
  | false => simp
  | true =>
      refine ⟨rfl, ?_⟩
      cases c.selection with
      | none => simp [Worker.noSelection]
      | some text => simp

/-- In a tab where the content scripts are, a click on the entry for speaking while the selection is
empty has nothing spoken instead of the sentence for no selection. -/
theorem handedOver_silent_of_emptySelection :
    let w : Worker := { browser := { scripted := true }, synthesizer := some {} }
    let handed := w.handedOver ⟨"lumen-tts", some "", none⟩ ⟨some 1, "https://example.com"⟩
    handed.map (·.text) = [""] ∧ handed.map (·.text) ≠ [Worker.noSelection] ∧
      ¬∀ u ∈ handed, u.text ≠ "" := by
  intro w handed
  have texts : handed.map (·.text) = [""] := by decide +kernel
  refine ⟨texts, by rw [texts]; decide, fun voiced => ?_⟩
  have silent : "" ∈ handed.map (·.text) := by simp [texts]
  obtain ⟨u, hu, empty⟩ := List.mem_map.1 silent
  exact voiced u hu empty

end Speech

end PageAid
