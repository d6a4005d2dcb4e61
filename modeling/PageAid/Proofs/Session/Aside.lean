import PageAid.Proofs.Page.Sketch
import PageAid.Session.Timeline

/-!
What the actions of the assistant and of the synthesizer leave alone. They tell the user something,
ask the services and arrange further steps; a translation also writes texts. Nothing else of a page
changes (`aside_perform`), and without a translation not even a text (`quiet_perform`).
-/

namespace PageAid

def Step.translates : Step → Bool
  | .begin (.translate _) | .write _ _ | .send _ => true
  | _ => false

theorem Step.isTick_eq_false_of_translates {step : Step} (h : step.translates) :
    step.isTick = false := by
  cases step <;> simp_all [translates, isTick]

namespace Session

/-- The page without its body, what the user is told, and what actions keep for themselves. -/
def still (s : Session) : Session :=
  { s with
    document := { s.document with body := default, notices := [], modal := none }
    journal := {}, translating := false, readingAloud := false, agenda := [] }

/-- From `s` to `s'` only texts have changed, and what actions tell, ask and arrange. -/
structure Aside (s s' : Session) : Prop where
  still : s'.still = s.still
  outline : s'.document.body.outline = s.document.body.outline
  ticks : s'.agenda.filter (·.step.isTick) = s.agenda.filter (·.step.isTick)
  asked : s.journal.queries <+: s'.journal.queries

/-- From `s` to `s'` no text has changed either, and no step of a translation was added. -/
structure Quiet (s s' : Session) : Prop extends Aside s s' where
  body : s'.document.body = s.document.body
  translating : s'.translating = s.translating
  translations :
    (s'.agenda.filter (·.step.translates)).Sublist (s.agenda.filter (·.step.translates))

namespace Aside

variable {s s' s'' : Session}

theorem refl (s : Session) : Aside s s := ⟨rfl, rfl, rfl, List.prefix_rfl⟩

theorem trans (h : Aside s s') (h' : Aside s' s'') : Aside s s'' where
  still := h'.still.trans h.still
  outline := h'.outline.trans h.outline
  ticks := h'.ticks.trans h.ticks
  asked := h.asked.trans h'.asked

theorem platform (h : Aside s s') : s'.platform = s.platform := by
  show s'.still.platform = s.still.platform
  rw [h.still]

theorem store (h : Aside s s') : s'.store = s.store := by
  show s'.still.store = s.still.store
  rw [h.still]

theorem focus (h : Aside s s') : s'.focus = s.focus := by
  show s'.still.focus = s.still.focus
  rw [h.still]

theorem pomodoro (h : Aside s s') : s'.pomodoro = s.pomodoro := by
  show s'.still.pomodoro = s.still.pomodoro
  rw [h.still]

theorem clock (h : Aside s s') : s'.clock = s.clock := by
  show s'.still.clock = s.still.clock
  rw [h.still]

theorem rootClasses (h : Aside s s') : s'.document.rootClasses = s.document.rootClasses := by
  show s'.still.document.rootClasses = s.still.document.rootClasses
  rw [h.still]

theorem flag (h : Aside s s') (t : Toggle) : s'.flag t = s.flag t := by
  rw [Session.flag, h.store, Session.flag]

theorem tickers (h : Aside s s') : s'.tickers = s.tickers := by
  rw [Session.tickers, Session.tickers, List.countP_eq_length_filter, h.ticks,
    ← List.countP_eq_length_filter]

theorem hasBodyClass (h : Aside s s') (name : String) :
    s'.document.hasBodyClass name = s.document.hasBodyClass name := by
  -- the markup of the body is the same but for its text
  have same := congrArg (fun e : Element => e.markup.classes.contains name) h.outline
  rwa [Element.outline, Element.outline, Element.sketch_eq, Element.sketch_eq] at same

theorem countId (h : Aside s s') (id : String) :
    s'.document.body.countId id = s.document.body.countId id :=
  Element.countId_eq_of_outline_eq h.outline id

theorem countP_children (h : Aside s s') (id : String) :
    s'.document.body.children.countP (·.hasId id) =
      s.document.body.children.countP (·.hasId id) :=
  Element.countP_children_eq_of_outline_eq h.outline id

end Aside

namespace Quiet

variable {s s' s'' : Session}

theorem of_still (still : s'.still = s.still) (body : s'.document.body = s.document.body)
    (agenda : s'.agenda = s.agenda) (translating : s'.translating = s.translating)
    (asked : s.journal.queries <+: s'.journal.queries) : Quiet s s' where
  still := still
  outline := by rw [body]
  ticks := by rw [agenda]
  asked := asked
  body := body
  translating := translating
  translations := agenda ▸ List.Sublist.refl _

theorem refl (s : Session) : Quiet s s := of_still rfl rfl rfl rfl List.prefix_rfl

theorem trans (h : Quiet s s') (h' : Quiet s' s'') : Quiet s s'' :=
  { h.toAside.trans h'.toAside with
    body := h'.body.trans h.body
    translating := h'.translating.trans h.translating
    translations := h'.translations.trans h.translations }

end Quiet

/-! ### Telling, asking and arranging -/

theorem quiet_notify (s : Session) (level : NoticeLevel) (message : String) :
    Quiet s (s.notify level message) :=
  Quiet.of_still rfl rfl rfl rfl List.prefix_rfl

theorem quiet_showModal (s : Session) (title body : String) :
    Quiet s (s.showModal title body) :=
  Quiet.of_still rfl rfl rfl rfl List.prefix_rfl

theorem quiet_ask (s : Session) (q : Query) : Quiet s (s.ask q).2 :=
  Quiet.of_still rfl rfl rfl rfl (List.prefix_append _ _)

theorem quiet_cancelSpeech (s : Session) : Quiet s s.cancelSpeech :=
  Quiet.of_still rfl rfl rfl rfl List.prefix_rfl

theorem aside_arrange (s : Session) (delay : Nat) {step : Step} (h : step.isTick = false) :
    Aside s (s.arrange delay step) :=
  { Aside.refl s with ticks := by simp [arrange, h] }

theorem quiet_arrange (s : Session) (delay : Nat) {step : Step} (h : step.isTick = false)
    (h' : step.translates = false) : Quiet s (s.arrange delay step) :=
  { aside_arrange s delay h with
    body := rfl, translating := rfl, translations := by simp [arrange, h'] }

theorem filter_eraseIdx {l : List Entry} {e : Entry} {i : Nat} (he : l[i]? = some e)
    {p : Entry → Bool} (h : p e = false) : (l.eraseIdx i).filter p = l.filter p := by
  induction l generalizing i with
  | nil => rfl
  | cons x r ih =>
      cases i with
      | zero =>
          obtain rfl : x = e := by simpa using he
          simp [h]
      | succ i => rw [List.eraseIdx_cons_succ, List.filter_cons, List.filter_cons,
          ih (by simpa using he)]

theorem quiet_eraseIdx (s : Session) {e : Entry} {i : Nat} (he : s.agenda[i]? = some e)
    (h : e.step.isTick = false) : Quiet s { s with agenda := s.agenda.eraseIdx i } :=
  { Aside.refl s with
    ticks := filter_eraseIdx he h
    body := rfl
    translating := rfl
    translations := (List.eraseIdx_sublist s.agenda i).filter _ }

/-! ### Results in the dialogue -/

theorem quiet_showReport (s : Session) (r : Report) (result : Except Failure String) :
    Quiet s (s.showReport r result) := by
  cases result with
  | ok text => exact quiet_showModal s _ _
  | error e => exact quiet_showModal s _ _

theorem quiet_showAnswer (s : Session) (r : Report) (result : Except AssistantError String) :
    Quiet s (s.showAnswer r result) :=
  quiet_showReport s r _

theorem quiet_askAndShow (s : Session) (r : Report) (q : Query) :
    Quiet s (s.askAndShow r q) := by
  have asked := quiet_ask s q
  rw [askAndShow]
  dsimp only
  split
  · exact asked.trans (quiet_showAnswer _ _ _)
  · exact asked.trans (quiet_arrange _ _ rfl rfl)

theorem quiet_describeImage (s : Session) (url : String) : Quiet s (s.describeImage url) := by
  have fetched : Quiet (s.showModal "Lumen: AI Image Description" "Analyzing image...")
      { s.showModal "Lumen: AI Image Description" "Analyzing image..." with
        journal := (s.platform.fetch s.journal url).2 } :=
    Quiet.of_still rfl rfl rfl rfl List.prefix_rfl
  have begun := (quiet_showModal s _ _).trans fetched
  rw [describeImage]
  dsimp only
  split
  · exact begun.trans (quiet_askAndShow _ _ _)
  · exact begun.trans (quiet_showAnswer _ _ _)

theorem quiet_summarizePage (s : Session) (length : Assistant.SummaryLength) :
    Quiet s (s.summarizePage length) := by
  rw [summarizePage]
  split
  · exact (quiet_showModal s _ _).trans (quiet_showReport _ _ _)
  · exact (quiet_showModal s _ _).trans (quiet_askAndShow _ _ _)

/-! ### Reading aloud -/

theorem quiet_startReading (s : Session) (persona : String) :
    Quiet s (s.startReading persona).2 := by
  rw [startReading]
  split
  · exact Quiet.refl s
  · dsimp only
    split
    · exact quiet_cancelSpeech s
    · exact Quiet.of_still rfl rfl rfl rfl List.prefix_rfl

theorem quiet_readAloud (s : Session) (persona : String) : Quiet s (s.readAloud persona) := by
  rw [readAloud]
  split
  · have off : Quiet s { s with readingAloud := false } :=
      Quiet.of_still rfl rfl rfl rfl List.prefix_rfl
    exact (off.trans (quiet_cancelSpeech _)).trans (quiet_notify _ _ _)
  · have started := quiet_startReading s persona
    split
    · rename_i s' h
      rw [h] at started
      exact started.trans (quiet_notify _ _ _)
    · rename_i e s' h
      rw [h] at started
      exact started.trans (quiet_notify _ _ _)

theorem quiet_speechFinished (s : Session) (success : Bool) :
    Quiet s (s.speechFinished success) := by
  rw [speechFinished]
  split
  · have off : Quiet s { s with readingAloud := false } :=
      Quiet.of_still rfl rfl rfl rfl List.prefix_rfl
    dsimp only
    split
    · exact off.trans (quiet_notify _ _ _)
    · exact off.trans (quiet_notify _ _ _)
  · exact Quiet.refl s

/-! ### Translation -/

theorem snd_writeBlock (sent : List Assistant.Run) (acc : Nat × Document)
    (block : Nat × String) :
    (writeBlock sent acc block).2 =
      { acc.2 with body := (writeBlock sent acc block).2.body } := by
  simp only [writeBlock]
  split
  · rfl
  · split <;> rfl

theorem outline_writeBlock (sent : List Assistant.Run) (acc : Nat × Document)
    (block : Nat × String) :
    (writeBlock sent acc block).2.body.outline = acc.2.body.outline := by
  simp only [writeBlock]
  split
  · rfl
  · split
    · exact Element.outline_updatedAt _ _ _
    · rfl

theorem snd_foldl_writeBlock (sent : List Assistant.Run) (blocks : List (Nat × String))
    (acc : Nat × Document) :
    (blocks.foldl (writeBlock sent) acc).2 =
        { acc.2 with body := (blocks.foldl (writeBlock sent) acc).2.body } ∧
      (blocks.foldl (writeBlock sent) acc).2.body.outline = acc.2.body.outline := by
  induction blocks generalizing acc with
  | nil => exact ⟨rfl, rfl⟩
  | cons b r ih =>
      obtain ⟨rest, same⟩ := ih (writeBlock sent acc b)
      rw [List.foldl_cons]
      refine ⟨?_, same.trans (outline_writeBlock sent acc b)⟩
      rw [snd_writeBlock sent acc b] at rest
      exact rest

theorem aside_withDocument {s : Session} {d : Document}
    (rest : d = { s.document with body := d.body })
    (same : d.body.outline = s.document.body.outline) : Aside s { s with document := d } :=
  { Aside.refl s with
    still := by rw [rest]; rfl
    outline := same }

theorem aside_finishTranslation (s : Session) (language : String)
    (result : Except Failure Nat) : Aside s (s.finishTranslation language result) := by
  have off : Aside s { s with translating := false } := { Aside.refl s with }
  cases result with
  | ok n => exact off.trans (quiet_notify _ _ _).toAside
  | error e => exact off.trans (quiet_notify _ _ _).toAside

theorem aside_writeBatch (s : Session) (t : Translation)
    (result : Except AssistantError String) : Aside s (s.writeBatch t result) := by
  cases result with
  | error e => exact aside_finishTranslation s t.language (.error (.ofAssistant e))
  | ok reply =>
      obtain ⟨rest, same⟩ :=
        snd_foldl_writeBlock t.sent (Assistant.readBlocks reply) (t.written, s.document)
      have written := aside_withDocument rest same
      rw [writeBatch]
      dsimp only
      split
      · exact written.trans (aside_finishTranslation _ _ _)
      · exact written.trans (aside_arrange _ _ rfl)

theorem aside_sendBatch (s : Session) (t : Translation) : Aside s (s.sendBatch t) := by
  rw [sendBatch]
  dsimp only
  split
  · exact ((quiet_notify s _ _).trans (quiet_ask _ _)).toAside.trans (aside_writeBatch _ _ _)
  · exact ((quiet_notify s _ _).trans (quiet_ask _ _)).toAside.trans (aside_arrange _ _ rfl)

theorem aside_sendNext (s : Session) (t : Translation) : Aside s (s.sendNext t) := by
  rw [sendNext]
  split
  · exact Aside.refl s
  · exact aside_sendBatch _ _

theorem aside_translate (s : Session) (language : String) : Aside s (s.translate language) := by
  have on : Aside s { s with translating := true } := { Aside.refl s with }
  rw [translate]
  split
  · exact (quiet_notify s _ _).toAside
  · dsimp only
    split
    · exact (on.trans (quiet_notify _ _ _).toAside).trans (aside_finishTranslation _ _ _)
    · exact (on.trans (quiet_notify _ _ _).toAside).trans (aside_sendBatch _ _)

/-! ### Steps -/

theorem quiet_begin (s : Session) {task : Task} (h : (Step.begin task).translates = false) :
    Quiet s (s.begin task) := by
  unfold begin
  split
  · exact quiet_readAloud s _
  · split
    · exact quiet_notify s _ _
    · cases task with
      | summarize text => exact (quiet_showModal s _ _).trans (quiet_askAndShow _ _ _)
      | simplify text => exact (quiet_showModal s _ _).trans (quiet_askAndShow _ _ _)
      | describeImage url => exact quiet_describeImage s url
      | summarizePage length => exact quiet_summarizePage s length
      | translate language => simp [Step.translates] at h
      | readAloud persona => exact Quiet.refl s

theorem aside_begin (s : Session) (task : Task) : Aside s (s.begin task) := by
  cases task with
  | translate language =>
      rw [begin]
      split
      · exact (quiet_notify s _ _).toAside
      · exact aside_translate s language
  | _ => exact (quiet_begin s rfl).toAside

/-- A step other than a tick, and other than those of a translation. -/
theorem quiet_perform (s : Session) {e : Entry} (h : e.step.isTick = false)
    (h' : e.step.translates = false) : Quiet s (s.perform e) := by
  rw [perform]
  split <;> rename_i hstep <;> rw [hstep] at h h'
  · simp [Step.isTick] at h
  · exact quiet_begin s h'
  · exact quiet_showAnswer s _ _
  · simp [Step.translates] at h'
  · simp [Step.translates] at h'

/-- A step other than a tick. -/
theorem aside_perform (s : Session) {e : Entry} (h : e.step.isTick = false) :
    Aside s (s.perform e) := by
  rw [perform]
  split
  · rename_i hstep
    simp [hstep, Step.isTick] at h
  · exact aside_begin s _
  · exact (quiet_showAnswer s _ _).toAside
  · exact aside_writeBatch s _ _
  · exact aside_sendNext s _

theorem aside_performed {s : Session} {e : Entry} {i : Nat} (he : s.agenda[i]? = some e)
    (h : e.step.isTick = false) : Aside s ({ s with agenda := s.agenda.eraseIdx i }.perform e) :=
  (quiet_eraseIdx s he h).toAside.trans (aside_perform _ h)

theorem performAt_cases (s : Session) (i : Nat) :
    (s.agenda[i]? = none ∧ s.performAt i = s) ∨
    (∃ due, s.agenda[i]? = some ⟨due, .tick⟩ ∧
      s.performAt i = { s with agenda := s.agenda.eraseIdx i }.tick due) ∨
    ∃ e, s.agenda[i]? = some e ∧ e.step.isTick = false ∧
      s.performAt i = { s with agenda := s.agenda.eraseIdx i }.perform e := by
  rw [performAt]
  cases he : s.agenda[i]? with
  | none => exact .inl ⟨rfl, rfl⟩
  | some e =>
      obtain ⟨due, step⟩ := e
      cases step with
      | tick => exact .inr (.inl ⟨due, rfl, rfl⟩)
      | _ => exact .inr (.inr ⟨_, rfl, rfl, rfl⟩)

end Session

end PageAid
