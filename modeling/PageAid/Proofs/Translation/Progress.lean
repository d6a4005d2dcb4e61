import PageAid.Proofs.Session.Calm
import PageAid.Proofs.Translation.Write

/-!
How a translation goes on. At most one batch is under way at a time, and it is one of the batches of
the page as it was when the translation began (`Attributed`).
-/

namespace PageAid

open Assistant

def Step.batch? : Step → Option Translation
  | .write t _ | .send t => some t
  | _ => none

theorem Step.translates_of_batch? {step : Step} (h : step.batch?.isSome) : step.translates := by
  cases step <;> simp_all [batch?, translates]

namespace Translation

def first? (language : String) (body : Element) : Option Translation :=
  match Assistant.batches (runs body) with
  | [] => none
  | sent :: left =>
    some { language, sent, left, batch := 0, batches := left.length + 1, written := 0 }

def next? (t : Translation) : Option Translation :=
  match t.left with
  | [] => none
  | sent :: left => some { t with sent := sent, left := left, batch := t.batch + 1 }

def query (t : Translation) : Query :=
  .generate (batchPrompt t.language (t.sent.map (·.text)))

/-- The batch is one of those of a page, by its number, and the batches that are left follow. -/
def PartOf (t : Translation) (body : Element) : Prop :=
  ∃ before, Assistant.batches (runs body) = before ++ t.sent :: t.left ∧ before.length = t.batch

theorem partOf_of_first? {language : String} {body : Element} {t : Translation}
    (h : first? language body = some t) : t.PartOf body := by
  rw [first?] at h
  split at h
  · simp at h
  · rename_i sent left all
    obtain rfl := Option.some.inj h
    exact ⟨[], all, rfl⟩

theorem PartOf.next {t t' : Translation} {body : Element} (h : t.PartOf body)
    (ht : t.next? = some t') : t'.PartOf body := by
  obtain ⟨before, all, number⟩ := h
  rw [next?] at ht
  split at ht
  · simp at ht
  · rename_i sent left rest
    obtain rfl := Option.some.inj ht
    exact ⟨before ++ [t.sent], by simp [all, rest], by simp [number]⟩

theorem PartOf.getElem? {t : Translation} {body : Element} (h : t.PartOf body) :
    (Assistant.batches (runs body))[t.batch]? = some t.sent := by
  obtain ⟨before, all, number⟩ := h
  rw [all, ← number]
  simp

theorem PartOf.sublist {t : Translation} {body : Element} (h : t.PartOf body) :
    t.sent.Sublist (runs body) := by
  obtain ⟨before, all, -⟩ := h
  exact sublist_of_mem_batches (by simp [all])

theorem PartOf.nodup_paths {t : Translation} {body : Element} (h : t.PartOf body) :
    (t.sent.map (·.path)).Nodup := by
  have paths : (t.sent.map (·.path)).Sublist ((runs body).map (·.path)) := h.sublist.map _
  exact paths.nodup (nodup_paths_runs body)

end Translation

namespace Session

def answerTo (s : Session) (t : Translation) : Answer :=
  s.platform.backend.answer s.journal.queries.length t.query

theorem sendNext_eq (s : Session) (t : Translation) :
    s.sendNext t = match t.next? with
      | some t' => s.sendBatch t'
      | none => s := by
  rw [sendNext, Translation.next?]
  cases t.left <;> rfl

/-- With the flag free, a translation takes it and begins with the first batch, if there is one. -/
theorem translate_eq (s : Session) (language : String) :
    s.translate language =
      if s.translating then s.notify .info "Translation already in progress..."
      else
        let begun := ({ s with translating := true } : Session).notify .info
          ("Translating page to " ++ language ++ "... This may take a moment.")
        match Translation.first? language s.document.body with
        | some t => begun.sendBatch t
        | none => begun.finishTranslation language
            (.error (.contentNotFound "No translatable text found on this page.")) := by
  have body : (({ s with translating := true } : Session).notify .info
      ("Translating page to " ++ language ++ "... This may take a moment.")).document.body =
        s.document.body := rfl
  rw [translate, Translation.first?]
  dsimp only
  rw [body]
  cases batches (runs s.document.body) <;> rfl

def begins (s : Session) : Happening → Bool
  | .step i =>
    match s.agenda[i]? with
    | some ⟨_, .begin (.translate _)⟩ => s.platform.backend.hasKey && !s.translating
    | _ => false
  | _ => false

theorem translates_of_begins {s : Session} {x : Happening} (h : s.begins x) :
    x.translates s := by
  cases x with
  | step i =>
      rw [begins] at h
      rw [Happening.translates]
      split at h <;> simp_all [Step.translates]
  | _ => simp [begins] at h

theorem begins_eq_false_of_batch? {s : Session} {i : Nat} {e : Entry}
    (he : s.agenda[i]? = some e) (h : e.step.batch?.isSome) : s.begins (.step i) = false := by
  rw [begins, he]
  obtain ⟨due, step⟩ := e
  cases step with
  | begin task => simp [Step.batch?] at h
  | _ => rfl

/-- What a message or step of a translation does. -/
inductive Progress (s : Session) : Happening → Session → Prop where
  | asked (m : Message) (task : Task) (h : task? m = some task) :
      Progress s (.message m) (s.arrange 0 (.begin task))
  | refused (i due : Nat) (language : String) (level : NoticeLevel) (message : String)
      (he : s.agenda[i]? = some ⟨due, .begin (.translate language)⟩)
      (h : s.begins (.step i) = false) :
      Progress s (.step i) ({ s with agenda := s.agenda.eraseIdx i }.notify level message)
  | futile (i due : Nat) (language message : String) (failure : Failure)
      (he : s.agenda[i]? = some ⟨due, .begin (.translate language)⟩) (h : s.begins (.step i))
      (ht : Translation.first? language s.document.body = none) :
      Progress s (.step i)
        (({ s with agenda := s.agenda.eraseIdx i, translating := true }.notify .info
          message).finishTranslation language (.error failure))
  | began (i due : Nat) (language message : String) (t : Translation)
      (he : s.agenda[i]? = some ⟨due, .begin (.translate language)⟩) (h : s.begins (.step i))
      (ht : Translation.first? language s.document.body = some t) :
      Progress s (.step i)
        (({ s with agenda := s.agenda.eraseIdx i, translating := true }.notify .info
          message).sendBatch t)
  | sent (i due : Nat) (t t' : Translation) (he : s.agenda[i]? = some ⟨due, .send t⟩)
      (ht : t.next? = some t') :
      Progress s (.step i) ({ s with agenda := s.agenda.eraseIdx i }.sendBatch t')
  | ended (i due : Nat) (t : Translation) (he : s.agenda[i]? = some ⟨due, .send t⟩)
      (ht : t.next? = none) :
      Progress s (.step i) { s with agenda := s.agenda.eraseIdx i }
  | wrote (i due : Nat) (t : Translation) (result : Except AssistantError String)
      (he : s.agenda[i]? = some ⟨due, .write t result⟩) :
      Progress s (.step i) ({ s with agenda := s.agenda.eraseIdx i }.writeBatch t result)

theorem progress_send {s : Session} {i due : Nat} {t : Translation}
    (he : s.agenda[i]? = some ⟨due, .send t⟩) :
    Progress s (.step i) ({ s with agenda := s.agenda.eraseIdx i }.sendNext t) := by
  rw [sendNext_eq]
  cases ht : t.next? with
  | none => exact .ended i due t he ht
  | some t' => exact .sent i due t t' he ht

theorem progress_begin {s : Session} {i due : Nat} {language : String}
    (he : s.agenda[i]? = some ⟨due, .begin (.translate language)⟩) :
    Progress s (.step i)
      ({ s with agenda := s.agenda.eraseIdx i }.begin (.translate language)) := by
  have begins : s.begins (.step i) = (s.platform.backend.hasKey && !s.translating) := by
    simp [Session.begins, he]
  rw [begin]
  split
  · rename_i none
    exact .refused i due language _ _ he (by simp_all)
  · rename_i key
    rw [translate_eq]
    split
    · rename_i on
      exact .refused i due language _ _ he (by simp_all)
    · rename_i off
      have begun : s.begins (.step i) := by simp_all
      -- the batches are those of the page as it is now
      split
      · rename_i t ht
        exact .began i due language _ t he begun ht
      · rename_i ht
        exact .futile i due language _ _ he begun ht

theorem progress_happen {s : Session} {x : Happening} (h : x.translates s) :
    Progress s x (s.happen x) := by
  cases x with
  | message m =>
      obtain ⟨task, hm, -⟩ := (Option.any_eq_true _ _).1 h
      rw [happen]
      unfold receive
      simp only [hm]
      exact .asked m task hm
  | event e => simp [Happening.translates] at h
  | pause n => simp [Happening.translates] at h
  | step i =>
      obtain ⟨⟨due, step⟩, he, ht⟩ := (Option.any_eq_true _ _).1 h
      rw [happen, performAt, he]
      cases step with
      | tick => simp [Step.translates] at ht
      | report r result => simp [Step.translates] at ht
      | write t result => exact .wrote i due t result he
      | send t => exact progress_send he
      | begin task =>
          cases task with
          | translate language => exact progress_begin he
          | _ => simp [Step.translates] at ht

/-- A batch is sent: the user is told so and the assistant is asked. An answer that is there at once
is written at once. -/
theorem sendBatch_cases (s : Session) (t : Translation) :
    ∃ s₁ : Session, s₁.agenda = s.agenda ∧ s₁.translating = s.translating ∧
      s₁.journal.queries = s.journal.queries ++ [t.query] ∧
      s₁.document.body = s.document.body ∧
      s.sendBatch t =
        if (s.answerTo t).delay = 0 then s₁.writeBatch t (s.answerTo t).result
        else s₁.arrange (s.answerTo t).delay (.write t (s.answerTo t).result) := by
  refine ⟨((s.notify .info ("Translating page to " ++ t.language ++ "... (" ++
    toString (t.batch * 100 / t.batches) ++ "%)")).ask t.query).2, rfl, rfl, rfl, rfl, ?_⟩
  rw [sendBatch]
  dsimp only
  by_cases h : (s.answerTo t).delay = 0
  · rw [if_pos h]
    exact if_pos (beq_iff_eq.2 h)
  · rw [if_neg h]
    exact if_neg fun h' => h (beq_iff_eq.1 h')

/-! ### What is under way -/

/-- Number of batches under way: sent, or about to be sent. -/
def pending (s : Session) : Nat := s.agenda.countP (·.step.batch?.isSome)

/-- At most one batch is under way, and only during a translation. It is a part of the page `origin`
and, once it has been sent, the assistant has been asked for it. -/
structure Attributed (origin : Element) (s : Session) : Prop where
  single : s.pending ≤ if s.translating then 1 else 0
  part : ∀ e ∈ s.agenda, ∀ t, e.step.batch? = some t → t.PartOf origin
  asked : ∀ e ∈ s.agenda, ∀ t result, e.step = .write t result → t.query ∈ s.journal.queries

variable {origin : Element} {s s' : Session}

theorem batch?_eq_none (h : s.pending = 0) {e : Entry} (he : e ∈ s.agenda) :
    e.step.batch? = none := by
  simpa using List.countP_eq_zero.1 h e he

theorem attributed_of_pending_eq_zero (h : s.pending = 0) : Attributed origin s where
  single := by rw [h]; exact Nat.zero_le _
  part e he t ht := by simp [batch?_eq_none h he] at ht
  asked e he t result ht := by
    have none := batch?_eq_none h he
    rw [ht] at none
    simp [Step.batch?] at none

theorem Attributed.arrange (hs : Attributed origin s) (delay : Nat) {step : Step}
    (h : step.batch? = none) : Attributed origin (s.arrange delay step) where
  single := by
    have single := hs.single
    rw [pending] at single ⊢
    rw [Session.arrange, List.countP_append]
    simpa [h] using single
  part e he t ht := by
    rcases List.mem_append.1 he with before | new
    · exact hs.part e before t ht
    · simp [List.mem_singleton.1 new, h] at ht
  asked e he t result ht := by
    rcases List.mem_append.1 he with before | new
    · exact hs.asked e before t result ht
    · rw [List.mem_singleton.1 new] at ht
      rw [show step = .write t result from ht] at h
      simp [Step.batch?] at h

theorem attributed_arrange (none : s.pending = 0) (on : s.translating) (delay : Nat)
    {step : Step} {t : Translation} (hstep : step.batch? = some t) (part : t.PartOf origin)
    (asked : t.query ∈ s.journal.queries) : Attributed origin (s.arrange delay step) where
  single := by
    have before := none
    rw [pending] at before ⊢
    rw [arrange, List.countP_append, before, if_pos on]
    simp [hstep]
  part e he t' ht' := by
    rcases List.mem_append.1 he with before | new
    · simp [batch?_eq_none none before] at ht'
    · rw [List.mem_singleton.1 new, hstep] at ht'
      exact Option.some.inj ht' ▸ part
  asked e he t' result ht' := by
    rcases List.mem_append.1 he with before | new
    · have other := batch?_eq_none none before
      rw [ht'] at other
      simp [Step.batch?] at other
    · rw [List.mem_singleton.1 new] at ht'
      rw [show step = .write t' result from ht'] at hstep
      exact Option.some.inj hstep ▸ asked

theorem attributed_finishTranslation (none : s.pending = 0) (language : String)
    (result : Except Failure Nat) : Attributed origin (s.finishTranslation language result) := by
  have same : (s.finishTranslation language result).agenda = s.agenda := by
    cases result <;> rfl
  apply attributed_of_pending_eq_zero
  rw [pending, same]
  exact none

theorem attributed_writeBatch (none : s.pending = 0) (on : s.translating)
    {t : Translation} (part : t.PartOf origin) (asked : t.query ∈ s.journal.queries)
    (result : Except AssistantError String) : Attributed origin (s.writeBatch t result) := by
  cases result with
  | error e => exact attributed_finishTranslation none t.language (.error (.ofAssistant e))
  | ok reply =>
      rw [writeBatch]
      generalize (readBlocks reply).foldl (writeBlock t.sent) (t.written, s.document) = r
      obtain ⟨n, d⟩ := r
      dsimp only
      split
      · exact attributed_finishTranslation (s := { s with document := d }) none _ _
      · exact attributed_arrange (s := { s with document := d }) none on batchPause rfl part asked

theorem attributed_sendBatch (none : s.pending = 0) (on : s.translating)
    {t : Translation} (part : t.PartOf origin) : Attributed origin (s.sendBatch t) := by
  obtain ⟨s₁, agenda, translating, queries, -, sends⟩ := sendBatch_cases s t
  have asked : t.query ∈ s₁.journal.queries := by simp [queries]
  have none₁ : s₁.pending = 0 := by rw [pending, agenda, ← pending, none]
  have on₁ : s₁.translating := by rw [translating, on]
  rw [sends]
  split
  · exact attributed_writeBatch none₁ on₁ part asked _
  · exact attributed_arrange none₁ on₁ _ rfl part asked

theorem pending_eraseIdx {i : Nat} {e : Entry} (he : s.agenda[i]? = some e) :
    ({ s with agenda := s.agenda.eraseIdx i } : Session).pending +
      (if e.step.batch?.isSome then 1 else 0) = s.pending := by
  rw [pending, pending]
  exact countP_eraseIdx_add he _

theorem Attributed.of_sublist (hs : Attributed origin s)
    (translating : s'.translating = s.translating)
    (agenda : (s'.agenda.filter (·.step.translates)).Sublist
      (s.agenda.filter (·.step.translates)))
    (asked : s.journal.queries <+: s'.journal.queries) : Attributed origin s' := by
  have among : ∀ e ∈ s'.agenda, e.step.batch?.isSome → e ∈ s.agenda := by
    intro e he ht
    have mem := agenda.subset (List.mem_filter.2 ⟨he, Step.translates_of_batch? ht⟩)
    exact (List.mem_filter.1 mem).1
  refine ⟨?_, fun e he t ht => ?_, fun e he t result ht => ?_⟩
  · -- every batch is a step of a translation, so they are counted among these alone
    have within : ∀ s : Session, s.pending =
        (s.agenda.filter (·.step.translates)).countP (·.step.batch?.isSome) := by
      intro s
      rw [List.countP_filter, pending]
      refine List.countP_congr fun e _ => ?_
      have := @Step.translates_of_batch? e.step
      simp only [Bool.and_eq_true]
      exact ⟨fun h => ⟨h, this h⟩, fun h => h.1⟩
    rw [translating, within]
    refine Nat.le_trans agenda.countP_le ?_
    rw [← within]
    exact hs.single
  · exact hs.part e (among e he (by rw [ht]; rfl)) t ht
  · exact asked.subset (hs.asked e (among e he (by rw [ht]; rfl)) t result ht)

/-- What belongs to no translation leaves the batch alone that is under way. -/
theorem Attributed.calm (hs : Attributed origin s) (h : Calm s s') : Attributed origin s' :=
  hs.of_sublist h.translating h.translations h.asked

theorem pending_of_begins {x : Happening} (hs : Attributed origin s) (h : s.begins x) :
    s.pending = 0 := by
  have off : s.translating = false := by
    cases x with
    | step i =>
        rw [begins] at h
        split at h
        · simp_all
        · simp at h
    | _ => simp [begins] at h
  have single := hs.single
  rw [off] at single
  exact Nat.le_zero.1 single

/-- The batch that a step goes on with is the only one under way. -/
theorem Attributed.alone {i : Nat} {e : Entry} (hs : Attributed origin s)
    (he : s.agenda[i]? = some e) (h : e.step.batch?.isSome) :
    ({ s with agenda := s.agenda.eraseIdx i } : Session).pending = 0 ∧ s.translating := by
  have rest := pending_eraseIdx he
  have single := hs.single
  rw [if_pos h] at rest
  split at single
  · rename_i on
    exact ⟨by omega, on⟩
  · omega

theorem Attributed.progress {x : Happening} (hs : Attributed origin s) (h : Progress s x s') :
    Attributed (if s.begins x then s.document.body else origin) s' := by
  have erased : ∀ i, Attributed origin { s with agenda := s.agenda.eraseIdx i } := fun i =>
    hs.of_sublist rfl ((List.eraseIdx_sublist s.agenda i).filter _) List.prefix_rfl
  have none_left : ∀ {i e}, s.agenda[i]? = some e → s.pending = 0 →
      ({ s with agenda := s.agenda.eraseIdx i } : Session).pending = 0 := by
    intro i e he none
    have rest := pending_eraseIdx he
    omega
  cases h with
  | asked m task _ => exact hs.arrange 0 rfl
  | refused i due language level message he h =>
      rw [h]
      exact (erased i).calm (Calm.of_quiet (quiet_notify _ _ _))
  | futile i due language message failure he h _ =>
      refine attributed_finishTranslation ?_ language _
      exact none_left he (pending_of_begins hs h)
  | began i due language message t he h ht =>
      rw [h]
      refine attributed_sendBatch ?_ rfl (Translation.partOf_of_first? ht)
      exact none_left he (pending_of_begins hs h)
  | sent i due t t' he ht =>
      obtain ⟨none, on⟩ := hs.alone he rfl
      have part := hs.part _ (List.mem_of_getElem? he) t rfl
      rw [begins_eq_false_of_batch? he rfl]
      exact attributed_sendBatch none on (part.next ht)
  | ended i due t he _ =>
      rw [begins_eq_false_of_batch? he rfl]
      exact erased i
  | wrote i due t result he =>
      obtain ⟨none, on⟩ := hs.alone he rfl
      have part := hs.part _ (List.mem_of_getElem? he) t rfl
      have asked := hs.asked _ (List.mem_of_getElem? he) t result rfl
      rw [begins_eq_false_of_batch? he rfl]
      exact attributed_writeBatch none on part asked result

/-! ### What is written -/

def replied (t : Translation) (result : Except AssistantError String) :
    Option (Translation × String) :=
  match result with
  | .ok reply => some (t, reply)
  | .error _ => none

def repliedAtOnce (s : Session) (t : Translation) : Option (Translation × String) :=
  if (s.answerTo t).delay = 0 then replied t (s.answerTo t).result else none

/-- The batch whose reply is written to the page, and the reply. -/
def written? (s : Session) : Happening → Option (Translation × String)
  | .step i =>
    match s.agenda[i]? with
    | some ⟨_, .write t result⟩ => replied t result
    | some ⟨_, .send t⟩ => t.next?.bind s.repliedAtOnce
    | some ⟨_, .begin (.translate language)⟩ =>
      if s.begins (.step i) then
        (Translation.first? language s.document.body).bind s.repliedAtOnce
      else none
    | _ => none
  | _ => none

theorem body_sendBatch (s : Session) (t : Translation) :
    (s.sendBatch t).document.body =
      match s.repliedAtOnce t with
      | some (t, reply) => withReply t.sent reply s.document.body
      | none => s.document.body := by
  obtain ⟨s₁, -, -, -, body, sends⟩ := sendBatch_cases s t
  rw [sends, repliedAtOnce]
  split
  · rw [body_writeBatch, body]
    cases (s.answerTo t).result <;> rfl
  · exact body

/-- A translation changes no text of the page but by writing the reply to a batch. -/
theorem body_happen {x : Happening} (translates : x.translates s) :
    (s.happen x).document.body =
      match s.written? x with
      | some (t, reply) => withReply t.sent reply s.document.body
      | none => s.document.body := by
  have progress := progress_happen translates
  generalize s.happen x = s' at progress
  cases progress with
  | asked m task _ => rfl
  | refused i due language level message he h =>
      simp only [written?, he, h]
      rfl
  | futile i due language message failure he h ht =>
      simp only [written?, he, h, ht]
      rfl
  | began i due language message t he h ht =>
      simp only [written?, he, h, ht]
      exact body_sendBatch _ t
  | sent i due t t' he ht =>
      simp only [written?, he, ht]
      exact body_sendBatch _ t'
  | ended i due t he ht =>
      simp only [written?, he, ht]
      rfl
  | wrote i due t result he =>
      simp only [written?, he]
      rw [body_writeBatch]
      cases result <;> rfl

theorem translates_of_written {x : Happening} (h : (s.written? x).isSome) : x.translates s := by
  cases x with
  | step i =>
      rw [written?] at h
      rw [Happening.translates]
      split at h <;> simp_all [Step.translates]
  | _ => simp [written?] at h

theorem eq_of_replied {t t' : Translation} {result : Except AssistantError String}
    {reply : String} (h : replied t result = some (t', reply)) : t' = t := by
  cases result with
  | error e => simp [replied] at h
  | ok r => exact (Prod.mk.inj (Option.some.inj h)).1.symm

theorem eq_of_repliedAtOnce {t t' : Translation} {reply : String}
    (h : s.repliedAtOnce t = some (t', reply)) : t' = t := by
  rw [repliedAtOnce] at h
  split at h
  · exact eq_of_replied h
  · simp at h

theorem query_mem_sendBatch (s : Session) (t : Translation) :
    t.query ∈ (s.sendBatch t).journal.queries := by
  obtain ⟨s₁, -, -, queries, -, sends⟩ := sendBatch_cases s t
  have asked : t.query ∈ s₁.journal.queries := by simp [queries]
  rw [sends]
  split
  · exact (aside_writeBatch s₁ t _).asked.subset asked
  · exact asked

/-- A reply that is written is one to a batch that the assistant was asked for. -/
theorem Attributed.written {x : Happening} {t : Translation} {reply : String}
    (hs : Attributed origin s) (h : s.written? x = some (t, reply)) :
    t.PartOf (if s.begins x then s.document.body else origin) ∧
      t.query ∈ (s.happen x).journal.queries := by
  have progress := progress_happen (translates_of_written (by rw [h]; rfl))
  generalize s.happen x = s' at progress
  cases progress with
  | asked m task _ => simp [written?] at h
  | refused i due language level message he begins => simp [written?, he, begins] at h
  | futile i due language message failure he begins ht => simp [written?, he, begins, ht] at h
  | began i due language message t' he begins ht =>
      simp only [written?, he, begins, ht] at h
      obtain rfl := eq_of_repliedAtOnce h
      rw [begins]
      exact ⟨Translation.partOf_of_first? ht, query_mem_sendBatch _ t⟩
  | sent i due t₀ t' he ht =>
      simp only [written?, he, ht] at h
      obtain rfl := eq_of_repliedAtOnce h
      rw [begins_eq_false_of_batch? he rfl]
      exact ⟨(hs.part _ (List.mem_of_getElem? he) t₀ rfl).next ht, query_mem_sendBatch _ t⟩
  | ended i due t' he ht => simp [written?, he, ht] at h
  | wrote i due t' result he =>
      simp only [written?, he] at h
      obtain rfl := eq_of_replied h
      have asked := hs.asked _ (List.mem_of_getElem? he) t result rfl
      rw [begins_eq_false_of_batch? he rfl]
      exact ⟨hs.part _ (List.mem_of_getElem? he) t rfl,
        (aside_writeBatch _ t result).asked.subset asked⟩

end Session

end PageAid
