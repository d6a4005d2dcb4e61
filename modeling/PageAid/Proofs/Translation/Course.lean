import PageAid.Proofs.Session.Drain
import PageAid.Proofs.Translation.Chunk
import PageAid.Proofs.Translation.Progress

/-!
A translation from its beginning to its end, when nothing comes between. Its chunks are sent one
after another until all are answered or the assistant fails; `Stage` says how far it has come, and
`drain_translate` what is left of it in the end.
-/

namespace PageAid.Session

open Assistant

/-! ### How far a translation has come -/

def beginNotice (language : String) : Notice :=
  ⟨.info, "Translating page to " ++ language ++ "... This may take a moment."⟩

def progressNotice (language : String) (chunks j : Nat) : Notice :=
  ⟨.info, "Translating page to " ++ language ++ "... (" ++ toString (j * 100 / chunks) ++ "%)"⟩

def resultNotice (language : String) : Except Failure Nat → Notice
  | .ok n => ⟨.success,
      "Page translated to " ++ language ++ "! (" ++ toString n ++ " elements translated)"⟩
  | .error e => ⟨.error, "Translation failed: " ++ e.message⟩

/-- What has been told once so many chunks were sent. -/
def noticesAfter (s : Session) (language : String) (sent : Nat) : List Notice :=
  s.document.notices ++ beginNotice language ::
    (List.range sent).map (progressNotice language (chunkCount (runs s.document.body)))

def queriesAfter (s : Session) (language : String) (sent : Nat) : List Query :=
  s.journal.queries ++ (List.range sent).map (s.chunkQuery language)

def Replied (s : Session) (language : String) (k : Nat) : Prop :=
  ∀ j < k, ∃ reply, s.chunkAnswer language j = .ok reply

/-- From `s` on, so many chunks were sent and the replies to so many written, and nothing is on the
agenda. -/
structure Stage (s : Session) (language : String) (sent written : Nat) (s' : Session) : Prop where
  idle : s'.agenda = []
  translating : s'.translating = true
  platform : s'.platform = s.platform
  queries : s'.journal.queries = s.queriesAfter language sent
  body : s'.document.body = s.pageAfter language written
  notices : s'.document.notices = s.noticesAfter language sent

/-- How a translation ends, by the number of chunks that were answered. -/
inductive Ending (s : Session) (language : String) : Nat → Except Failure Nat → Prop where
  | empty (h : runs s.document.body = []) :
      Ending s language 0
        (.error (.contentNotFound "No translatable text found on this page."))
  | translated (h : runs s.document.body ≠ []) :
      Ending s language (chunkCount (runs s.document.body))
        (.ok (s.blocksAfter language (chunkCount (runs s.document.body))))
  | failed (j : Nat) (e : AssistantError) (h : j < chunkCount (runs s.document.body))
      (he : s.chunkAnswer language j = .error e) :
      Ending s language j (.error (.ofAssistant e))

structure Ended (s : Session) (language : String) (s' : Session) (answered : Nat)
    (result : Except Failure Nat) : Prop where
  ending : s.Ending language answered result
  replies : s.Replied language answered
  idle : s'.agenda = []
  translating : s'.translating = false
  queries : s'.journal.queries =
    s.queriesAfter language (min (answered + 1) (chunkCount (runs s.document.body)))
  body : s'.document.body = s.pageAfter language answered
  notices : s'.document.notices =
    s.noticesAfter language (min (answered + 1) (chunkCount (runs s.document.body))) ++
      [resultNotice language result]

variable {s s' : Session} {language : String} {k : Nat}

theorem replied_zero : s.Replied language 0 := fun j hj => absurd hj (Nat.not_lt_zero j)

theorem Replied.succ {reply : String} (h : s.Replied language k)
    (answer : s.chunkAnswer language k = .ok reply) : s.Replied language (k + 1) := by
  intro j hj
  rcases Nat.lt_succ_iff_lt_or_eq.1 hj with before | rfl
  · exact h j before
  · exact ⟨reply, answer⟩

def batchOf (s : Session) (language : String) (k : Nat) : Translation :=
  { language := language
    sent := chunk (runs s.document.body) k
    left := (batches (runs s.document.body)).drop (k + 1)
    batch := k
    batches := chunkCount (runs s.document.body)
    written := s.blocksAfter language k }

theorem length_left_batchOf :
    (s.batchOf language k).left.length = chunkCount (runs s.document.body) - (k + 1) := by
  simp [batchOf, batches_eq]

theorem left_batchOf (h : k + 1 < chunkCount (runs s.document.body)) :
    (s.batchOf language k).left =
      chunk (runs s.document.body) (k + 1) :: (s.batchOf language (k + 1)).left := by
  have within : k + 1 < (batches (runs s.document.body)).length := by
    simpa [batches_eq] using h
  rw [batchOf, List.drop_eq_getElem_cons within]
  simp [batchOf, batches_eq]

theorem first?_body (s : Session) (language : String) :
    Translation.first? language s.document.body =
      if runs s.document.body = [] then none else some (s.batchOf language 0) := by
  have all := batches_eq (runs s.document.body)
  rw [Translation.first?]
  cases parts : batches (runs s.document.body) with
  | nil =>
      rw [parts] at all
      have no_chunk : chunkCount (runs s.document.body) = 0 := by
        simpa using congrArg List.length all.symm
      rw [if_pos (chunkCount_eq_zero_iff.1 no_chunk)]
  | cons sent left =>
      rw [parts] at all
      have chunks : chunkCount (runs s.document.body) = left.length + 1 := by
        simpa using congrArg List.length all.symm
      have some_run : runs s.document.body ≠ [] := fun none => by
        rw [chunkCount_eq_zero_iff.2 none] at chunks
        omega
      rw [chunks, List.range_succ_eq_map, List.map_cons] at all
      obtain ⟨rfl, -⟩ := List.cons_eq_cons.1 all
      rw [if_neg some_run]
      simp [batchOf, parts, chunks, blocksAfter]

theorem next?_batchOf (h : k + 1 < chunkCount (runs s.document.body)) :
    { s.batchOf language k with written := s.blocksAfter language (k + 1) }.next? =
      some (s.batchOf language (k + 1)) := by
  simp only [Translation.next?, left_batchOf h]
  rfl

/-! ### Steps -/

theorem ended_finishTranslation {sent : Nat} {result : Except Failure Nat}
    (hs : s.Stage language sent k s') (ending : s.Ending language k result)
    (replies : s.Replied language k)
    (all : sent = min (k + 1) (chunkCount (runs s.document.body))) :
    s.Ended language (s'.finishTranslation language result) k result := by
  subst all
  have told := hs.notices
  cases result with
  | ok n => exact ⟨ending, replies, hs.idle, rfl, hs.queries, hs.body, congrArg (· ++ [_]) told⟩
  | error e => exact ⟨ending, replies, hs.idle, rfl, hs.queries, hs.body, congrArg (· ++ [_]) told⟩

/-- The page comes to the end of the translation, over so many entries of the agenda at most. -/
def Completes (s : Session) (language : String) (bound : Nat) (s' : Session) : Prop :=
  s'.load s'.clock ≤ bound ∧ ∃ s'' answered result,
    Leads s' s'' ∧ s.Ended language s'' answered result

theorem completes_of_ended {answered bound : Nat} {result : Except Failure Nat}
    (h : s.Ended language s' answered result) : s.Completes language bound s' :=
  ⟨by rw [load_of_none h.idle]; exact Nat.zero_le _, s', answered, result, .ended h.idle, h⟩

theorem Completes.mono {bound bound' : Nat} (h : s.Completes language bound s')
    (le : bound ≤ bound') : s.Completes language bound' s' :=
  ⟨Nat.le_trans h.1 le, h.2⟩

theorem completes_arrange {delay bound : Nat} {step : Step} (idle : s'.agenda = [])
    (other : step.isTick = false) (later : 0 < delay)
    (size : Step.size s'.document.body.descendants.length step = bound + 1)
    (rest : s.Completes language bound
      ((s'.arrange delay step).turn ⟨s'.clock + delay, step⟩)) :
    s.Completes language (bound + 1) (s'.arrange delay step) := by
  have single : (s'.arrange delay step).agenda = [⟨s'.clock + delay, step⟩] := by
    rw [arrange, idle]
    rfl
  have load : (s'.arrange delay step).load (s'.arrange delay step).clock = bound + 1 :=
    (load_of_single single other _).trans size
  obtain ⟨within, s'', answered, result, leads, ended⟩ := rest
  refine ⟨Nat.le_of_eq load, s'', answered, result, ?_, ended⟩
  refine .waited single other ?_ ?_ leads
  · show s'.clock < s'.clock + delay
    omega
  · rw [load]
    omega

theorem stage_written {reply : String} (hs : s.Stage language (k + 1) k s')
    (hk : s.chunkAnswer language k = .ok reply) :
    ∃ d, (readBlocks reply).foldl (writeBlock (s.batchOf language k).sent)
        ((s.batchOf language k).written, s'.document) = (s.blocksAfter language (k + 1), d) ∧
      s.Stage language (k + 1) (k + 1) { s' with document := d } := by
  have there : ∀ r ∈ (s.batchOf language k).sent,
      (s'.document.body.at? r.path).isSome := by
    intro r hr
    have origin := text_of_mem_runs (List.mem_of_mem_drop (List.mem_of_mem_take hr))
    rw [hs.body, Element.isSome_at?_of_outline_eq (outline_pageAfter s language k),
      ← Element.isSome_markupAt?, ← Option.isSome_map, origin]
    rfl
  have count := fst_foldl_writeBlock (readBlocks reply)
    ((s.batchOf language k).written, s'.document) there
  have body := body_foldl_writeBlock (s.batchOf language k).sent (readBlocks reply)
    ((s.batchOf language k).written, s'.document)
  obtain ⟨rest, -⟩ := snd_foldl_writeBlock (s.batchOf language k).sent (readBlocks reply)
    ((s.batchOf language k).written, s'.document)
  generalize (readBlocks reply).foldl (writeBlock (s.batchOf language k).sent)
    ((s.batchOf language k).written, s'.document) = r at count body rest
  obtain ⟨n, d⟩ := r
  dsimp only at count body rest
  refine ⟨d, ?_, ⟨hs.idle, hs.translating, hs.platform, hs.queries, ?_, ?_⟩⟩
  · rw [blocksAfter_succ hk, count]
    rfl
  · rw [pageAfter_succ hk, ← hs.body]
    exact body
  · rw [rest]
    exact hs.notices

theorem completes_last {bound : Nat} (written : s.Stage language (k + 1) (k + 1) s')
    (last : k + 1 = chunkCount (runs s.document.body)) (replies : s.Replied language (k + 1)) :
    s.Completes language bound
      (s'.finishTranslation language (.ok (s.blocksAfter language (k + 1)))) := by
  have some_runs : runs s.document.body ≠ [] := fun none => by
    rw [chunkCount_eq_zero_iff.2 none] at last
    omega
  have ending : s.Ending language _ _ := .translated some_runs
  rw [← last] at ending
  exact completes_of_ended (ended_finishTranslation written ending replies (by omega))

theorem completes_pause (written : s.Stage language (k + 1) (k + 1) s')
    (more : k + 1 < chunkCount (runs s.document.body))
    (next : ∀ {s'}, s.Stage language (k + 1) (k + 1) s' →
      s.Completes language (2 * (chunkCount (runs s.document.body) - (k + 2)) + 1)
        (s'.sendBatch (s.batchOf language (k + 1)))) :
    s.Completes language (2 * (chunkCount (runs s.document.body) - (k + 1)))
      (s'.arrange batchPause
        (.send { s.batchOf language k with written := s.blocksAfter language (k + 1) })) := by
  have size : 2 * (chunkCount (runs s.document.body) - (k + 1)) =
      2 * (chunkCount (runs s.document.body) - (k + 2)) + 1 + 1 := by omega
  rw [size]
  refine completes_arrange written.idle rfl (by decide) ?_ ?_
  · show 2 * (s.batchOf language k).left.length = _
    rw [length_left_batchOf, size]
  · rw [turn, perform]
    dsimp only
    rw [sendNext_eq, next?_batchOf more]
    exact next ⟨rfl, written.translating, written.platform, written.queries, written.body,
      written.notices⟩

/-- The answer to a chunk is there: the translation is at its end, or it goes on with the next
chunk. -/
theorem completes_writeBatch (hs : s.Stage language (k + 1) k s')
    (hk : k < chunkCount (runs s.document.body)) (replies : s.Replied language k)
    (next : ∀ {s'}, k + 1 < chunkCount (runs s.document.body) → s.Replied language (k + 1) →
      s.Stage language (k + 1) (k + 1) s' →
      s.Completes language (2 * (chunkCount (runs s.document.body) - (k + 2)) + 1)
        (s'.sendBatch (s.batchOf language (k + 1)))) :
    s.Completes language (2 * (chunkCount (runs s.document.body) - (k + 1)))
      (s'.writeBatch (s.batchOf language k) (s.chunkAnswer language k)) := by
  cases answer : s.chunkAnswer language k with
  | error e =>
      have all : k + 1 = min (k + 1) (chunkCount (runs s.document.body)) := by omega
      exact completes_of_ended (ended_finishTranslation hs (.failed k e hk answer) replies all)
  | ok reply =>
      obtain ⟨d, blocks, written⟩ := stage_written hs answer
      rw [writeBatch, blocks]
      dsimp only
      by_cases last : k + 1 = chunkCount (runs s.document.body)
      · have none_left : (s.batchOf language k).left.isEmpty = true := by
          rw [List.isEmpty_iff, ← List.length_eq_zero_iff, length_left_batchOf]
          omega
        rw [if_pos none_left]
        exact completes_last written last (replies.succ answer)
      · have more : k + 1 < chunkCount (runs s.document.body) := by omega
        have some_left : ¬ (s.batchOf language k).left.isEmpty = true := by
          rw [left_batchOf more]
          simp
        rw [if_neg some_left]
        exact completes_pause written more (next more (replies.succ answer))

theorem stage_sent (hs : s.Stage language k k s') :
    ∃ s₁ delay, s.Stage language (k + 1) k s₁ ∧ s'.sendBatch (s.batchOf language k) =
      if delay = 0 then s₁.writeBatch (s.batchOf language k) (s.chunkAnswer language k)
      else s₁.arrange delay (.write (s.batchOf language k) (s.chunkAnswer language k)) := by
  let told := s'.notify .info ("Translating page to " ++ language ++ "... (" ++
    toString (k * 100 / chunkCount (runs s.document.body)) ++ "%)")
  have number : s'.journal.queries.length = s.journal.queries.length + k := by
    simp [hs.queries, queriesAfter]
  have answer : (told.ask (s.chunkQuery language k)).1 =
      s.platform.backend.answer (s.journal.queries.length + k) (s.chunkQuery language k) := by
    show s'.platform.backend.answer s'.journal.queries.length _ = _
    rw [hs.platform, number]
  refine ⟨(told.ask (s.chunkQuery language k)).2, (told.ask (s.chunkQuery language k)).1.delay,
    ⟨hs.idle, hs.translating, hs.platform, ?_, hs.body, ?_⟩, ?_⟩
  · show s'.journal.queries ++ [s.chunkQuery language k] = _
    simp [hs.queries, queriesAfter, List.range_succ]
  · show s'.document.notices ++ [progressNotice language (chunkCount (runs s.document.body)) k] = _
    simp [hs.notices, noticesAfter, List.range_succ]
  · have result : s.chunkAnswer language k = (told.ask (s.chunkQuery language k)).1.result := by
      rw [answer, chunkAnswer]
    rw [result]
    by_cases atOnce : (told.ask (s.chunkQuery language k)).1.delay = 0
    · rw [if_pos atOnce]
      exact if_pos (beq_iff_eq.2 atOnce)
    · rw [if_neg atOnce]
      exact if_neg fun h => atOnce (beq_iff_eq.1 h)

/-- A chunk is sent, and after it those that are left. -/
theorem completes_sendBatch {k : Nat} {s' : Session} (hs : s.Stage language k k s')
    (hk : k < chunkCount (runs s.document.body)) (replies : s.Replied language k) :
    s.Completes language (2 * (chunkCount (runs s.document.body) - (k + 1)) + 1)
      (s'.sendBatch (s.batchOf language k)) := by
  -- by recursion on the number of chunks left
  have next : ∀ {s'}, k + 1 < chunkCount (runs s.document.body) → s.Replied language (k + 1) →
      s.Stage language (k + 1) (k + 1) s' →
      s.Completes language (2 * (chunkCount (runs s.document.body) - (k + 2)) + 1)
        (s'.sendBatch (s.batchOf language (k + 1))) :=
    fun more replies written => completes_sendBatch written more replies
  obtain ⟨s₁, delay, sent, sends⟩ := stage_sent hs
  rw [sends]
  split
  · exact (completes_writeBatch sent hk replies next).mono (Nat.le_succ _)
  · rename_i later
    refine completes_arrange sent.idle rfl (Nat.pos_of_ne_zero later) ?_ ?_
    · show 2 * (s.batchOf language k).left.length + 1 = _
      rw [length_left_batchOf]
    · exact completes_writeBatch ⟨rfl, sent.translating, sent.platform, sent.queries, sent.body,
        sent.notices⟩ hk replies next
termination_by chunkCount (runs s.document.body) - k

theorem completes_translate (language : String) (idle : s.agenda = [])
    (free : s.translating = false) :
    ∃ bound, s.Completes language bound (s.translate language) := by
  have start : s.Stage language 0 0
      (({ s with translating := true } : Session).notify .info
        ("Translating page to " ++ language ++ "... This may take a moment.")) := by
    refine ⟨idle, rfl, rfl, ?_, rfl, ?_⟩
    · simp [queriesAfter, notify, onPage]
    · simp [noticesAfter, beginNotice, notify, onPage, Document.notify]
  rw [translate_eq, if_neg (by simp [free]), first?_body]
  by_cases none : runs s.document.body = []
  · rw [if_pos none]
    refine ⟨0, completes_of_ended (ended_finishTranslation start (.empty none) replied_zero ?_)⟩
    rw [none]
    rfl
  · have some_chunk : 0 < chunkCount (runs s.document.body) :=
      Nat.pos_of_ne_zero (none ∘ chunkCount_eq_zero_iff.1)
    rw [if_neg none]
    exact ⟨_, completes_sendBatch start some_chunk replied_zero⟩

/-! ### The whole course -/

/-- A translation to which nothing comes in between. The texts of the page that are translated are
sent in document order, in chunks of twenty, until all chunks are answered or the assistant fails
at one. In the end a text of an answered chunk is the one that the reply has under its number, if
it has one, and no other text, nor anything else of the page, has changed. The user is told of the
beginning, of every chunk that is sent, and of the result. -/
theorem drain_translate (s : Session) (language : String) (idle : s.agenda = [])
    (free : s.translating = false) (key : s.platform.backend.hasKey) :
    let sent := runs s.document.body
    let after := (s.begin (.translate language)).drain
    (∀ r, r ∈ sent ↔ ∃ e, s.document.body.at? r.path = some e ∧ isTranslatable e.markup ∧
      r.text = e.text) ∧
    (sent.map (·.path)).Pairwise (· < ·) ∧
    ∃ answered result, s.Ending language answered result ∧
      (∀ j < answered, ∃ reply, s.chunkAnswer language j = .ok reply) ∧
      after.journal.queries = s.queriesAfter language (min (answered + 1) (chunkCount sent)) ∧
      after.document.body.outline = s.document.body.outline ∧
      (∀ j < answered, ∀ i r reply, (chunk sent j)[i]? = some r →
        s.chunkAnswer language j = .ok reply →
        after.document.body.textAt? r.path = some ((replyText? reply i).getD r.text)) ∧
      (∀ j, answered ≤ j → ∀ r ∈ chunk sent j,
        after.document.body.textAt? r.path = some r.text) ∧
      (∀ p, (∀ r ∈ sent, r.path ≠ p) →
        after.document.body.textAt? p = s.document.body.textAt? p) ∧
      after.document.notices =
        s.noticesAfter language (min (answered + 1) (chunkCount sent)) ++
          [resultNotice language result] ∧
      after.translating = false ∧ after.agenda = [] := by
  intro sent after
  have begins : s.begin (.translate language) = s.translate language := by
    simp [begin, key]
  obtain ⟨-, -, s', answered, result, leads, ended⟩ := completes_translate language
    idle free
  have last : after = s' := by
    show (s.begin (.translate language)).drain = s'
    rw [begins, leads.drain_eq]
  rw [last]
  refine ⟨fun _ => mem_runs_iff, pairwise_paths_runs s.document.body, answered, result,
    ended.ending, ended.replies, ended.queries, ?_, ?_, ?_, ?_, ended.notices, ended.translating,
    ended.idle⟩
  · rw [ended.body, outline_pageAfter]
  · intro j hj i r reply hr answer
    rw [ended.body, textAt?_pageAfter hj hr answer]
  · intro j hj r hr
    rw [ended.body, textAt?_pageAfter_of_forall_ne]
    · exact text_of_mem_runs (List.mem_of_mem_drop (List.mem_of_mem_take hr))
    · intro j' hj' r' hr' same
      obtain ⟨i, hr⟩ := List.mem_iff_getElem?.1 hr
      obtain ⟨i', hr'⟩ := List.mem_iff_getElem?.1 hr'
      obtain ⟨rfl, -⟩ := chunk_injective (nodup_paths_runs s.document.body) hr hr' same.symm
      omega
  · intro p untouched
    rw [ended.body, textAt?_pageAfter_of_forall_ne]
    exact fun j _ r hr => untouched r (List.mem_of_mem_drop (List.mem_of_mem_take hr))

/-- A page of a heading and twenty paragraphs, with an assistant that fails at the second query. -/
def chapter : Session :=
  let answers : Nat → Except AssistantError String
    | 0 => .ok "[0]:: Ein Kapitel\n[2]::\n[40]:: Nirgends"
    | _ => .error .emptyResponse
  let texts := (Element.new "h1").withText "A chapter" ::
    List.replicate 20 ((Element.new "p").withText "A paragraph")
  { platform := ⟨⟨true, fun n _ => ⟨100, answers n⟩⟩, fun _ => .error .missingKey, none⟩
    document := { body := (Element.new "body").withChildren texts } }

/-- The heading is translated; the second chunk, the last paragraph, is asked for in vain. -/
theorem drain_translate_of_failure :
    let after := (chapter.begin (.translate "German")).drain
    chapter.agenda = [] ∧ chapter.translating = false ∧ chapter.platform.backend.hasKey ∧
      after.journal.queries.length = 2 ∧
      after.document.body.textAt? [0] = some "Ein Kapitel" ∧
      after.document.body.textAt? [2] = some "A paragraph" ∧
      after.document.body.textAt? [20] = some "A paragraph" ∧
      after.translating = false := by
  intro after
  have chunks : chunkCount (runs chapter.document.body) = 2 := by decide +kernel
  have first : chapter.chunkAnswer "German" 0 =
      .ok "[0]:: Ein Kapitel\n[2]::\n[40]:: Nirgends" := rfl
  have second : chapter.chunkAnswer "German" 1 = .error .emptyResponse := rfl
  obtain ⟨-, -, answered, result, ending, replies, queries, -, translated, kept, -, -, free, -⟩ :=
    drain_translate chapter "German" rfl rfl rfl
  -- the first chunk is answered, and the second is not
  have one : answered = 1 := by
    rcases ending with none | - | ⟨j, e, within, failed⟩
    · rw [chunkCount_eq_zero_iff.2 none] at chunks
      exact absurd chunks (by decide)
    · obtain ⟨reply, answer⟩ := replies 1 (by omega)
      exact absurd (second.symm.trans answer) (by simp)
    · have notFirst : answered ≠ 0 := by
        rintro rfl
        exact absurd (first.symm.trans failed) (by simp)
      omega
  subst one
  have text : ∀ p r, (chunk (runs chapter.document.body) 0)[p]? = some r →
      after.document.body.textAt? r.path =
        some ((replyText? "[0]:: Ein Kapitel\n[2]::\n[40]:: Nirgends" p).getD r.text) :=
    fun p r hr => translated 0 Nat.one_pos p r _ hr first
  refine ⟨rfl, rfl, rfl, ?_, ?_, ?_, ?_, free⟩
  · rw [queries, chunks]
    rfl
  · exact (text 0 ⟨[0], "A chapter"⟩ (by decide +kernel)).trans (by decide +kernel)
  · exact (text 2 ⟨[2], "A paragraph"⟩ (by decide +kernel)).trans (by decide +kernel)
  · exact kept 1 (Nat.le_refl 1) ⟨[20], "A paragraph"⟩ (by decide +kernel)

end PageAid.Session
