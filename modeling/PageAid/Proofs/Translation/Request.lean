import Mathlib.Logic.Relation
import PageAid.Proofs.Translation.Course

/-!
A request for a translation, as far as it has come, and the single steps in which it goes on. Every
step reads or changes the page once, so that between any two of them other requests may take theirs.
What the page carries out at once for an entry of its agenda is a run of such steps up to the next
wait (`carried_perform`), and every request comes to its end (`ends`).
-/

namespace PageAid

open Assistant Session

/-- A request for a translation, by what it does next. -/
inductive Translation.Request where
  /-- It has come, and takes the flag if it can. -/
  | waiting (language : String)
  /-- It has the flag, and collects the texts of the page. -/
  | begun (language : String)
  | sending (t : Translation)
  | asking (t : Translation)
  | awaiting (t : Translation) (result : Except AssistantError String)
  /-- It gives the flag back. -/
  | ending (language : String) (result : Except Failure Nat)
  | telling (n : Notice)
  | done

namespace Session

def tell (s : Session) (n : Notice) : Session := s.notify n.level n.message

def inProgress : Notice := ⟨.info, "Translation already in progress..."⟩

def unconfigured : Notice := ⟨.error, Failure.configuration.message⟩

end Session

namespace Translation.Request

/-- The request has taken the flag and not yet given it back. -/
def within : Request → Bool
  | waiting _ | telling _ | done => false
  | _ => true

def advance (s : Session) : Request → Session × Request
  | waiting language =>
    if !s.platform.backend.hasKey then (s, telling unconfigured)
    else if s.translating then (s, telling inProgress)
    else ({ s with translating := true }, begun language)
  | begun language =>
    (s.tell (beginNotice language),
      match Translation.first? language s.document.body with
      | none =>
        ending language (.error (.contentNotFound "No translatable text found on this page."))
      | some t => sending t)
  | sending t => (s.tell (progressNotice t.language t.batches t.batch), asking t)
  | asking t =>
    let (answer, s) := s.ask t.query
    (s, awaiting t answer.result)
  | awaiting t (.error e) => (s, ending t.language (.error (.ofAssistant e)))
  | awaiting t (.ok reply) =>
    let (written, document) := (readBlocks reply).foldl (writeBlock t.sent) (t.written, s.document)
    ({ s with document := document },
      match { t with written := written }.next? with
      | none => ending t.language (.ok written)
      | some t => sending t)
  | ending language result =>
    ({ s with translating := false }, telling (resultNotice language result))
  | telling n => (s.tell n, done)
  | done => (s, done)

theorem advance_waiting (s : Session) (language : String) :
    s.platform.backend.hasKey = false ∧
        advance s (waiting language) = (s, telling unconfigured) ∨
      s.platform.backend.hasKey ∧ s.translating ∧
        advance s (waiting language) = (s, telling inProgress) ∨
      s.platform.backend.hasKey ∧ s.translating = false ∧
        advance s (waiting language) = ({ s with translating := true }, begun language) := by
  cases key : s.platform.backend.hasKey with
  | false => exact .inl ⟨rfl, by simp [advance, key]⟩
  | true =>
      cases on : s.translating with
      | true => exact .inr (.inl ⟨rfl, rfl, by simp [advance, key, on]⟩)
      | false => exact .inr (.inr ⟨rfl, rfl, by simp [advance, key, on]⟩)

/-! ### The steps that the page carries out at once -/

/-- The entry of the agenda that a request waits for. -/
inductive Stands : Step → Request → Prop where
  | begin (language : String) : Stands (.begin (.translate language)) (waiting language)
  | write (t : Translation) (result : Except AssistantError String) :
      Stands (.write t result) (awaiting t result)
  | send {t t' : Translation} (h : t.next? = some t') : Stands (.send t) (sending t')

def Steps : Session × Request → Session × Request → Prop :=
  Relation.ReflTransGen fun a b => advance a.1 a.2 = b

/-- Some steps of the request lead to the page, on whose agenda the request stands if it is not at
its end. -/
def Carried (s : Session) (r : Request) (after : Session) : Prop :=
  ∃ s' r', Steps (s, r) (s', r') ∧
    (r' = done ∧ after = s' ∨ ∃ delay step, Stands step r' ∧ after = s'.arrange delay step)

variable {s s' after : Session} {r r' : Request}

theorem Carried.head (h : advance s r = (s', r')) (rest : Carried s' r' after) :
    Carried s r after := by
  obtain ⟨s'', r'', steps, stop⟩ := rest
  exact ⟨s'', r'', .head h steps, stop⟩

theorem carried_done (s : Session) : Carried s done s := ⟨s, done, .refl, .inl ⟨rfl, rfl⟩⟩

theorem carried_arrange (s : Session) (delay : Nat) {step : Step} (h : Stands step r) :
    Carried s r (s.arrange delay step) :=
  ⟨s, r, .refl, .inr ⟨delay, step, h, rfl⟩⟩

theorem carried_telling (s : Session) (n : Notice) :
    Carried s (telling n) (s.notify n.level n.message) :=
  .head rfl (carried_done _)

theorem carried_finishTranslation (s : Session) (language : String)
    (result : Except Failure Nat) :
    Carried s (ending language result) (s.finishTranslation language result) := by
  cases result with
  | ok n => exact .head rfl (carried_telling _ (resultNotice language (.ok n)))
  | error e => exact .head rfl (carried_telling _ (resultNotice language (.error e)))

theorem carried_writeBatch (s : Session) (t : Translation)
    (result : Except AssistantError String) :
    Carried s (awaiting t result) (s.writeBatch t result) := by
  cases result with
  | error e => exact .head rfl (carried_finishTranslation s t.language _)
  | ok reply =>
      refine .head rfl ?_
      rw [writeBatch]
      generalize (readBlocks reply).foldl (writeBlock t.sent) (t.written, s.document) = w
      obtain ⟨written, d⟩ := w
      obtain ⟨language, sent, left, batch, batches, before⟩ := t
      cases left with
      | nil => exact carried_finishTranslation _ language (.ok written)
      | cons next left => exact carried_arrange _ batchPause (.send rfl)

theorem carried_sendBatch (s : Session) (t : Translation) :
    Carried s (sending t) (s.sendBatch t) := by
  refine .head rfl (.head rfl ?_)
  rw [sendBatch]
  dsimp only
  split
  · exact carried_writeBatch _ t _
  · exact carried_arrange _ _ (.write t _)

theorem carried_begin_translate (s : Session) (language : String) :
    Carried s (waiting language) (s.begin (.translate language)) := by
  rw [Session.begin]
  obtain ⟨none, refused⟩ | ⟨key, on, turned⟩ | ⟨key, free, taken⟩ := advance_waiting s language
  · rw [if_pos (by simp [none])]
    exact .head refused (carried_telling s unconfigured)
  · rw [if_neg (by simp [key])]
    rw [translate_eq, if_pos on]
    exact .head turned (carried_telling s inProgress)
  · rw [if_neg (by simp [key])]
    rw [translate_eq, if_neg (by simp [free])]
    refine .head taken (.head rfl ?_)
    cases Translation.first? language s.document.body with
    | none => exact carried_finishTranslation _ language _
    | some t => exact carried_sendBatch _ t

/-- An entry of a translation is carried out as its request goes on until it has to wait. -/
theorem carried_perform {e : Entry} (h : Stands e.step r) : Carried s r (s.perform e) := by
  obtain ⟨due, step⟩ := e
  cases h with
  | begin language => exact carried_begin_translate s language
  | write t result => exact carried_writeBatch s t result
  | @send t t' next =>
      show Carried s _ (s.sendNext t)
      rw [sendNext_eq, next]
      exact carried_sendBatch s t'

/-! ### The end of a request -/

def Ends (s : Session) (r : Request) : Prop := ∃ s', Steps (s, r) (s', done)

theorem Ends.head (h : advance s r = (s', r')) (rest : Ends s' r') : Ends s r := by
  obtain ⟨s'', steps⟩ := rest
  exact ⟨s'', .head h steps⟩

theorem ends_telling (s : Session) (n : Notice) : Ends s (telling n) := .head rfl ⟨_, .refl⟩

theorem ends_ending (s : Session) (language : String) (result : Except Failure Nat) :
    Ends s (ending language result) :=
  .head rfl (ends_telling _ _)

theorem advance_awaiting (s : Session) (t : Translation) (result : Except AssistantError String) :
    (∃ s' total, advance s (awaiting t result) = (s', ending t.language total)) ∨
      ∃ s' t', t'.left.length < t.left.length ∧
        advance s (awaiting t result) = (s', sending t') := by
  cases result with
  | error e => exact .inl ⟨s, .error (.ofAssistant e), rfl⟩
  | ok reply =>
      rw [advance]
      generalize (readBlocks reply).foldl (writeBlock t.sent) (t.written, s.document) = w
      obtain ⟨written, d⟩ := w
      obtain ⟨language, sent, left, batch, batches, before⟩ := t
      cases left with
      | nil => exact .inl ⟨{ s with document := d }, .ok written, rfl⟩
      | cons next left =>
          exact .inr ⟨{ s with document := d },
            ⟨language, next, left, batch + 1, batches, written⟩, Nat.lt_succ_self _, rfl⟩

theorem ends_awaiting (s : Session) (t : Translation) (result : Except AssistantError String) :
    Ends s (awaiting t result) := by
  -- by recursion on the number of batches left
  obtain ⟨s', total, last⟩ | ⟨s', t', fewer, next⟩ := advance_awaiting s t result
  · exact .head last (ends_ending s' t.language total)
  · exact .head next (.head rfl (.head rfl (ends_awaiting _ t' _)))
termination_by t.left.length

theorem ends_sending (s : Session) (t : Translation) : Ends s (sending t) :=
  .head rfl (.head rfl (ends_awaiting _ t _))

theorem ends_begun (s : Session) (language : String) : Ends s (begun language) := by
  refine .head rfl ?_
  cases Translation.first? language s.document.body with
  | none => exact ends_ending _ language _
  | some t => exact ends_sending _ t

/-- However far a request has come, it comes to its end, and so does not keep the flag. -/
theorem ends (s : Session) (r : Request) : Ends s r := by
  cases r with
  | waiting language =>
      obtain ⟨-, refused⟩ | ⟨-, -, turned⟩ | ⟨-, -, taken⟩ := advance_waiting s language
      · exact .head refused (ends_telling s unconfigured)
      · exact .head turned (ends_telling s inProgress)
      · exact .head taken (ends_begun _ language)
  | begun language => exact ends_begun s language
  | sending t => exact ends_sending s t
  | asking t => exact .head rfl (ends_awaiting _ t _)
  | awaiting t result => exact ends_awaiting s t result
  | ending language result => exact ends_ending s language result
  | telling n => exact ends_telling s n
  | done => exact ⟨s, .refl⟩

end Translation.Request

end PageAid
