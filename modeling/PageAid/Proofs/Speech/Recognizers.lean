import PageAid.Speech.Control

/-!
The life of a recognizer, read off the requests that were made to the platform. It is created once,
started as often as voice control likes while it is held, and stopped once, when it is let go of
(`Accounted`).
-/

namespace PageAid.Speech

namespace Recognition

def Created (r : Recognition) (n : Nat) : Prop := ∃ o, .created n o ∈ r.history

def stopsOf (r : Recognition) (n : Nat) : Nat := r.history.count (.stopped n)

/-- A recognizer was to be started again after it had been stopped, whether or not the platform
refused. -/
def StartedAgain (r : Recognition) (n : Nat) : Prop :=
  ∃ after before, r.history = after ++ .stopped n :: before ∧
    (.started n ∈ after ∨ .refused n ∈ after)

/-- The requests account for the recognizer that is held: it has not been stopped, every other one
has been, and for good. -/
structure Accounted (r : Recognition) (held : Option Nat) : Prop where
  numbered : ∀ n, r.Created n → n ≤ r.created
  created : ∀ n, held = some n → r.Created n
  stopped : ∀ n, r.Created n → r.stopsOf n = if held = some n then 0 else 1
  unborn : ∀ n, ¬ r.Created n → r.stopsOf n = 0
  finished : ∀ n, ¬ r.StartedAgain n

/-! ### One more request -/

def asked (r : Recognition) (q : Request) : Recognition := { r with history := q :: r.history }

theorem created_asked_iff {r : Recognition} {q : Request} {n : Nat} :
    (r.asked q).Created n ↔ (∃ o, q = .created n o) ∨ r.Created n := by
  simp only [Created, asked, List.mem_cons, exists_or]
  exact or_congr (exists_congr fun o => eq_comm) Iff.rfl

theorem stopsOf_asked (r : Recognition) (q : Request) (n : Nat) :
    (r.asked q).stopsOf n = r.stopsOf n + if q = .stopped n then 1 else 0 := by
  simp [stopsOf, asked, List.count_cons]

theorem startedAgain_of_asked {r : Recognition} {q : Request} {n : Nat}
    (h : (r.asked q).StartedAgain n) :
    r.StartedAgain n ∨ (q = .started n ∨ q = .refused n) ∧ 0 < r.stopsOf n := by
  obtain ⟨after, before, parts, again⟩ := h
  cases after with
  | nil => simp at again
  | cons first after =>
      obtain ⟨rfl, rest⟩ : q = first ∧ r.history = after ++ .stopped n :: before :=
        List.cons.inj parts
      rw [List.mem_cons, List.mem_cons] at again
      by_cases earlier : .started n ∈ after ∨ .refused n ∈ after
      · exact .inl ⟨after, before, rest, earlier⟩
      · refine .inr ⟨?_, ?_⟩
        · rcases again with (same | h) | (same | h)
          · exact .inl same.symm
          · exact absurd (.inl h) earlier
          · exact .inr same.symm
          · exact absurd (.inr h) earlier
        · rw [stopsOf, rest, List.count_pos_iff]
          simp

theorem Accounted.of_history {r r' : Recognition} {held : Option Nat} (h : r.Accounted held)
    (same : r'.history = r.history) : r'.Accounted held := by
  obtain ⟨supported, broken, running, history⟩ := r
  obtain ⟨supported', broken', running', history'⟩ := r'
  dsimp only at same
  subst same
  exact ⟨h.numbered, h.created, h.stopped, h.unborn, h.finished⟩

variable {r r' : Recognition} {n : Nat}

theorem Accounted.asked_start (h : r.Accounted (some n)) {q : Request}
    (hq : q = .started n ∨ q = .refused n) : (r.asked q).Accounted (some n) := by
  have created : ∀ m, (r.asked q).Created m ↔ r.Created m := by
    intro m
    rw [created_asked_iff]
    rcases hq with rfl | rfl <;> simp
  have stops : ∀ m, (r.asked q).stopsOf m = r.stopsOf m := by
    intro m
    rw [stopsOf_asked]
    rcases hq with rfl | rfl <;> simp
  have number : (r.asked q).created = r.created := by
    rcases hq with rfl | rfl <;> rfl
  refine ⟨fun m hm => ?_, fun m hm => ?_, fun m hm => ?_, fun m hm => ?_, fun m again => ?_⟩
  · rw [number]
    exact h.numbered m ((created m).1 hm)
  · exact (created m).2 (h.created m hm)
  · rw [stops]
    exact h.stopped m ((created m).1 hm)
  · rw [stops]
    exact h.unborn m fun hm' => hm ((created m).2 hm')
  · rcases startedAgain_of_asked again with before | ⟨started, stopped⟩
    · exact h.finished m before
    · -- it is the one that is held, which has not been stopped
      obtain rfl : n = m := by
        rcases hq with rfl | rfl <;> simpa using started
      have never := h.stopped n (h.created n rfl)
      rw [if_pos rfl] at never
      omega

theorem Accounted.start (h : r.Accounted (some n)) : (r.start n).Accounted (some n) := by
  rw [Recognition.start]
  split
  · exact (h.asked_start (.inr rfl)).of_history rfl
  · exact (h.asked_start (.inl rfl)).of_history rfl

theorem Accounted.stop (h : r.Accounted (some n)) : (r.stop n).Accounted none := by
  have stopped : (r.asked (.stopped n)).Accounted none := by
    have created : ∀ m, (r.asked (.stopped n)).Created m ↔ r.Created m := by
      intro m
      simp [created_asked_iff]
    refine ⟨fun m hm => h.numbered m ((created m).1 hm), by simp, fun m hm => ?_,
      fun m hm => ?_, fun m again => ?_⟩
    · have before := h.stopped m ((created m).1 hm)
      rw [stopsOf_asked, before]
      by_cases same : n = m <;> simp [same]
    · rw [stopsOf_asked, h.unborn m fun hm' => hm ((created m).2 hm')]
      -- the one that is held has been created
      have other : n ≠ m := by
        rintro rfl
        exact hm ((created n).2 (h.created n rfl))
      simp [other]
    · rcases startedAgain_of_asked again with before | ⟨started, -⟩
      · exact h.finished m before
      · simp at started
  exact stopped.of_history rfl

/-- A recognizer is created while none is held; it has a number of its own. -/
theorem Accounted.create (h : r.Accounted none) {o : Options} (made : r.create? o = some (n, r')) :
    r'.Accounted (some n) ∧ r'.supported = r.supported := by
  rw [create?] at made
  split at made
  · obtain ⟨rfl, rfl⟩ := Prod.mk.inj (Option.some.inj made)
    refine ⟨?_, rfl⟩
    have new : ¬ r.Created (r.created + 1) := by
      intro old
      have := h.numbered _ old
      omega
    have created : ∀ m, (r.asked (.created (r.created + 1) o)).Created m ↔
        m = r.created + 1 ∨ r.Created m := by
      intro m
      simp [created_asked_iff, eq_comm]
    have stops : ∀ m, (r.asked (.created (r.created + 1) o)).stopsOf m = r.stopsOf m := by
      intro m
      simp [stopsOf_asked]
    have number : (r.asked (.created (r.created + 1) o)).created = r.created + 1 :=
      List.countP_cons_of_pos rfl
    have begun : (r.asked (.created (r.created + 1) o)).Accounted (some (r.created + 1)) := by
      refine ⟨fun m hm => ?_, fun m hm => ?_, fun m hm => ?_, fun m hm => ?_, fun m again => ?_⟩
      · rw [number]
        rcases (created m).1 hm with rfl | old
        · exact Nat.le_refl _
        · exact Nat.le_succ_of_le (h.numbered m old)
      · exact (created m).2 (.inl (Option.some.inj hm).symm)
      · rw [stops]
        rcases (created m).1 hm with rfl | old
        · rw [h.unborn _ new, if_pos rfl]
        · have other : r.created + 1 ≠ m := fun same => new (same ▸ old)
          simpa [other] using h.stopped m old
      · rw [stops]
        exact h.unborn m fun old => hm ((created m).2 (.inr old))
      · rcases startedAgain_of_asked again with before | ⟨started, -⟩
        · exact h.finished m before
        · simp at started
    exact begun.of_history rfl
  · simp at made

theorem accounted_of_history_eq_nil (h : r.history = []) : r.Accounted none := by
  have none : ∀ m, ¬ r.Created m := by
    rintro m ⟨o, ho⟩
    simp [h] at ho
  refine ⟨fun m hm => absurd hm (none m), by simp, fun m hm => absurd hm (none m),
    fun m _ => ?_, fun m again => ?_⟩
  · simp [stopsOf, h]
  · obtain ⟨after, before, parts, -⟩ := again
    simp [h] at parts

end Recognition

/-! ### Events -/

namespace Control

theorem handle_of_unheld (r : Recognition) (e : Event) (keep : Bool) :
    Control.handle ⟨none⟩ r e keep = (.ignored, ⟨none⟩, r) := by
  cases e <;> rfl

/-- What an event may lead to while a recognizer is held. -/
inductive Heard (n : Nat) (r : Recognition) (keep : Bool) :
    Event → Outcome × Control × Recognition → Prop where
  | command (results : List Result) (c : Command) :
      Heard n r keep (.result results) (.command c, ⟨some n⟩, r)
  | unmatched (results : List Result) (transcript : String) :
      Heard n r keep (.result results) (.unmatched transcript, ⟨some n⟩, r)
  | ignored (e : Event) : Heard n r keep e (.ignored, ⟨some n⟩, r)
  | denied (kind : ErrorKind) :
      Heard n r keep (.error kind) (.permissionDenied, ⟨none⟩, r.stop n)
  | restarted (h : keep = true) : Heard n r keep .ended (.restarted, ⟨some n⟩, r.start n)
  | ended (h : keep = false) : Heard n r keep .ended (.ended, ⟨some n⟩, r)

theorem heard_handle (n : Nat) (r : Recognition) (e : Event) (keep : Bool) :
    Heard n r keep e (Control.handle ⟨some n⟩ r e keep) := by
  cases e with
  | result results =>
      unfold handle
      dsimp only
      split
      · exact .ignored _
      · split
        · exact .command results _
        · exact .unmatched results _
  | error kind =>
      unfold handle
      dsimp only
      split
      · exact .denied kind
      · exact .ignored _
  | ended =>
      cases keep with
      | true => exact .restarted rfl
      | false => exact .ended rfl

end Control

end PageAid.Speech
