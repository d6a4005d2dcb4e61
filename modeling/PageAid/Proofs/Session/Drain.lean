import PageAid.Proofs.Session.Change

/-!
Letting time pass until no action is left, where one entry at a time is on the agenda: each entry
is waited for and carried out, and what it arranges is waited for in turn (`Leads.drain_eq`). The
bounds on the number of entries are large enough.
-/

namespace PageAid.Session

/-- The page when its only entry has come due and is carried out. -/
def turn (s : Session) (e : Entry) : Session :=
  { s with clock := e.due, agenda := [] }.perform e

/-- One entry leads to the next one, if any is left, and all of them to the second page. Each one
is due later than the one before, and the bound on what is to come falls. -/
inductive Leads : Session → Session → Prop where
  | ended {s : Session} (h : s.agenda = []) : Leads s s
  | waited {s s' : Session} {e : Entry} (h : s.agenda = [e]) (other : e.step.isTick = false)
      (later : s.clock < e.due)
      (falls : (s.turn e).load (s.turn e).clock < s.load s.clock) (rest : Leads (s.turn e) s') :
      Leads s s'

theorem clock_turn {s : Session} {e : Entry} (other : e.step.isTick = false) :
    (s.turn e).clock = e.due :=
  (aside_perform _ other).clock

theorem load_of_single {s : Session} {e : Entry} (h : s.agenda = [e])
    (other : e.step.isTick = false) (limit : Nat) :
    s.load limit = Step.size s.document.body.descendants.length e.step := by
  simp [load, tickers, h, other]

theorem load_of_none {s : Session} (h : s.agenda = []) (limit : Nat) : s.load limit = 0 := by
  simp [load, tickers, h]

theorem Leads.next?_eq_none {s s' : Session} (h : Leads s s') : s.next? s.clock = none := by
  cases h with
  | ended none => simp [next?, earliest?, none]
  | waited single other later =>
      have late := Nat.not_le.2 later
      simp [next?, earliest?, single, late]

theorem runTo_of_next?_eq_none {s : Session} {limit : Nat} (h : s.next? limit = none) (n : Nat) :
    runTo limit n s = s := by
  cases n with
  | zero => rfl
  | succ n => rw [runTo, h]

theorem advance_of_waited {s s' : Session} {e : Entry} (h : s.agenda = [e])
    (other : e.step.isTick = false) (later : s.clock < e.due)
    (falls : (s.turn e).load (s.turn e).clock < s.load s.clock) (rest : Leads (s.turn e) s') :
    s.advance (e.due - s.clock) = s.turn e := by
  have limit : s.clock + (e.due - s.clock) = e.due := by omega
  have bound : s.load e.due = s.load s.clock := by
    rw [load_of_single h other, load_of_single h other]
  obtain ⟨n, hn⟩ : ∃ n, s.load s.clock = n + 1 := ⟨s.load s.clock - 1, by omega⟩
  have next : s.next? e.due = some (s.turn e) := by
    have clock : max s.clock e.due = e.due := by omega
    simp [next?, earliest?, h, performAt, turn, clock]
  have none_left : (s.turn e).next? e.due = none := by
    rw [← clock_turn (s := s) other]
    exact rest.next?_eq_none
  rw [advance, limit, bound, hn, runTo, next]
  dsimp only
  rw [runTo_of_next?_eq_none none_left, ← clock_turn (s := s) other]

/-- As many rounds as the bound says are enough. -/
theorem Leads.drainWithin_eq {s s' : Session} (h : Leads s s') (n : Nat)
    (enough : s.load s.clock ≤ n) : drainWithin n s = s' := by
  induction h generalizing n with
  | ended none =>
      cases n with
      | zero => rfl
      | succ n => simp [drainWithin, earliest?, none]
  | @waited s s' e single other later falls rest ih =>
      obtain ⟨n, rfl⟩ : ∃ m, n = m + 1 := ⟨n - 1, by omega⟩
      have due : s.earliest? (!·.step.isTick) = some e.due := by
        simp [earliest?, single, other]
      rw [drainWithin, due]
      dsimp only
      rw [advance_of_waited single other later falls rest]
      exact ih n (by omega)

theorem Leads.drain_eq {s s' : Session} (h : Leads s s') : s.drain = s' := by
  have settled : s.settle = s := runTo_of_next?_eq_none h.next?_eq_none _
  rw [drain, settled]
  exact h.drainWithin_eq _ (Nat.le_refl _)

end PageAid.Session
