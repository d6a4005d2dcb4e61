import PageAid.Pomodoro

/-!
The Pomodoro timer in closed form. A round is a phase of work and one of rest; where a timer stands
depends on how far into its round it is, and the phases take turns (`ticks_rendered`).
-/

namespace PageAid.Pomodoro

def Tick.change? : Tick → Option Phase
  | changed phase => some phase
  | _ => none

def changes (count : Nat) : List Phase :=
  (List.range count).map fun i => if i % 2 = 0 then .rest else .work

namespace Durations

def round (d : Durations) : Nat := d.seconds .work + d.seconds .rest

/-- How often the phase has changed when so many seconds have been counted. -/
def turns (d : Durations) (n : Nat) : Nat :=
  2 * (n / d.round) + if d.seconds .work ≤ n % d.round then 1 else 0

/-- A timer so many seconds into a round. -/
def into (d : Durations) (m : Nat) : State :=
  if m < d.seconds .work then ⟨.work, d.seconds .work - m, d, true⟩
  else ⟨.rest, d.round - m, d, true⟩

def Lasting (d : Durations) : Prop := 1 ≤ d.work ∧ 1 ≤ d.rest

variable {d : Durations}

theorem Lasting.seconds (h : d.Lasting) (p : Phase) : 60 ≤ d.seconds p := by
  obtain ⟨hw, hr⟩ := h
  cases p <;> simp only [Durations.seconds, maxCount] <;> omega

theorem Lasting.round_pos (h : d.Lasting) : 0 < d.round := by
  have := h.seconds .work
  unfold round
  omega

theorem remaining_into_pos {m : Nat} (hm : m < d.round) : 0 < (d.into m).remaining := by
  unfold into
  split <;> dsimp only <;> omega

/-! ### One second -/

theorem tick_into_counted {m : Nat} (hm : m + 1 < d.round) (h : m + 1 ≠ d.seconds .work) :
    (d.into m).tick = (.counted, d.into (m + 1)) := by
  unfold round at hm
  by_cases working : m < d.seconds .work
  · have still : m + 1 < d.seconds .work := by omega
    have more : 1 < d.seconds .work - m := by omega
    simp only [into, if_pos working, if_pos still, State.tick, more]
    simp [Nat.sub_sub]
  · have still : ¬m + 1 < d.seconds .work := by omega
    have more : 1 < d.round - m := by unfold round; omega
    simp only [into, if_neg working, if_neg still, State.tick, more]
    simp [Nat.sub_sub]

theorem tick_into_rest {m : Nat} (hm : m + 1 = d.seconds .work) :
    (d.into m).tick = (.changed .rest, d.into (m + 1)) := by
  have working : m < d.seconds .work := by omega
  have done : ¬m + 1 < d.seconds .work := by omega
  have last : ¬1 < d.seconds .work - m := by omega
  simp only [into, if_pos working, if_neg done, State.tick, last]
  simp [Phase.flipped, round, hm]

theorem tick_into_work (h : d.Lasting) {m : Nat} (hm : m + 1 = d.round) :
    (d.into m).tick = (.changed .work, d.into 0) := by
  have working := h.seconds .work
  have resting := h.seconds .rest
  unfold round at hm
  have rest : ¬m < d.seconds .work := by omega
  have start : 0 < d.seconds .work := by omega
  have last : ¬1 < d.round - m := by unfold round; omega
  simp only [into, if_neg rest, if_pos start, State.tick, last]
  simp [Phase.flipped]

end Durations

/-! ### Any number of seconds -/

theorem changes_succ (count : Nat) :
    changes (count + 1) = changes count ++ [if count % 2 = 0 then .rest else .work] := by
  simp [changes, List.range_succ]

theorem State.ticks_succ (n : Nat) (s : State) :
    s.ticks (n + 1) = ((s.ticks n).1 ++ [(s.ticks n).2.tick.1], (s.ticks n).2.tick.2) := by
  induction n generalizing s with
  | zero => rfl
  | succ n ih =>
      have first : s.ticks (n + 2) =
        (s.tick.1 :: (s.tick.2.ticks (n + 1)).1, (s.tick.2.ticks (n + 1)).2) := rfl
      rw [first, ih s.tick.2]
      rfl

theorem length_ticks (n : Nat) (s : State) : (s.ticks n).1.length = n := by
  induction n generalizing s with
  | zero => rfl
  | succ n ih => exact congrArg (· + 1) (ih s.tick.2)

theorem succ_mod_div {n r : Nat} (hr : 0 < r) :
    (n % r + 1 < r ∧ (n + 1) % r = n % r + 1 ∧ (n + 1) / r = n / r) ∨
      (n % r + 1 = r ∧ (n + 1) % r = 0 ∧ (n + 1) / r = n / r + 1) := by
  have bound := Nat.mod_lt n hr
  have sum : n + 1 = r * (n / r) + (n % r + 1) := by
    have := Nat.div_add_mod n r
    omega
  have mod : (n + 1) % r = (n % r + 1) % r := by rw [sum, Nat.mul_add_mod]
  by_cases last : n % r + 1 = r
  · right
    refine ⟨last, by rw [mod, last, Nat.mod_self], ?_⟩
    rw [sum, last, Nat.mul_add_div hr, Nat.div_self hr]
  · left
    have inside : n % r + 1 < r := by omega
    refine ⟨inside, by rw [mod, Nat.mod_eq_of_lt inside], ?_⟩
    rw [sum, Nat.mul_add_div hr, Nat.div_eq_of_lt inside, Nat.add_zero]

/-- Any number of ticks of a timer that has shown its time: where it stands then, and the changes
of phase on the way. By induction on the ticks; the last one ends work, ends a round or neither. -/
theorem ticks_into {d : Durations} (h : d.Lasting) (n : Nat) :
    ((d.into 0).ticks n).2 = d.into (n % d.round) ∧
      ((d.into 0).ticks n).1.filterMap Tick.change? = changes (d.turns n) := by
  have working := h.seconds .work
  have resting := h.seconds .rest
  have start : d.turns 0 = 0 := by
    rw [Durations.turns, Nat.zero_div, Nat.zero_mod, if_neg (by omega)]
  have whole : d.round = d.seconds .work + d.seconds .rest := rfl
  induction n with
  | zero => exact ⟨by rw [Nat.zero_mod]; rfl, by rw [start]; rfl⟩
  | succ n ih =>
      obtain ⟨state, turned⟩ := ih
      rw [State.ticks_succ, state, List.filterMap_append, turned]
      dsimp only
      rcases succ_mod_div (n := n) h.round_pos with ⟨inside, mod, div⟩ | ⟨last, mod, div⟩
      · by_cases ends : n % d.round + 1 = d.seconds .work
        · have even : d.turns n = 2 * (n / d.round) := by
            rw [Durations.turns, if_neg (by omega), Nat.add_zero]
          have more : d.turns (n + 1) = d.turns n + 1 := by
            rw [even, Durations.turns, mod, div, if_pos (by omega)]
          rw [Durations.tick_into_rest ends, mod, more, changes_succ, even]
          simp [Tick.change?]
        · have same : d.turns (n + 1) = d.turns n := by
            have alike : d.seconds .work ≤ n % d.round + 1 ↔ d.seconds .work ≤ n % d.round := by
              omega
            rw [Durations.turns, Durations.turns, mod, div]
            simp only [alike]
          rw [Durations.tick_into_counted inside ends, mod, same]
          simp [Tick.change?]
      · have odd : d.turns n = 2 * (n / d.round) + 1 := by
          rw [Durations.turns, if_pos (by omega)]
        have more : d.turns (n + 1) = d.turns n + 1 := by
          rw [odd, Durations.turns, mod, div, if_neg (by omega)]
          omega
        rw [Durations.tick_into_work h last, mod, more, changes_succ, odd]
        simp [Tick.change?, Nat.add_mod]

/-- The first tick of a timer shows its time. After `n` further ticks, where both phases last at
least a minute: the phase and the time that remains follow from how far `n` is into a round, time
remains, and the ticks that changed the phase led to rest and work in turns. -/
theorem ticks_rendered (d : Durations) (hw : 1 ≤ d.work) (hr : 1 ≤ d.rest) (n : Nat) :
    let W := min 4294967295 (60 * d.work)
    let B := min 4294967295 (60 * d.rest)
    let m := n % (W + B)
    let shown := (State.start d).tick
    let run := shown.2.ticks n
    shown.1 = .rendered ∧ run.1.length = n ∧
      run.2.phase = (if m < W then .work else .rest) ∧
      run.2.remaining = (if m < W then W - m else W + B - m) ∧ 0 < run.2.remaining ∧
      run.1.filterMap Tick.change? =
        changes (2 * (n / (W + B)) + if W ≤ m then 1 else 0) := by
  intro W B m shown run
  have lasting : d.Lasting := ⟨hw, hr⟩
  have start : shown = (.rendered, d.into 0) := by
    have working := lasting.seconds .work
    have some : 0 < d.seconds .work := by omega
    simp [shown, State.start, State.tick, Durations.into, some]
  have ran : run = (d.into 0).ticks n := congrArg (fun t => t.2.ticks n) start
  obtain ⟨state, turned⟩ := ticks_into lasting n
  rw [← ran] at state turned
  refine ⟨congrArg Prod.fst start, length_ticks n _, ?_, ?_, ?_, turned⟩
  · rw [state]
    exact apply_ite State.phase ..
  · rw [state]
    exact apply_ite State.remaining ..
  · rw [state]
    exact Durations.remaining_into_pos (Nat.mod_lt n lasting.round_pos)

/-- Phases of one minute each, 185 seconds on: five seconds into the second rest. -/
theorem ticks_rendered_of_minutes :
    let run := (State.start ⟨1, 1⟩).tick.2.ticks 185
    run.2.phase = .rest ∧ run.2.remaining = 55 ∧
      run.1.filterMap Tick.change? = [.rest, .work, .rest] := by
  obtain ⟨-, -, phase, remaining, -, turned⟩ :=
    ticks_rendered ⟨1, 1⟩ (by decide) (by decide) 185
  exact ⟨phase, remaining, turned⟩

end PageAid.Pomodoro
