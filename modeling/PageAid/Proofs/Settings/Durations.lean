import PageAid.Proofs.Pomodoro
import PageAid.Settings.Basic

/-!
How long the phases of a timer last that is started with the stored minutes. A number that a timer
cannot count in seconds does not fall back on one minute, as it is meant to, but gives a phase of
as many seconds as can be counted (`lasts_meant_iff`).
-/

namespace PageAid.Pomodoro

/-! ### The length of a phase -/

namespace State

/-- The timer after so many seconds: its first tick only shows the time. -/
def counted (s : State) (n : Nat) : State := (s.tick.2.ticks n).2

/-- A phase begins with the timer, or where another one ends. -/
def Begins (s : State) (p : Phase) (n : Nat) : Prop :=
  (s.counted n).phase = p ∧ ∀ m, n = m + 1 → (s.counted m).phase ≠ p

/-- Whenever the phase begins, it goes on for so many seconds and no longer. -/
def Lasts (s : State) (p : Phase) (seconds : Nat) : Prop :=
  ∀ n, s.Begins p n →
    (∀ i < seconds, (s.counted (n + i)).phase = p) ∧ (s.counted (n + seconds)).phase ≠ p

theorem Lasts.unique {s : State} {p : Phase} {n a b : Nat} (begins : s.Begins p n)
    (ha : s.Lasts p a) (hb : s.Lasts p b) : a = b := by
  obtain ⟨during, ends⟩ := ha n begins
  obtain ⟨during', ends'⟩ := hb n begins
  rcases Nat.lt_trichotomy a b with less | same | more
  · exact absurd (during' a less) ends
  · exact same
  · exact absurd (during b more) ends'

end State

namespace Durations

variable {d : Durations}

def offset (d : Durations) : Phase → Nat
  | .work => 0
  | .rest => d.seconds .work

theorem offset_add_seconds_le (d : Durations) (p : Phase) : d.offset p + d.seconds p ≤ d.round := by
  cases p <;> simp only [offset, round] <;> omega

theorem seconds_lt_round (h : d.Lasting) (p : Phase) : d.seconds p < d.round := by
  have working := h.seconds .work
  have resting := h.seconds .rest
  cases p <;> rw [round] <;> omega

theorem phase_into_eq_iff {m : Nat} (hm : m < d.round) (p : Phase) :
    (d.into m).phase = p ↔ d.offset p ≤ m ∧ m < d.offset p + d.seconds p := by
  rw [into, round] at *
  cases p <;> split <;> simp only [offset, reduceCtorEq, true_iff, false_iff] <;> omega

theorem counted_start (h : d.Lasting) (n : Nat) :
    (State.start d).counted n = d.into (n % d.round) := by
  have working := h.seconds .work
  have start : (State.start d).tick.2 = d.into 0 := by
    have some : 0 < d.seconds .work := by omega
    simp [State.start, State.tick, into, some]
  rw [State.counted, start, (ticks_into h n).1]

theorem phase_counted_eq_iff (h : d.Lasting) (p : Phase) (n : Nat) :
    ((State.start d).counted n).phase = p ↔
      d.offset p ≤ n % d.round ∧ n % d.round < d.offset p + d.seconds p := by
  rw [counted_start h]
  exact phase_into_eq_iff (Nat.mod_lt n h.round_pos) p

/-- A phase begins once in every round. -/
theorem begins_iff (h : d.Lasting) (p : Phase) (n : Nat) :
    (State.start d).Begins p n ↔ n % d.round = d.offset p := by
  have lasting := h.seconds p
  have whole := d.offset_add_seconds_le p
  have other := seconds_lt_round h p
  simp only [State.Begins, Ne, phase_counted_eq_iff h]
  cases n with
  | zero =>
      rw [Nat.zero_mod]
      exact ⟨fun first => by omega, fun first => ⟨by omega, nofun⟩⟩
  | succ m =>
      simp only [Nat.add_right_cancel_iff, forall_eq']
      rcases succ_mod_div (n := m) h.round_pos with ⟨inside, mod, -⟩ | ⟨last, mod, -⟩ <;>
        rw [mod] <;> omega

theorem exists_begins (h : d.Lasting) (p : Phase) (m : Nat) :
    ∃ n, m ≤ n ∧ (State.start d).Begins p n := by
  have lasting := h.seconds p
  have whole := d.offset_add_seconds_le p
  refine ⟨d.round * m + d.offset p, ?_, (begins_iff h p _).2 ?_⟩
  · exact Nat.le_trans (Nat.le_mul_of_pos_left m h.round_pos) (Nat.le_add_right _ _)
  · rw [Nat.mul_add_mod]
    exact Nat.mod_eq_of_lt (by omega)

theorem lasts_seconds (h : d.Lasting) (p : Phase) : (State.start d).Lasts p (d.seconds p) := by
  intro n begins
  rw [begins_iff h] at begins
  have whole := d.offset_add_seconds_le p
  have other := seconds_lt_round h p
  have later : ∀ i, (n + i) % d.round = (d.offset p + i) % d.round := fun i => by
    rw [← Nat.mod_add_mod, begins]
  refine ⟨fun i hi => ?_, ?_⟩
  · rw [phase_counted_eq_iff h, later, Nat.mod_eq_of_lt (by omega)]
    omega
  · rw [Ne, phase_counted_eq_iff h, later]
    rcases Nat.lt_or_eq_of_le whole with within | last
    · rw [Nat.mod_eq_of_lt within]
      omega
    · rw [last, Nat.mod_self]
      omega

theorem lasts_iff (h : d.Lasting) (p : Phase) (seconds : Nat) :
    (State.start d).Lasts p seconds ↔ seconds = d.seconds p := by
  obtain ⟨n, -, begins⟩ := exists_begins h p 0
  exact ⟨fun lasts => lasts.unique begins (lasts_seconds h p),
    fun same => same ▸ lasts_seconds h p⟩

end Durations

end PageAid.Pomodoro

namespace PageAid.Settings

open Pomodoro

/-! ### Stored minutes -/

def minutesKey : Phase → String
  | .work => workKey
  | .rest => breakKey

def defaultMinutes : Phase → Nat
  | .work => defaultWork
  | .rest => defaultBreak

/-- The minutes that a stored value stands for: a whole number that is zero, or of whose minutes
the seconds do not fit in 32 bits, falls back on one minute, and any other value on the default. -/
def meantMinutes (default : Nat) : Option Json → Nat
  | some (.number (.whole (.ofNat n))) => if n = 0 ∨ 4294967295 < 60 * n then 1 else n
  | _ => default

def Uncountable (v : Option Json) : Prop := ∃ n : Nat, v = some (.nat n) ∧ 4294967295 < 60 * n

theorem lasting_durations (s : Settings) : s.durations.Lasting :=
  ⟨Nat.le_max_left _ _, Nat.le_max_left _ _⟩

theorem seconds_durations (s : Settings) (p : Phase) :
    s.durations.seconds p =
      min maxCount (60 * clampMinutes (s.minutes (minutesKey p) (defaultMinutes p))) := by
  cases p <;> rfl

section

variable {v : Option Json} (default : Nat)

theorem minutes_of_not_nat (h : ∀ n : Nat, v ≠ some (.nat n)) :
    (v.bind Json.asNat?).getD default = default ∧ meantMinutes default v = default := by
  match v with
  | some (.number (.whole (.ofNat n))) => exact absurd rfl (h n)
  | some (.number (.whole (.negSucc n))) => exact ⟨rfl, rfl⟩
  | some (.number (.real x)) => exact ⟨rfl, rfl⟩
  | some .null | some (.bool _) | some (.string _) | some (.array _) | some (.object _)
  | some .unfit | none => exact ⟨rfl, rfl⟩

theorem minutes_of_nat (n : Nat) :
    ((some (Json.nat n)).bind Json.asNat?).getD default = n ∧
      meantMinutes default (some (.nat n)) = if n = 0 ∨ 4294967295 < 60 * n then 1 else n :=
  ⟨rfl, rfl⟩

end

theorem defaultMinutes_bounds (p : Phase) : 1 ≤ defaultMinutes p ∧ defaultMinutes p ≤ 25 := by
  cases p <;> decide

/-- A phase has the seconds that are meant, unless they cannot be counted. -/
theorem seconds_of_countable {s : Settings} {p : Phase}
    (h : ¬ Uncountable (s.get? .synced (minutesKey p))) :
    s.durations.seconds p =
      60 * meantMinutes (defaultMinutes p) (s.get? .synced (minutesKey p)) := by
  rw [seconds_durations, minutes, clampMinutes, maxCount]
  by_cases whole : ∃ n : Nat, s.get? .synced (minutesKey p) = some (.nat n)
  · obtain ⟨n, stored⟩ := whole
    have countable : ¬ 4294967295 < 60 * n := fun great => h ⟨n, stored, great⟩
    rw [stored, (minutes_of_nat _ n).1, (minutes_of_nat _ n).2]
    split <;> omega
  · obtain ⟨used, meant⟩ := minutes_of_not_nat (defaultMinutes p) (not_exists.1 whole)
    have := defaultMinutes_bounds p
    rw [used, meant]
    omega

theorem seconds_of_uncountable {s : Settings} {p : Phase}
    (h : Uncountable (s.get? .synced (minutesKey p))) :
    s.durations.seconds p = 4294967295 ∧
      meantMinutes (defaultMinutes p) (s.get? .synced (minutesKey p)) = 1 := by
  obtain ⟨n, stored, great⟩ := h
  rw [seconds_durations, minutes, stored, (minutes_of_nat _ n).1, (minutes_of_nat _ n).2,
    if_pos (.inr great), clampMinutes, maxCount]
  omega

/-- Each phase of a timer that is started with the stored minutes begins again and again. It lasts
as long as is meant just when the stored value is not a whole number that is too great. With such a
number it lasts for as many seconds as can be counted, where one minute is meant. -/
theorem lasts_meant_iff (s : Settings) (p : Phase) :
    (∀ m, ∃ n, m ≤ n ∧ (State.start s.durations).Begins p n) ∧
      ((State.start s.durations).Lasts p
          (60 * meantMinutes (defaultMinutes p) (s.get? .synced (minutesKey p))) ↔
        ¬ Uncountable (s.get? .synced (minutesKey p))) ∧
      (Uncountable (s.get? .synced (minutesKey p)) →
        (State.start s.durations).Lasts p 4294967295) := by
  have lasting := s.lasting_durations
  refine ⟨Durations.exists_begins lasting p, ?_, fun great => ?_⟩
  · rw [Durations.lasts_iff lasting]
    refine ⟨fun same great => ?_, fun countable => (seconds_of_countable countable).symm⟩
    obtain ⟨seconds, meant⟩ := seconds_of_uncountable great
    rw [seconds, meant] at same
    exact absurd same (by decide)
  · exact (Durations.lasts_iff lasting p _).2 (seconds_of_uncountable great).1.symm

/-- The least number of minutes whose seconds do not fit in 32 bits. -/
def greatMinutes : Settings := { synced := Keyed.empty.insert workKey (.nat 71582789) }

/-- With that number of minutes work does not last for the one minute that is meant. -/
theorem not_lasts_meant_of_greatMinutes :
    meantMinutes 25 (greatMinutes.get? .synced workKey) = 1 ∧
      ¬ (State.start greatMinutes.durations).Lasts .work 60 := by
  refine ⟨by decide +kernel, ?_⟩
  rw [Durations.lasts_iff (lasting_durations _)]
  decide +kernel

end PageAid.Settings
