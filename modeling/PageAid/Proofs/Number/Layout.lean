import Mathlib.Data.List.DropRight
import PageAid.Number.Shortest

/-!
What the digits of a printed number look like. The digits of a positive number are there, and the
first of them is no zero (`shortest_proper`): a point of the grid that lies in the interval around
the number is not zero, and only zeros at the end are left out.
-/

namespace PageAid.Number

theorem head?_toDigits_ne {n : Nat} (h : 0 < n) : (Nat.toDigits 10 n).head? ≠ some '0' := by
  induction n using Nat.strong_induction_on with
  | _ n ih =>
      by_cases small : n < 10
      · rw [Nat.toDigits_of_lt_base small]
        have ne : n ≠ 0 := by omega
        simpa using ne
      · have less : n / 10 < n := Nat.div_lt_self h (by decide)
        have some : (Nat.toDigits 10 (n / 10)) ≠ [] := Nat.toDigits_ne_nil
        rw [Nat.toDigits_of_base_le (by decide) (Nat.le_of_not_lt small),
          List.head?_append_of_ne_nil _ some]
        exact ih _ less (by omega)

/-- Digits that begin with no zero, unless they are that of the number zero. -/
structure Digits.Proper (d : Digits) : Prop where
  isDigit : ∀ c ∈ d.digits, c.isDigit
  ne_nil : d.digits ≠ []
  leading : d.digits.head? = some '0' → d = ⟨['0'], 1⟩

theorem significantDigits_eq (n : Nat) :
    significantDigits n = (Nat.toDigits 10 n).rdropWhile (· == '0') := rfl

theorem significantDigits_proper {n : Nat} (h : 0 < n) (point : Int) :
    (⟨significantDigits n, point⟩ : Digits).Proper := by
  have before : significantDigits n <+: Nat.toDigits 10 n := List.rdropWhile_prefix _ _
  have some : significantDigits n ≠ [] := by
    intro none
    rw [significantDigits_eq, List.rdropWhile_eq_nil_iff] at none
    -- the first digit would be a zero
    obtain ⟨c, r, hc⟩ := List.exists_cons_of_ne_nil (Nat.toDigits_ne_nil (n := n) (b := 10))
    have zero := none c (by simp [hc])
    refine head?_toDigits_ne h ?_
    rw [hc, List.head?_cons, eq_of_beq zero]
  refine ⟨fun c hc => ?_, some, fun zero => ?_⟩
  · exact Nat.isDigit_of_mem_toDigits (by decide) (by decide) (before.subset hc)
  · obtain ⟨r, hr⟩ := before
    refine absurd ?_ (head?_toDigits_ne h)
    rw [← hr, List.head?_append_of_ne_nil _ some]
    exact zero

/-- The interval around a positive number lies above zero. -/
theorem below_lt_num {significand : Nat} (h : 0 < significand) (exponent : Int) (atPower : Bool) :
    (Rounding.of significand exponent atPower).below <
      (Rounding.of significand exponent atPower).num := by
  have scale : 0 < Nat.pow 2 exponent.toNat := Nat.pow_pos (by decide)
  have least : 1 * Nat.pow 2 exponent.toNat ≤ significand * Nat.pow 2 exponent.toNat :=
    Nat.mul_le_mul_right _ h
  simp only [Rounding.of]
  rw [Nat.mul_assoc]
  split <;> omega

theorem holds_zero {r : Rounding} (h : r.below < r.num) (p : Int) : r.holds 0 p = false := by
  have up : 0 < Nat.pow 10 (-p).toNat := Nat.pow_pos (by decide)
  have lower : 0 < (r.num - r.below) * Nat.pow 10 (-p).toNat := Nat.mul_pos (by omega) up
  unfold Rounding.holds
  simp only [Nat.zero_mul]
  split
  · rw [decide_eq_false (Nat.not_le.2 lower), Bool.false_and]
  · simp

theorem le_roundDiv (tie : Tie) (num den : Nat) : num / den ≤ roundDiv tie num den := by
  unfold roundDiv
  dsimp only
  split
  · exact Nat.le_refl _
  · split
    · omega
    · cases tie <;> simp

theorem onGrid?_pos {r : Rounding} (h : r.below < r.num) {tie : Tie} {p : Int} {c : Nat}
    (hc : r.onGrid? tie p = some c) : 0 < c := by
  have positive : ∀ c, r.holds c p = true → 0 < c := by
    intro c held
    rcases Nat.eq_zero_or_pos c with rfl | pos
    · simp [holds_zero h] at held
    · exact pos
  unfold Rounding.onGrid? at hc
  dsimp only at hc
  split at hc
  · rename_i low _
    obtain rfl := Option.some.inj hc
    exact Nat.lt_of_lt_of_le (positive _ low) (le_roundDiv tie _ _)
  · rename_i low _
    obtain rfl := Option.some.inj hc
    exact positive _ low
  · obtain rfl := Option.some.inj hc
    exact Nat.succ_pos _
  · simp at hc

/-- The shortest digits of a positive number are proper ones. -/
theorem shortest_proper (tie : Tie) {significand : Nat} (h : 0 < significand) (exponent : Int)
    (atPower : Bool) : (shortest tie significand exponent atPower).Proper := by
  unfold shortest
  dsimp only
  split
  · rename_i c p found
    obtain ⟨n, -, hn⟩ := List.exists_of_findSome?_eq_some found
    obtain ⟨c', hc', same⟩ := Option.map_eq_some_iff.1 hn
    obtain ⟨rfl, -⟩ := Prod.mk.inj same
    exact significantDigits_proper (onGrid?_pos (below_lt_num h exponent atPower) hc') _
  · exact ⟨by simp, by simp, fun _ => rfl⟩

end PageAid.Number
