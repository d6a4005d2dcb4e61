import Mathlib.Tactic.GCongr
import Mathlib.Tactic.Linarith
import Mathlib.Tactic.Ring
import PageAid.Proofs.Number.Layout

/-!
Nearest whole numbers, and the nearest of the values that a double can have. Both go by the ratio
alone and are monotone (`roundDiv_mono`, `rounded_mono`).

The finite values without a sign are whole numbers of units, a unit being the least positive value
`2 ^ -1074`. They are numbered in ascending order by the bits that stand for them: the number in
bit form is `rank`, and `units` is the value with a rank.
-/

namespace PageAid.Number

/-! ### Whole numbers -/

section

variable (tie : Tie)

theorem roundDiv_le (num den : Nat) : roundDiv tie num den ≤ num / den + 1 := by
  unfold roundDiv
  dsimp only
  split
  · omega
  · split
    · omega
    · cases tie with
      | toEven => have := Nat.mod_lt (num / den) (by decide : 0 < 2); dsimp only; omega
      | away => exact Nat.le_refl _

theorem roundDiv_mul (n : Nat) {den : Nat} (h : 0 < den) : roundDiv tie (n * den) den = n := by
  simp [roundDiv, Nat.mul_div_cancel _ h, h]

theorem roundDiv_mul_mul (num den : Nat) {k : Nat} (h : 0 < k) :
    roundDiv tie (k * num) (k * den) = roundDiv tie num den := by
  have up (a b : Nat) : 2 * (k * a) < k * b ↔ 2 * a < b := by
    rw [Nat.mul_left_comm, Nat.mul_lt_mul_left h]
  have down (a b : Nat) : k * b < 2 * (k * a) ↔ b < 2 * a := by
    rw [Nat.mul_left_comm, Nat.mul_lt_mul_left h]
  simp only [roundDiv, Nat.mul_div_mul_left _ _ h, Nat.mul_mod_mul_left, up, down]

theorem roundDiv_mono_num {num num' : Nat} (den : Nat) (h : num ≤ num') :
    roundDiv tie num den ≤ roundDiv tie num' den := by
  have quotients : num / den ≤ num' / den := Nat.div_le_div_right h
  rcases Nat.lt_or_eq_of_le quotients with less | same
  · have below := roundDiv_le tie num den
    have above := le_roundDiv tie num' den
    omega
  · -- with one quotient, it goes by the remainders
    have split := Nat.div_add_mod num den
    have split' := Nat.div_add_mod num' den
    rw [same] at split
    have remainders : num % den ≤ num' % den := by omega
    have parity := Nat.mod_lt (num' / den) (by decide : 0 < 2)
    simp only [roundDiv, same]
    cases tie with
    | toEven => dsimp only; split_ifs <;> omega
    | away => dsimp only; split_ifs <;> omega

theorem roundDiv_mono {num den num' den' : Nat} (hd : 0 < den) (hd' : 0 < den')
    (h : num * den' ≤ num' * den) : roundDiv tie num den ≤ roundDiv tie num' den' := by
  rw [← roundDiv_mul_mul tie num den hd', ← roundDiv_mul_mul tie num' den' hd,
    Nat.mul_comm den den']
  apply roundDiv_mono_num
  linarith

end

/-! ### Doubles -/

/-- The value, in units, that has a rank. -/
def units (rank : Nat) : Nat :=
  if rank < 2 ^ 52 then rank else (2 ^ 52 + rank % 2 ^ 52) * 2 ^ (rank / 2 ^ 52 - 1)

/-- Neighbouring values are `2 ^ spacing` units apart around `num / den` units. -/
def spacing (num den : Nat) : Nat := (num / den).log2 - 52

/-- The rank of the value nearest to `num / den` units, of two such values of the one whose last
bit is zero. -/
def rounded (num den : Nat) : Nat :=
  spacing num den * 2 ^ 52 + roundDiv .toEven num (den * 2 ^ spacing num den)

theorem lt_spacing (num den : Nat) : num / den < 2 ^ (spacing num den + 53) := by
  apply Nat.lt_of_lt_of_le Nat.lt_log2_self
  apply Nat.pow_le_pow_right (by decide)
  rw [spacing]
  omega

theorem spacing_le {num den : Nat} (h : 0 < spacing num den) :
    2 ^ (spacing num den + 52) ≤ num / den := by
  have large : 52 < (num / den).log2 := by rw [spacing] at h; omega
  have pos : num / den ≠ 0 := by
    intro zero
    rw [zero] at large
    exact absurd large (by decide)
  apply (Nat.le_log2 pos).1
  rw [spacing]
  omega

theorem spacing_eq {num den e : Nat} (low : e = 0 ∨ 2 ^ (e + 52) ≤ num / den)
    (high : num / den < 2 ^ (e + 53)) : spacing num den = e := by
  have above := lt_spacing num den
  rcases Nat.lt_trichotomy (spacing num den) e with less | same | greater
  · rcases low with rfl | low
    · exact absurd less (Nat.not_lt_zero _)
    · have := (Nat.pow_lt_pow_iff_right (by decide)).1 (Nat.lt_of_le_of_lt low above)
      omega
  · exact same
  · have below := spacing_le (Nat.zero_lt_of_lt greater)
    have := (Nat.pow_lt_pow_iff_right (by decide)).1 (Nat.lt_of_le_of_lt below high)
    omega

/-- The significand of the nearest value has 53 bits, unless values are as dense as they get; or it
is one that 53 bits do not hold. -/
theorem significand_bounds (num : Nat) {den : Nat} (h : 0 < den) :
    roundDiv .toEven num (den * 2 ^ spacing num den) ≤ 2 ^ 53 ∧
      (0 < spacing num den → 2 ^ 52 ≤ roundDiv .toEven num (den * 2 ^ spacing num den)) := by
  have pos : 0 < den * 2 ^ spacing num den := Nat.mul_pos h (Nat.pow_pos (by decide))
  have above := lt_spacing num den
  rw [Nat.div_lt_iff_lt_mul h, Nat.pow_add] at above
  refine ⟨?_, fun sparse => ?_⟩
  · rw [← roundDiv_mul .toEven (2 ^ 53) pos]
    apply roundDiv_mono_num
    linarith
  · have below := spacing_le sparse
    rw [Nat.le_div_iff_mul_le h, Nat.pow_add] at below
    rw [← roundDiv_mul .toEven (2 ^ 52) pos]
    apply roundDiv_mono_num
    linarith

theorem rounded_mono {num den num' den' : Nat} (hd : 0 < den) (hd' : 0 < den')
    (h : num * den' ≤ num' * den) : rounded num den ≤ rounded num' den' := by
  have quotients : num / den ≤ num' / den' := by
    rw [Nat.le_div_iff_mul_le hd']
    have floor := Nat.div_mul_le_self num den
    have := Nat.mul_le_mul_right den' floor
    have := Nat.le_trans this h
    apply Nat.le_of_mul_le_mul_right _ hd
    linarith
  have spacings : spacing num den ≤ spacing num' den' := by
    have above := lt_spacing num' den'
    rcases Nat.eq_zero_or_pos (spacing num den) with dense | sparse
    · omega
    · have below := spacing_le sparse
      have := Nat.lt_of_le_of_lt (Nat.le_trans below quotients) above
      have := (Nat.pow_lt_pow_iff_right (by decide)).1 this
      omega
  rw [rounded, rounded]
  rcases Nat.lt_or_eq_of_le spacings with less | same
  · -- a power of two lies between them, and it is itself a value
    have most := (significand_bounds num hd).1
    have least := (significand_bounds num' hd').2 (by omega)
    have step : (spacing num den + 1) * 2 ^ 52 ≤ spacing num' den' * 2 ^ 52 :=
      Nat.mul_le_mul_right _ less
    omega
  · rw [same]
    apply Nat.add_le_add_left
    have power : 0 < 2 ^ spacing num' den' := Nat.pow_pos (by decide)
    apply roundDiv_mono _ (Nat.mul_pos hd power) (Nat.mul_pos hd' power)
    have := Nat.mul_le_mul_right (2 ^ spacing num' den') h
    linarith

theorem rounded_mul {m e : Nat} (low : e = 0 ∨ 2 ^ 52 ≤ m) (high : m < 2 ^ 53) :
    rounded (m * 2 ^ e) 1 = e * 2 ^ 52 + m := by
  have power : 0 < 2 ^ e := Nat.pow_pos (by decide)
  have even : spacing (m * 2 ^ e) 1 = e := by
    apply spacing_eq
    · rw [Nat.div_one, Nat.add_comm, Nat.pow_add]
      exact low.imp_right (Nat.mul_le_mul_right _)
    · rw [Nat.div_one, Nat.add_comm, Nat.pow_add]
      exact Nat.mul_lt_mul_of_pos_right high power
  rw [rounded, even, Nat.one_mul, roundDiv_mul _ _ power]

/-- A value is its own nearest one. -/
theorem rounded_units (rank : Nat) : rounded (units rank) 1 = rank := by
  rw [units]
  split
  · rename_i small
    have same := rounded_mul (m := rank) (e := 0) (.inl rfl) (by omega)
    rwa [Nat.pow_zero, Nat.mul_one, Nat.zero_mul, Nat.zero_add] at same
  · rename_i large
    have fraction := Nat.mod_lt rank (by decide : 0 < 2 ^ 52)
    rw [rounded_mul (.inr (Nat.le_add_right ..)) (by omega)]
    omega

theorem units_le_units_iff {a b : Nat} : units a ≤ units b ↔ a ≤ b := by
  have reflects (a b : Nat) (h : units a ≤ units b) : a ≤ b := by
    rw [← rounded_units a, ← rounded_units b]
    apply rounded_mono Nat.one_pos Nat.one_pos
    rwa [Nat.mul_one, Nat.mul_one]
  refine ⟨reflects a b, fun h => ?_⟩
  rcases Nat.le_total (units a) (units b) with le | ge
  · exact le
  · rw [Nat.le_antisymm h (reflects b a ge)]

end PageAid.Number
