import Mathlib
import PageAid.Proofs.Number.Nearest

/-!
How doubles are rounded. A significand that loses bits keeps two of them in mind, which is all that
it takes to round to the nearest value (`roundedMantissa_of_shows`).
-/

namespace PageAid.Number

open Float.Model Float.Model.UnpackedFloat

/-! ### Bits that are dropped -/

/-- The whole part of `num / den`, whether the rest is a half or more, and whether it is anything
else than nothing or a half. -/
structure Shows (m : ExtendedMantissa) (num den : Nat) : Prop where
  mantissa : m.mantissa = num / den
  roundBit : m.roundBit = true ↔ den ≤ 2 * (num % den)
  stickyBit : m.stickyBit = true ↔ num % den ≠ 0 ∧ 2 * (num % den) ≠ den

theorem shows_exact (n : Nat) : Shows (.ofMantissaAndAccuracy n .exact) n 1 := by
  refine ⟨by simp [ExtendedMantissa.ofMantissaAndAccuracy], ?_, ?_⟩
  · simp [ExtendedMantissa.ofMantissaAndAccuracy, Nat.mod_one]
  · simp [ExtendedMantissa.ofMantissaAndAccuracy, Nat.mod_one]

theorem shows_fraction (num : Nat) {den : Nat} (h : 0 < den) :
    Shows (.ofMantissaAndAccuracy (num / den) (accuracyOfFraction (num % den) den)) num den := by
  rw [accuracyOfFraction]
  split
  · rename_i none
    refine ⟨rfl, ?_, ?_⟩
    · simp [ExtendedMantissa.ofMantissaAndAccuracy, none]
      omega
    · simp [ExtendedMantissa.ofMantissaAndAccuracy, none]
  · rename_i some
    cases half : compare (2 * (num % den)) den with
    | lt =>
        have := Nat.compare_eq_lt.1 half
        exact ⟨rfl, by simp [ExtendedMantissa.ofMantissaAndAccuracy]; omega,
          by simp [ExtendedMantissa.ofMantissaAndAccuracy]; omega⟩
    | eq =>
        have := Nat.compare_eq_eq.1 half
        exact ⟨rfl, by simp [ExtendedMantissa.ofMantissaAndAccuracy]; omega,
          by simp [ExtendedMantissa.ofMantissaAndAccuracy]; omega⟩
    | gt =>
        have := Nat.compare_eq_gt.1 half
        exact ⟨rfl, by simp [ExtendedMantissa.ofMantissaAndAccuracy]; omega,
          by simp [ExtendedMantissa.ofMantissaAndAccuracy]; omega⟩

theorem shows_shiftRightOne {m : ExtendedMantissa} {num den : Nat} (hd : 0 < den)
    (h : Shows m num den) : Shows m.shiftRightOne num (den * 2) := by
  have less := Nat.mod_lt num hd
  have rest : num % (den * 2) = num % den + den * (num / den % 2) := Nat.mod_mul
  have bit := Nat.mod_two_eq_zero_or_one (num / den)
  refine ⟨?_, ?_, ?_⟩
  · simp only [ExtendedMantissa.shiftRightOne, h.mantissa]
    rw [Nat.div_div_eq_div_mul]
  · simp only [ExtendedMantissa.shiftRightOne, h.mantissa, rest]
    rcases bit with bit | bit <;> simp [bit] <;> omega
  · simp only [ExtendedMantissa.shiftRightOne, Bool.or_eq_true, h.roundBit, h.stickyBit, rest]
    rcases bit with bit | bit <;> simp [bit] <;> omega

theorem shows_shiftRight {m : ExtendedMantissa} {num den : Nat} (hd : 0 < den)
    (h : Shows m num den) (n : Nat) : Shows (m >>> n) num (den * 2 ^ n) := by
  induction n with
  | zero =>
      rw [Nat.pow_zero, Nat.mul_one]
      exact h
  | succ n ih =>
      rw [Nat.pow_succ, ← Nat.mul_assoc]
      exact shows_shiftRightOne (Nat.mul_pos hd (Nat.pow_pos (by decide))) ih

theorem roundedMantissa_of_shows {m : ExtendedMantissa} {num den : Nat}
    (h : Shows m num den) : m.roundedMantissa = roundDiv .toEven num den := by
  obtain ⟨mantissa, roundBit, stickyBit⟩ := m
  obtain ⟨rfl, roundBit', stickyBit'⟩ := h
  dsimp only at roundBit' stickyBit'
  rw [ExtendedMantissa.roundedMantissa, roundDiv]
  cases roundBit <;> cases stickyBit <;>
    simp [ExtendedMantissa.accuracy, Accuracy.roundToNearestEven] at roundBit' stickyBit' ⊢ <;>
    split_ifs <;> omega

/-! ### Bits -/

/-- The rank of infinity; those above it are of what is no number. -/
def infinityRank : Nat := 2047 * 2 ^ 52

def signBit : Sign → Nat
  | .negative => 2 ^ 63
  | .positive => 0

theorem toNat_packComponents (s : Sign) (e : BitVec 11) (m : BitVec 52) :
    (packComponents .binary64 s e m).toNat = signBit s + e.toNat * 2 ^ 52 + m.toNat := by
  have append {a b : Nat} (x : BitVec a) (y : BitVec b) :
      (x ++ y).toNat = x.toNat * 2 ^ b + y.toNat := by
    rw [BitVec.toNat_append, ← Nat.shiftLeft_add_eq_or_of_lt y.isLt, Nat.shiftLeft_eq]
  rw [packComponents, append, append]
  cases s with
  | negative => simp [signBit, Sign.toBitVec]; omega
  | positive => simp [signBit, Sign.toBitVec]

theorem toNat_pack_zero (s : Sign) :
    (UnpackedFloat.pack .binary64 (.zero s)).toNat = signBit s := by
  rw [UnpackedFloat.pack, packedZero, toNat_packComponents]
  rfl

theorem toNat_pack_infinity (s : Sign) :
    (UnpackedFloat.pack .binary64 (.infinity s)).toNat = signBit s + infinityRank := by
  rw [UnpackedFloat.pack, packedInfinity, toNat_packComponents]
  rfl

/-- The significand has 53 bits, or as many as there are where values are as dense as they get. -/
structure Canonical (m : Nat) (e : Int) : Prop where
  low : 2 ^ 52 ≤ m ∨ e = -1074
  high : m < 2 ^ 53
  least : -1074 ≤ e

/-- The rank of `m * 2 ^ e`, if that is the canonical form. -/
def rankOf (m : Nat) (e : Int) : Nat := (e + 1074).toNat * 2 ^ 52 + m

theorem toNat_pack_finite {m : Nat} {e : Int} (h : Canonical m e) (s : Sign) (pos : 0 < m) :
    (UnpackedFloat.pack .binary64 (.finite s m e pos)).toNat =
      signBit s + min infinityRank (rankOf m e) := by
  obtain ⟨low, high, least⟩ := h
  have bias : (e + Format.exponentBias .binary64 + (52 : Nat)).toNat = (e + 1074).toNat + 1 := by
    have : (Format.exponentBias .binary64 : Int) = 1023 := rfl
    omega
  have bits : Format.mantissaBits .binary64 = 53 := rfl
  rw [UnpackedFloat.pack]
  dsimp only
  rw [bias, bits]
  split
  · rename_i beyond
    have large : infinityRank ≤ rankOf m e := by
      rw [infinityRank, rankOf]
      rcases low with low | low <;> omega
    rw [packedInfinity, toNat_packComponents, Nat.min_eq_left large]
    rfl
  · rename_i within
    have small : rankOf m e ≤ infinityRank := by
      rw [infinityRank, rankOf]
      omega
    rw [Nat.min_eq_right small, rankOf]
    split
    · rename_i normal
      have leading : 2 ^ 52 ≤ m := by
        have := Nat.log2_self_le (Nat.pos_iff_ne_zero.1 pos)
        rwa [Nat.succ.inj normal] at this
      rw [toNat_packComponents, BitVec.toNat_ofNat, BitVec.toNat_ofNat]
      omega
    · rename_i subnormal
      have short : m < 2 ^ 52 := by
        have bits := (Nat.log2_lt (Nat.pos_iff_ne_zero.1 pos)).2 high
        have fewer : m.log2 < 52 := by omega
        exact (Nat.log2_lt (Nat.pos_iff_ne_zero.1 pos)).1 fewer
      rw [toNat_packComponents, BitVec.toNat_ofNat, BitVec.toNat_ofNat]
      omega

/-! ### Rounding -/

def excess (m : Nat) (e : Int) : Nat :=
  (max (totalExponent m e - 53) (-1074) - e).toNat

def finiteOrZero (s : Sign) (m : Nat) (e : Int) : UnpackedFloat :=
  if h : m = 0 then .zero s else .finite s m e (Nat.pos_of_ne_zero h)

theorem roundWithAccuracy_eq (s : Sign) (m : Nat) (e : Int) (a : Accuracy) :
    roundWithAccuracy .binary64 s m e a =
      let r := (ExtendedMantissa.ofMantissaAndAccuracy m a >>> excess m e).roundedMantissa
      let e' := e + excess m e
      finiteOrZero s (ExtendedMantissa.ofMantissaAndAccuracy r .exact >>> excess r e').mantissa
        (e' + excess r e') := rfl

theorem toNat_pack_finiteOrZero {m : Nat} {e : Int} (h : Canonical m e) (s : Sign) :
    (UnpackedFloat.pack .binary64 (finiteOrZero s m e)).toNat =
      signBit s + min infinityRank (rankOf m e) := by
  rw [finiteOrZero]
  split
  · rename_i zero
    have least : e = -1074 := h.low.resolve_left (by omega)
    rw [toNat_pack_zero, rankOf, zero, least]
    rfl
  · exact toNat_pack_finite h s _

/-- A significand of at most 53 bits is packed as it is, and so is the one after the greatest of
these. -/
theorem toNat_pack_shifted {r t : Nat} (high : r ≤ 2 ^ 53) (low : 0 < t → 2 ^ 52 ≤ r) (s : Sign) :
    let e : Int := t - 1074
    (UnpackedFloat.pack .binary64 (finiteOrZero s
      (ExtendedMantissa.ofMantissaAndAccuracy r .exact >>> excess r e).mantissa
      (e + excess r e))).toNat = signBit s + min infinityRank (t * 2 ^ 52 + r) := by
  intro e
  have mantissa : (ExtendedMantissa.ofMantissaAndAccuracy r .exact >>> excess r e).mantissa =
      r / 2 ^ excess r e := by
    rw [(shows_shiftRight Nat.one_pos (shows_exact r) _).mantissa, Nat.one_mul]
  rcases Nat.lt_or_eq_of_le high with less | rfl
  · have bits : r.log2 ≤ 52 := by
      rcases Nat.eq_zero_or_pos r with rfl | pos
      · decide
      · have := (Nat.log2_lt (Nat.pos_iff_ne_zero.1 pos)).2 less
        omega
    have none : excess r e = 0 := by
      rw [excess, totalExponent]
      omega
    have canonical : Canonical r e := ⟨by omega, less, by omega⟩
    have packed := toNat_pack_finiteOrZero canonical s
    have rank : rankOf r e = t * 2 ^ 52 + r := by rw [rankOf]; omega
    rw [mantissa, none, Nat.pow_zero, Nat.div_one]
    rw [← rank, ← packed]
    simp
  · have one : excess (2 ^ 53) e = 1 := by
      have bits : Nat.log2 (2 ^ 53) = 53 := by decide
      rw [excess, totalExponent, bits]
      omega
    have canonical : Canonical (2 ^ 52) (e + 1) := ⟨.inl (Nat.le_refl _), by decide, by omega⟩
    have packed := toNat_pack_finiteOrZero canonical s
    have rank : rankOf (2 ^ 52) (e + 1) = t * 2 ^ 52 + 2 ^ 53 := by rw [rankOf]; omega
    rw [mantissa, one, ← rank, ← packed]
    rfl

theorem rounded_congr {num den num' den' : Nat} (hd : 0 < den) (hd' : 0 < den')
    (h : num * den' = num' * den) : rounded num den = rounded num' den' :=
  Nat.le_antisymm (rounded_mono hd hd' h.le) (rounded_mono hd' hd h.ge)

theorem mantissa_ofMantissaAndAccuracy (m : Nat) (a : Accuracy) :
    (ExtendedMantissa.ofMantissaAndAccuracy m a).mantissa = m := by
  cases a with
  | exact => rfl
  | inexact o => cases o <;> rfl

section

variable {m num den : Nat} {e : Int} (hd : 0 < den) (floor : m = num / den)
  (enough : e ≤ max (totalExponent m e - 53) (-1074))

include hd floor enough

theorem spacing_shifted :
    (spacing (num * 2 ^ (e + 1074).toNat) (den * 2 ^ (-(e + 1074)).toNat) : Int) =
      e + excess m e + 1074 := by
  have excess_def : excess m e = (max (m.log2 + 1 + e - 53) (-1074) - e).toNat := rfl
  rw [totalExponent] at enough
  generalize excess m e = k at *
  obtain ⟨t, ht⟩ := Int.eq_ofNat_of_zero_le (a := e + k + 1074) (by omega)
  obtain ⟨up, hup⟩ : ∃ up, up = (e + 1074).toNat := ⟨_, rfl⟩
  obtain ⟨down, hdown⟩ : ∃ down, down = (-(e + 1074)).toNat := ⟨_, rfl⟩
  rw [← hup, ← hdown, ht, Int.natCast_inj]
  have pos : 0 < den * 2 ^ down := Nat.mul_pos hd (Nat.pow_pos (by decide))
  have below : m * den ≤ num := floor ▸ Nat.div_mul_le_self num den
  have above : num < (m + 1) * den := (Nat.div_lt_iff_lt_mul hd).1 (by omega)
  apply spacing_eq
  · rcases Nat.eq_zero_or_pos t with zero | sparse
    · exact .inl zero
    · refine .inr ?_
      have some : m ≠ 0 := by
        rintro rfl
        have : Nat.log2 0 = 0 := by decide
        omega
      have leading := Nat.log2_self_le some
      have powers : 2 ^ (t + 52) * 2 ^ down = 2 ^ m.log2 * 2 ^ up := by
        rw [← Nat.pow_add, ← Nat.pow_add]
        congr 1
        omega
      rw [Nat.le_div_iff_mul_le pos]
      calc 2 ^ (t + 52) * (den * 2 ^ down)
          = 2 ^ m.log2 * den * 2 ^ up := by rw [Nat.mul_left_comm, powers]; ring
        _ ≤ m * den * 2 ^ up := by gcongr
        _ ≤ num * 2 ^ up := by gcongr
  · rw [Nat.div_lt_iff_lt_mul pos]
    have leading : m + 1 ≤ 2 ^ (m.log2 + 1) := Nat.lt_log2_self
    have powers : 2 ^ (m.log2 + 1 + up) ≤ 2 ^ (t + 53 + down) :=
      Nat.pow_le_pow_right (by decide) (by omega)
    calc num * 2 ^ up
        < (m + 1) * den * 2 ^ up := by gcongr
      _ ≤ 2 ^ (m.log2 + 1) * den * 2 ^ up := by gcongr
      _ = 2 ^ (m.log2 + 1 + up) * den := by rw [Nat.pow_add]; ring
      _ ≤ 2 ^ (t + 53 + down) * den := Nat.mul_le_mul_right _ powers
      _ = 2 ^ (t + 53) * (den * 2 ^ down) := by rw [Nat.pow_add]; ring

end

/-- A significand that stands for `num / den` is rounded to the value nearest to
`num / den * 2 ^ e`, if it has at least as many bits as that one. -/
theorem toNat_pack_roundWithAccuracy {m num den : Nat} {e : Int} {a : Accuracy} (hd : 0 < den)
    (shown : Shows (.ofMantissaAndAccuracy m a) num den)
    (enough : e ≤ max (totalExponent m e - 53) (-1074)) (s : Sign) :
    (UnpackedFloat.pack .binary64 (roundWithAccuracy .binary64 s m e a)).toNat =
      signBit s + min infinityRank
        (rounded (num * 2 ^ (e + 1074).toNat) (den * 2 ^ (-(e + 1074)).toNat)) := by
  have floor : m = num / den := (mantissa_ofMantissaAndAccuracy m a).symm.trans shown.mantissa
  have spaced := spacing_shifted hd floor enough
  have pos : 0 < den * 2 ^ (-(e + 1074)).toNat := Nat.mul_pos hd (Nat.pow_pos (by decide))
  have bounds := significand_bounds (num * 2 ^ (e + 1074).toNat) pos
  have rest := roundedMantissa_of_shows (shows_shiftRight hd shown (excess m e))
  rw [rounded, roundWithAccuracy_eq]
  dsimp only
  rw [rest]
  generalize spacing (num * 2 ^ (e + 1074).toNat) (den * 2 ^ (-(e + 1074)).toNat) = t at *
  generalize excess m e = k at *
  -- the bits that are lost are counted from the significand, the spacing from the unit
  have same : roundDiv .toEven (num * 2 ^ (e + 1074).toNat)
      (den * 2 ^ (-(e + 1074)).toNat * 2 ^ t) = roundDiv .toEven num (den * 2 ^ k) := by
    have powers : 2 ^ (-(e + 1074)).toNat * 2 ^ t = 2 ^ (e + 1074).toNat * 2 ^ k := by
      rw [← Nat.pow_add, ← Nat.pow_add]
      congr 1
      omega
    rw [Nat.mul_assoc, powers, Nat.mul_left_comm, Nat.mul_comm num]
    exact roundDiv_mul_mul _ _ _ (Nat.pow_pos (by decide))
  rw [same] at bounds ⊢
  have exponent : e + k = t - 1074 := by omega
  rw [exponent]
  exact toNat_pack_shifted bounds.1 bounds.2 s

end PageAid.Number
