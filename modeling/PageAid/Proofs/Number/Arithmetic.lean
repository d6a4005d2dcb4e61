import PageAid.Proofs.Number.Ranks

/-!
Arithmetic of doubles. The outcome of an operation on finite numbers is the value nearest to the
exact outcome (`hasRank_add`, `hasRank_sub`, `hasRank_mul`, `hasRank_div`).
-/

namespace PageAid.Number

open Float.Model Float.Model.UnpackedFloat

/-! ### The nearest rank -/

/-- The rank of the number nearest to `num / den` units; it is infinite if that is too great. -/
def nearest (num : Int) (den : Nat) : Int :=
  num.sign * (min infinityRank (rounded num.natAbs den) : Nat)

theorem rounded_zero (den : Nat) : rounded 0 den = 0 := by
  have dense : spacing 0 den = 0 := by simp [spacing]
  rw [rounded, dense]
  simp [roundDiv]

theorem nearest_zero (den : Nat) : nearest 0 den = 0 := by
  rw [nearest, Int.sign_zero, Int.zero_mul]

theorem nearest_neg (num : Int) (den : Nat) : nearest (-num) den = -nearest num den := by
  rw [nearest, Int.sign_neg, Int.natAbs_neg, Int.neg_mul, nearest]

theorem nearest_apply (s : Sign) (n den : Nat) :
    nearest (s.apply n) den = s.apply (min infinityRank (rounded n den) : Nat) := by
  rw [nearest]
  rcases Nat.eq_zero_or_pos n with rfl | pos
  · cases s <;> simp [Sign.apply, rounded_zero]
  · cases s with
    | negative =>
        rw [Sign.apply, Sign.apply, Int.sign_neg, Int.sign_eq_one_of_pos (by omega), Int.natAbs_neg,
          Int.natAbs_natCast, Int.neg_mul, Int.one_mul]
    | positive =>
        rw [Sign.apply, Sign.apply, Int.sign_eq_one_of_pos (by omega), Int.natAbs_natCast,
          Int.one_mul]

theorem nearest_mono {num num' : Int} {den den' : Nat} (hd : 0 < den) (hd' : 0 < den')
    (h : num * den' ≤ num' * den) : nearest num den ≤ nearest num' den' := by
  have up {n n' d d' : Nat} (hd : 0 < d) (hd' : 0 < d') (h : n * d' ≤ n' * d) :
      ((min infinityRank (rounded n d) : Nat) : Int) ≤ (min infinityRank (rounded n' d') : Nat) :=
    Int.ofNat_le.2 (min_le_min_left _ (rounded_mono hd hd' h))
  obtain ⟨n, rfl | rfl⟩ := Int.eq_nat_or_neg num
  · have left := nearest_apply .positive n den
    obtain ⟨n', rfl | rfl⟩ := Int.eq_nat_or_neg num'
    · have right := nearest_apply .positive n' den'
      simp only [Sign.apply] at left right
      rw [left, right]
      exact up hd hd' (by exact_mod_cast h)
    · -- a number that is not negative is no greater than one that is not positive
      have below : (0 : Int) ≤ n' * den := by positivity
      have above : (0 : Int) ≤ n * den' := by positivity
      have none : (n' : Int) * den = 0 := by rw [Int.neg_mul] at h; omega
      have none' : (n : Int) * den' = 0 := by rw [Int.neg_mul] at h; omega
      have zero : n' = 0 := (Nat.mul_eq_zero.1 (by exact_mod_cast none)).resolve_right (by omega)
      have zero' : n = 0 := (Nat.mul_eq_zero.1 (by exact_mod_cast none')).resolve_right (by omega)
      rw [zero, zero']
      simp [nearest]
  · have left := nearest_apply .negative n den
    obtain ⟨n', rfl | rfl⟩ := Int.eq_nat_or_neg num'
    · have right := nearest_apply .positive n' den'
      simp only [Sign.apply] at left right
      rw [left, right]
      omega
    · have right := nearest_apply .negative n' den'
      simp only [Sign.apply] at left right
      rw [left, right]
      have less : n' * den ≤ n * den' := by
        rw [Int.neg_mul, Int.neg_mul] at h
        exact_mod_cast Int.neg_le_neg_iff.1 h
      exact Int.neg_le_neg (up hd' hd less)

theorem nearest_congr {a b c d : Nat} (hb : 0 < b) (hd : 0 < d) (h : a * d = c * b)
    (s : Sign) : nearest (s.apply a) b = nearest (s.apply c) d := by
  rw [nearest_apply, nearest_apply, rounded_congr hb hd h]

/-! ### What is packed -/

/-- The double is a number, and this is its rank. -/
structure HasRank (x : Float) (r : Int) : Prop where
  isNumber : IsNumber x
  rank : rank x = r

/-- The form is packed as a number with a rank. -/
def Packs (u : UnpackedFloat) (r : Int) : Prop := HasRank (.ofModel (Float.Model.pack u)) r

theorem packs_of_toNat {u : UnpackedFloat} {s : Sign} {a : Nat} (h : a ≤ infinityRank)
    (hu : (UnpackedFloat.pack .binary64 u).toNat = signBit s + a) : Packs u (s.apply a) := by
  have bits : (Float.ofModel (Float.Model.pack u)).toBits.toNat = signBit s + a := hu
  have bound : infinityRank < 2 ^ 63 := by decide
  have same : magnitude (.ofModel (Float.Model.pack u)) = a := by
    rw [magnitude, bits]
    cases s <;> rw [signBit] <;> omega
  have sign : signOf (.ofModel (Float.Model.pack u)) = s := by
    rw [signOf, bits]
    cases s with
    | negative => exact if_neg (by rw [signBit]; omega)
    | positive => exact if_pos (by rw [signBit]; omega)
  refine ⟨?_, ?_⟩
  · rw [IsNumber, same]
    exact h
  · rw [rank, same, sign]

theorem packs_zero (s : Sign) : Packs (.zero s) 0 := by
  have packed := packs_of_toNat (Nat.zero_le _) (toNat_pack_zero s)
  cases s <;> exact packed

theorem packs_infinity (s : Sign) : Packs (.infinity s) (s.apply infinityRank) :=
  packs_of_toNat (Nat.le_refl _) (toNat_pack_infinity s)

theorem packs_roundWithAccuracy {m num den : Nat} {e : Int} {a : Accuracy} (hd : 0 < den)
    (shown : Shows (.ofMantissaAndAccuracy m a) num den)
    (enough : e ≤ max (totalExponent m e - 53) (-1074)) (s : Sign) :
    Packs (roundWithAccuracy .binary64 s m e a)
      (nearest (s.apply (num * 2 ^ (e + 1074).toNat : Nat)) (den * 2 ^ (-(e + 1074)).toNat)) := by
  rw [nearest_apply]
  exact packs_of_toNat (Nat.min_le_left _ _) (toNat_pack_roundWithAccuracy hd shown enough s)

theorem log2_mul_pow {m : Nat} (pos : 0 < m) (k : Nat) : (m * 2 ^ k).log2 = m.log2 + k := by
  induction k with
  | zero => rw [Nat.pow_zero, Nat.mul_one, Nat.add_zero]
  | succ k ih =>
      have some : m * 2 ^ k ≠ 0 := by positivity
      rw [Nat.pow_succ, ← Nat.mul_assoc, Nat.mul_comm _ 2, Nat.log2_two_mul some, ih]
      rfl

theorem packs_round {m : Nat} (pos : 0 < m) (e : Int) (s : Sign) :
    Packs (round .binary64 s m e)
      (nearest (s.apply (m * 2 ^ (e + 1074).toNat : Nat)) (2 ^ (-(e + 1074)).toNat)) := by
  obtain ⟨target, ht⟩ : ∃ t : Int, t = max (totalExponent m e - 53) (-1074) := ⟨_, rfl⟩
  obtain ⟨k, hk⟩ : ∃ k : Nat, k = (e - target).toNat := ⟨_, rfl⟩
  have unfolded : round .binary64 s m e =
      roundWithAccuracy .binary64 s (m * 2 ^ k) (e - k) .exact := by
    rw [← Nat.shiftLeft_eq, hk, ht]
    rfl
  have enough : e - k ≤ max (totalExponent (m * 2 ^ k) (e - k) - 53) (-1074) := by
    rw [totalExponent, log2_mul_pow pos]
    rw [totalExponent] at ht
    omega
  have rounds := packs_roundWithAccuracy Nat.one_pos (shows_exact _) enough s
  have same := nearest_congr (a := m * 2 ^ k * 2 ^ (e - k + 1074).toNat)
    (b := 1 * 2 ^ (-(e - k + 1074)).toNat) (c := m * 2 ^ (e + 1074).toNat)
    (d := 2 ^ (-(e + 1074)).toNat) (by positivity) (by positivity) (by
      rw [Nat.one_mul, Nat.mul_assoc, Nat.mul_assoc, Nat.mul_assoc, ← Nat.pow_add, ← Nat.pow_add,
        ← Nat.pow_add]
      congr 2
      omega) s
  rwa [unfolded, ← same]

theorem packs_normalize (m : Int) (e : Int) (s : Sign) :
    Packs (UnpackedFloat.normalize .binary64 m e s)
      (nearest (m * 2 ^ (e + 1074).toNat) (2 ^ (-(e + 1074)).toNat)) := by
  rw [UnpackedFloat.normalize]
  rcases lt_trichotomy m 0 with less | rfl | greater
  · rw [compare_lt_iff_lt.2 less]
    have rounds := packs_round (m := (-m).toNat) (by omega) e .negative
    have same : Sign.negative.apply ((-m).toNat * 2 ^ (e + 1074).toNat : Nat) =
        m * 2 ^ (e + 1074).toNat := by
      rw [Sign.apply, Int.natCast_mul, Int.toNat_of_nonneg (by omega), Int.neg_mul, Int.neg_neg]
      rfl
    rwa [← same]
  · rw [compare_eq_iff_eq.2 rfl]
    simpa [nearest] using packs_zero s
  · rw [compare_gt_iff_gt.2 greater]
    have rounds := packs_round (m := m.toNat) (by omega) e .positive
    have same : Sign.positive.apply (m.toNat * 2 ^ (e + 1074).toNat : Nat) =
        m * 2 ^ (e + 1074).toNat := by
      rw [Sign.apply, Int.natCast_mul, Int.toNat_of_nonneg (by omega)]
      rfl
    rwa [← same]

/-! ### Operations on forms -/

def wholeUnits : Nat := 2 ^ 1074

theorem wholeUnits_pos : 0 < wholeUnits := pow_pos two_pos 1074

theorem pow_mul_wholeUnits (n : Nat) : 2 ^ n * wholeUnits = 2 ^ (n + 1074) := by
  rw [wholeUnits, ← pow_add]

def scaled (s : Sign) (m : Nat) (e : Int) : Int := s.apply (m * 2 ^ (e + 1074).toNat : Nat)

theorem packs_finiteOrZero {m : Nat} {e : Int} (h : Canonical m e) (s : Sign) :
    Packs (finiteOrZero s m e) (nearest (scaled s m e) 1) := by
  have exact : rounded (m * 2 ^ (e + 1074).toNat) 1 = rankOf m e := by
    apply rounded_mul
    · have := h.low
      omega
    · exact h.high
  rw [scaled, nearest_apply, exact]
  exact packs_of_toNat (Nat.min_le_left _ _) (toNat_pack_finiteOrZero h s)

theorem scaled_zero (s : Sign) (e : Int) : scaled s 0 e = 0 := by
  cases s <;> simp [scaled, Sign.apply]

theorem apply_neg (s : Sign) (n : Int) : (-s).apply n = -s.apply n := by
  cases s <;> simp [Sign.apply]

theorem apply_mul (s : Sign) (n k : Nat) : s.apply n * k = s.apply (n * k : Nat) := by
  cases s <;> simp [Sign.apply]

theorem scaled_of_le {d e : Int} (le : d ≤ e) (least : -1074 ≤ d) (s : Sign) (m : Nat) :
    s.apply (m <<< (e - d).toNat : Nat) * 2 ^ (d + 1074).toNat = scaled s m e := by
  have powers : 2 ^ (e - d).toNat * 2 ^ (d + 1074).toNat = 2 ^ (e + 1074).toNat := by
    rw [← Nat.pow_add]
    congr 1
    omega
  have moved := apply_mul s (m * 2 ^ (e - d).toNat) (2 ^ (d + 1074).toNat)
  rw [Nat.mul_assoc, powers] at moved
  rw [Nat.shiftLeft_eq, scaled, ← moved]
  norm_cast

theorem packs_add {m m' : Nat} {e e' : Int} (h : Canonical m e) (h' : Canonical m' e')
    (s s' : Sign) :
    Packs (add .binary64 (finiteOrZero s m e) (finiteOrZero s' m' e'))
      (nearest (scaled s m e + scaled s' m' e') 1) := by
  rcases Nat.eq_zero_or_pos m with rfl | pos
  · rcases Nat.eq_zero_or_pos m' with rfl | pos'
    · rw [scaled_zero, scaled_zero]
      cases s <;> cases s' <;> exact packs_zero _
    · have packed := packs_finiteOrZero h' s'
      rw [scaled_zero, Int.zero_add]
      rw [finiteOrZero_of_pos pos'] at packed ⊢
      exact packed
  · rcases Nat.eq_zero_or_pos m' with rfl | pos'
    · have packed := packs_finiteOrZero h s
      rw [scaled_zero, Int.add_zero]
      rw [finiteOrZero_of_pos pos] at packed ⊢
      exact packed
    · rw [finiteOrZero_of_pos pos, finiteOrZero_of_pos pos']
      have packed := packs_normalize (s.apply (m <<< (e - min e e').toNat : Nat) +
        s'.apply (m' <<< (e' - min e e').toNat : Nat)) (min e e') .positive
      have least := h.least
      have least' := h'.least
      have whole : (-(min e e' + 1074)).toNat = 0 := by omega
      rw [whole, Nat.pow_zero, Int.add_mul, scaled_of_le (by omega) (by omega),
        scaled_of_le (by omega) (by omega)] at packed
      exact packed

theorem sub_eq_add_neg (u v : UnpackedFloat) : sub .binary64 u v = add .binary64 u v.neg := by
  cases u with
  | notANumber => cases v <;> rfl
  | infinity s => cases v <;> rfl
  | zero s => cases v <;> rfl
  | finite s m e pos =>
      cases v with
      | finite s' m' e' pos' =>
          simp only [UnpackedFloat.sub, UnpackedFloat.neg, UnpackedFloat.add, apply_neg,
            Int.sub_eq_add_neg]
      | _ => rfl

theorem neg_finiteOrZero (s : Sign) (m : Nat) (e : Int) :
    (finiteOrZero s m e).neg = finiteOrZero (-s) m e := by
  rw [finiteOrZero, finiteOrZero]
  split <;> rfl

theorem scaled_neg (s : Sign) (m : Nat) (e : Int) : scaled (-s) m e = -scaled s m e := by
  rw [scaled, apply_neg, scaled]

theorem scaled_mul (s s' : Sign) (m m' : Nat) (e e' : Int) :
    scaled s m e * scaled s' m' e' =
      (s * s').apply (m * 2 ^ (e + 1074).toNat * (m' * 2 ^ (e' + 1074).toNat) : Nat) := by
  rw [scaled, scaled, Int.natCast_mul (m * 2 ^ (e + 1074).toNat)]
  cases s <;> cases s' <;> simp only [Sign.apply, Int.neg_mul, Int.mul_neg, Int.neg_neg]

theorem packs_mul {m m' : Nat} {e e' : Int} (h : Canonical m e) (h' : Canonical m' e')
    (s s' : Sign) :
    Packs (mul .binary64 (finiteOrZero s m e) (finiteOrZero s' m' e'))
      (nearest (scaled s m e * scaled s' m' e') wholeUnits) := by
  rcases Nat.eq_zero_or_pos m with rfl | pos
  · rw [scaled_zero, Int.zero_mul, nearest_zero]
    rcases Nat.eq_zero_or_pos m' with rfl | pos'
    · exact packs_zero _
    · rw [finiteOrZero_of_pos pos']
      exact packs_zero _
  · rcases Nat.eq_zero_or_pos m' with rfl | pos'
    · rw [scaled_zero, Int.mul_zero, nearest_zero, finiteOrZero_of_pos pos]
      exact packs_zero _
    · rw [finiteOrZero_of_pos pos, finiteOrZero_of_pos pos', scaled_mul]
      obtain ⟨low, -, least⟩ := h
      obtain ⟨low', -, least'⟩ := h'
      have enough : e + e' ≤ max (totalExponent (m * m') (e + e') - 53) (-1074) := by
        rw [totalExponent]
        by_cases long : 2 ^ 52 ≤ m * m'
        · have bits := (Nat.le_log2 (by positivity)).2 long
          omega
        · -- a product with fewer bits is one of numbers where values are as dense as they get
          have short : ¬2 ^ 52 ≤ m := fun le =>
            long (Nat.le_trans le (Nat.le_mul_of_pos_right m pos'))
          have short' : ¬2 ^ 52 ≤ m' := fun le =>
            long (Nat.le_trans le (Nat.le_mul_of_pos_left m' pos))
          omega
      have packed := packs_roundWithAccuracy Nat.one_pos (shows_exact (m * m')) enough (s * s')
      have same := nearest_congr (a := m * m' * 2 ^ (e + e' + 1074).toNat)
        (b := 1 * 2 ^ (-(e + e' + 1074)).toNat)
        (c := m * 2 ^ (e + 1074).toNat * (m' * 2 ^ (e' + 1074).toNat)) (d := wholeUnits)
        (by positivity) wholeUnits_pos (by
          have powers : 2 ^ (e + e' + 1074).toNat * wholeUnits =
              2 ^ (e + 1074).toNat * 2 ^ (e' + 1074).toNat * 2 ^ (-(e + e' + 1074)).toNat := by
            rw [pow_mul_wholeUnits, ← Nat.pow_add, ← Nat.pow_add]
            congr 1
            omega
          rw [Nat.mul_assoc, powers]
          ring) (s * s')
      rw [← same]
      exact packed

section

variable {m m' : Nat} (pos : 0 < m) (pos' : 0 < m') (e e' : Int)

def quotientExponent (m m' : Nat) (e e' : Int) : Int :=
  min (e - e') (max (totalExponent m e - totalExponent m' e' - 53) (-1074))

include pos pos'

/-- The quotient has as many bits as its value needs. -/
theorem enough_quotient :
    let t := quotientExponent m m' e e'
    t ≤ max (totalExponent (m * 2 ^ (e - e' - t).toNat / m') t - 53) (-1074) := by
  intro t
  have ht : t = min (e - e') (max (totalExponent m e - totalExponent m' e' - 53) (-1074)) := rfl
  rw [totalExponent, totalExponent] at ht
  rw [totalExponent]
  generalize t = t at *
  obtain ⟨k, hk⟩ : ∃ k, k = (e - e' - t).toNat := ⟨_, rfl⟩
  rw [← hk]
  by_cases dense : t ≤ -1074
  · omega
  · have shifted : m'.log2 + 53 ≤ m.log2 + k := by omega
    have least := Nat.log2_self_le (Nat.pos_iff_ne_zero.1 pos)
    have most : m' ≤ 2 ^ (m'.log2 + 1) := Nat.le_of_lt Nat.lt_log2_self
    have long : 2 ^ 52 ≤ m * 2 ^ k / m' := by
      rw [Nat.le_div_iff_mul_le pos']
      calc 2 ^ 52 * m' ≤ 2 ^ 52 * 2 ^ (m'.log2 + 1) := by gcongr
        _ = 2 ^ (m'.log2 + 53) := by rw [← Nat.pow_add]; congr 1; omega
        _ ≤ 2 ^ (m.log2 + k) := Nat.pow_le_pow_right (by decide) shifted
        _ = 2 ^ m.log2 * 2 ^ k := Nat.pow_add ..
        _ ≤ m * 2 ^ k := by gcongr
    have bits := (Nat.le_log2 (by omega)).2 long
    omega

end

theorem packs_div {m m' : Nat} {e e' : Int} (h : Canonical m e) (h' : Canonical m' e')
    (pos' : 0 < m') (s : Sign) :
    Packs (div .binary64 (finiteOrZero s m e) (finiteOrZero .positive m' e'))
      (nearest (scaled s m e * wholeUnits) (m' * 2 ^ (e' + 1074).toNat)) := by
  rw [finiteOrZero_of_pos pos']
  rcases Nat.eq_zero_or_pos m with rfl | pos
  · rw [scaled_zero, Int.zero_mul, nearest_zero]
    exact packs_zero _
  · obtain ⟨t, ht⟩ : ∃ t, t = quotientExponent m m' e e' := ⟨_, rfl⟩
    obtain ⟨k, hk⟩ : ∃ k, k = (e - e' - t).toNat := ⟨_, rfl⟩
    have enough := enough_quotient pos pos' e e'
    dsimp only at enough
    rw [← ht, ← hk] at enough
    have unfolded : div .binary64 (.finite s m e pos) (.finite .positive m' e' pos') =
        roundWithAccuracy .binary64 (s / .positive) (m * 2 ^ k / m') t
          (accuracyOfFraction (m * 2 ^ k % m') m') := by
      rw [← Nat.shiftLeft_eq, hk, ht]
      rfl
    have sign : s / .positive = s := by cases s <;> rfl
    have packed := packs_roundWithAccuracy pos' (shows_fraction (m * 2 ^ k) pos') enough s
    have same := nearest_congr (a := m * 2 ^ k * 2 ^ (t + 1074).toNat)
      (b := m' * 2 ^ (-(t + 1074)).toNat) (c := m * 2 ^ (e + 1074).toNat * wholeUnits)
      (d := m' * 2 ^ (e' + 1074).toNat) (by positivity) (by positivity) (by
        have least := h.least
        have least' := h'.least
        have below : t ≤ e - e' := by rw [ht, quotientExponent]; omega
        have powers : 2 ^ k * 2 ^ (t + 1074).toNat * 2 ^ (e' + 1074).toNat =
            2 ^ ((e + 1074).toNat + 1074) * 2 ^ (-(t + 1074)).toNat := by
          rw [← Nat.pow_add, ← Nat.pow_add, ← Nat.pow_add]
          congr 1
          omega
        rw [← pow_mul_wholeUnits] at powers
        calc m * 2 ^ k * 2 ^ (t + 1074).toNat * (m' * 2 ^ (e' + 1074).toNat)
            = m * m' * (2 ^ k * 2 ^ (t + 1074).toNat * 2 ^ (e' + 1074).toNat) := by ring
          _ = _ := by rw [powers]; ring) s
    rw [finiteOrZero_of_pos pos, unfolded, sign, scaled, apply_mul, ← same]
    exact packed

/-! ### Operations -/

section

variable {x y : Float} {r : Int}

theorem unpack_of_isFinite (h : IsFinite x) :
    x.toModel.unpack =
      finiteOrZero (signOf x) (significandOf (magnitude x)) (exponentOf (magnitude x)) := by
  rw [unpack_eq]
  exact if_pos h

theorem unpack_of_eq (h : magnitude x = infinityRank) :
    x.toModel.unpack = .infinity (signOf x) := by
  rw [unpack_eq, if_neg (by omega), if_pos h]

theorem value_eq (x : Float) :
    value x = scaled (signOf x) (significandOf (magnitude x)) (exponentOf (magnitude x)) := by
  rw [value, units_eq, scaled]

theorem hasRank_of_isFinite (h : IsFinite x) : HasRank x (nearest (value x) 1) := by
  refine ⟨h.isNumber, ?_⟩
  rw [IsFinite] at h
  rw [value, nearest_apply, rounded_units, Nat.min_eq_right (Nat.le_of_lt h), rank]

theorem hasRank_add (hx : IsFinite x) (hy : IsFinite y) :
    HasRank (x + y) (nearest (value x + value y) 1) := by
  have packed := packs_add (canonical_of_rank (magnitude x)) (canonical_of_rank (magnitude y))
    (signOf x) (signOf y)
  rw [← unpack_of_isFinite hx, ← unpack_of_isFinite hy, ← value_eq, ← value_eq] at packed
  exact packed

theorem hasRank_sub (hx : IsFinite x) (hy : IsFinite y) :
    HasRank (x - y) (nearest (value x - value y) 1) := by
  have packed := packs_add (canonical_of_rank (magnitude x)) (canonical_of_rank (magnitude y))
    (signOf x) (-signOf y)
  rw [← neg_finiteOrZero, ← unpack_of_isFinite hx, ← unpack_of_isFinite hy, scaled_neg, ← value_eq,
    ← value_eq, ← sub_eq_add_neg, ← Int.sub_eq_add_neg] at packed
  exact packed

theorem hasRank_mul (hx : IsFinite x) (hy : IsFinite y) :
    HasRank (x * y) (nearest (value x * value y) wholeUnits) := by
  have packed := packs_mul (canonical_of_rank (magnitude x)) (canonical_of_rank (magnitude y))
    (signOf x) (signOf y)
  rw [← unpack_of_isFinite hx, ← unpack_of_isFinite hy, ← value_eq, ← value_eq] at packed
  exact packed

theorem significandOf_pos {a : Nat} (pos : 0 < a) : 0 < significandOf a := by
  rw [significandOf]
  split <;> omega

theorem value_pos_iff : 0 < value x ↔ signOf x = .positive ∧ 0 < magnitude x := by
  have zero : units (magnitude x) = 0 ↔ magnitude x = 0 := by
    have monotone := @units_le_units_iff (magnitude x) 0
    have none : units 0 = 0 := by decide
    omega
  rw [value]
  cases signOf x with
  | negative => simp [Sign.apply]
  | positive => simp [Sign.apply]; omega

theorem hasRank_div (hx : IsFinite x) (hy : IsFinite y) (pos : 0 < value y) :
    HasRank (x / y) (nearest (value x * wholeUnits) (value y).toNat) := by
  obtain ⟨sign, some⟩ := value_pos_iff.1 pos
  have packed := packs_div (canonical_of_rank (magnitude x)) (canonical_of_rank (magnitude y))
    (significandOf_pos some) (signOf x)
  have divisor : (value y).toNat = significandOf (magnitude y) *
      2 ^ (exponentOf (magnitude y) + 1074).toNat := by
    rw [value_eq, sign]
    exact Int.toNat_natCast _
  rw [← sign, ← unpack_of_isFinite hx, ← unpack_of_isFinite hy, ← value_eq, ← divisor] at packed
  exact packed

theorem hasRank_neg (h : HasRank x r) : HasRank (-x) (-r) := by
  have unfolded : -x = .ofModel (Float.Model.pack x.toModel.unpack.neg) := rfl
  rw [unfolded, ← h.rank]
  rcases Nat.lt_or_eq_of_le h.isNumber with finite | infinite
  · have packed := packs_finiteOrZero (canonical_of_rank (magnitude x)) (-signOf x)
    have own := (hasRank_of_isFinite finite).rank
    rw [scaled_neg, nearest_neg] at packed
    rw [unpack_of_isFinite finite, neg_finiteOrZero, own, value_eq]
    exact packed
  · have packed := packs_infinity (-signOf x)
    rw [apply_neg] at packed
    rw [unpack_of_eq infinite, rank, infinite]
    exact packed

theorem hasRank_toFloat (n : UInt64) :
    HasRank n.toFloat (nearest (n.toNat * wholeUnits : Nat) 1) := by
  have packed := packs_normalize n.toNat 0 .positive
  have up : ((0 : Int) + 1074).toNat = 1074 := rfl
  have down : (-((0 : Int) + 1074)).toNat = 0 := rfl
  rw [up, down, pow_zero] at packed
  rw [Int.natCast_mul, wholeUnits, Nat.cast_pow, Nat.cast_ofNat]
  exact packed

/-! What is no number stays so, and infinity stays what it is. -/

section

variable (h : x.toModel.unpack = .notANumber) (y)

include h

theorem add_of_notANumber : x + y = .ofModel (Float.Model.pack .notANumber) := by
  have unfolded : x + y = .ofModel (Float.Model.pack
    (UnpackedFloat.add .binary64 x.toModel.unpack y.toModel.unpack)) := rfl
  rw [unfolded, h]
  cases y.toModel.unpack <;> rfl

theorem sub_of_notANumber : x - y = .ofModel (Float.Model.pack .notANumber) := by
  have unfolded : x - y = .ofModel (Float.Model.pack
    (UnpackedFloat.sub .binary64 x.toModel.unpack y.toModel.unpack)) := rfl
  rw [unfolded, h]
  cases y.toModel.unpack <;> rfl

end

section

variable (h : magnitude x = infinityRank)

include h

theorem hasRank_of_infinite {z : Float}
    (same : z = .ofModel (Float.Model.pack (.infinity (signOf x)))) : HasRank z (rank x) := by
  rw [same, rank, h]
  exact packs_infinity (signOf x)

theorem hasRank_add_of_infinite (hy : IsFinite y) : HasRank (x + y) (rank x) := by
  apply hasRank_of_infinite h
  have unfolded : x + y = .ofModel (Float.Model.pack
    (UnpackedFloat.add .binary64 x.toModel.unpack y.toModel.unpack)) := rfl
  rw [unfolded, unpack_of_eq h, unpack_of_isFinite hy, finiteOrZero]
  split <;> rfl

theorem hasRank_sub_of_infinite (hy : IsFinite y) : HasRank (x - y) (rank x) := by
  apply hasRank_of_infinite h
  have unfolded : x - y = .ofModel (Float.Model.pack
    (UnpackedFloat.sub .binary64 x.toModel.unpack y.toModel.unpack)) := rfl
  rw [unfolded, unpack_of_eq h, unpack_of_isFinite hy, finiteOrZero]
  split <;> rfl

theorem hasRank_mul_of_infinite (hy : IsFinite y) (pos : 0 < value y) :
    HasRank (x * y) (rank x) := by
  apply hasRank_of_infinite h
  have unfolded : x * y = .ofModel (Float.Model.pack
    (UnpackedFloat.mul .binary64 x.toModel.unpack y.toModel.unpack)) := rfl
  obtain ⟨sign, some⟩ := value_pos_iff.1 pos
  rw [unfolded, unpack_of_eq h, unpack_of_isFinite hy, sign,
    finiteOrZero_of_pos (significandOf_pos some)]
  cases signOf x <;> rfl

theorem hasRank_div_of_infinite (hy : IsFinite y) (pos : 0 < value y) :
    HasRank (x / y) (rank x) := by
  apply hasRank_of_infinite h
  have unfolded : x / y = .ofModel (Float.Model.pack
    (UnpackedFloat.div .binary64 x.toModel.unpack y.toModel.unpack)) := rfl
  obtain ⟨sign, some⟩ := value_pos_iff.1 pos
  rw [unfolded, unpack_of_eq h, unpack_of_isFinite hy, sign,
    finiteOrZero_of_pos (significandOf_pos some)]
  cases signOf x <;> rfl

end

end

end PageAid.Number
