import PageAid.Proofs.Number.Rounding

/-!
Doubles in ascending order. A double that is a number has a rank, which is a whole number, and
comparing two of them is comparing their ranks (`lt_iff`, `le_iff`). Up to the infinite ones, each
has a value, too: a whole number of units, which grows with the rank.
-/

namespace PageAid.Number

open Float.Model Float.Model.UnpackedFloat

/-! ### The form of a double -/

def significandOf (rank : Nat) : Nat := if rank < 2 ^ 52 then rank else 2 ^ 52 + rank % 2 ^ 52

def exponentOf (rank : Nat) : Int := if rank < 2 ^ 52 then -1074 else (rank / 2 ^ 52 : Nat) - 1075

theorem canonical_of_rank (rank : Nat) : Canonical (significandOf rank) (exponentOf rank) := by
  rw [significandOf, exponentOf]
  split
  · exact ⟨.inr rfl, by omega, by omega⟩
  · exact ⟨.inl (by omega), by omega, by omega⟩

theorem rankOf_of_rank (rank : Nat) : rankOf (significandOf rank) (exponentOf rank) = rank := by
  rw [rankOf, significandOf, exponentOf]
  split <;> omega

theorem units_eq (rank : Nat) :
    units rank = significandOf rank * 2 ^ (exponentOf rank + 1074).toNat := by
  rw [units, significandOf, exponentOf]
  split
  · simp
  · congr 2
    omega

section

variable (b : BitVec 64)

theorem toNat_unpackExponent :
    (@unpackExponent .binary64 b).toNat = b.toNat % 2 ^ 63 / 2 ^ 52 := by
  simp [unpackExponent, Nat.shiftRight_eq_div_pow]
  omega

theorem toNat_unpackMantissa :
    (@unpackMantissa .binary64 b).toNat = b.toNat % 2 ^ 63 % 2 ^ 52 := by
  simp [unpackMantissa, Nat.shiftRight_eq_div_pow]

theorem toNat_unpackSign : (@unpackSign .binary64 b).toNat = b.toNat / 2 ^ 63 := by
  have bound : b.toNat < 2 ^ 64 := b.isLt
  simp [unpackSign, Nat.shiftRight_eq_div_pow]
  omega

theorem ofBitVec_unpackSign :
    Sign.ofBitVec (@unpackSign .binary64 b) =
      if b.toNat < 2 ^ 63 then .positive else .negative := by
  have sign := toNat_unpackSign b
  have bound : b.toNat < 2 ^ 64 := b.isLt
  rw [Sign.ofBitVec]
  apply if_congr _ rfl rfl
  rw [← BitVec.toNat_inj, sign, BitVec.toNat_ofNat]
  omega

/-- The greatest exponent is that of infinity and of what is no number. -/
theorem unpackExponent_eq_neg_one_iff :
    @unpackExponent .binary64 b = -1#11 ↔ infinityRank ≤ b.toNat % 2 ^ 63 := by
  rw [← BitVec.toNat_inj, toNat_unpackExponent, infinityRank]
  change _ = 2047 ↔ _
  omega

theorem unpackExponent_eq_zero_iff :
    @unpackExponent .binary64 b = 0#11 ↔ b.toNat % 2 ^ 63 < 2 ^ 52 := by
  rw [← BitVec.toNat_inj, toNat_unpackExponent]
  change _ = 0 ↔ _
  omega

theorem unpackMantissa_eq_zero_iff :
    @unpackMantissa .binary64 b = 0#52 ↔ b.toNat % 2 ^ 63 % 2 ^ 52 = 0 := by
  rw [← BitVec.toNat_inj, toNat_unpackMantissa]
  rfl

/-- Save where values are as dense as they get, the significand has a bit in front that is not
stored. -/
theorem toNat_leading :
    (1#1 ++ @unpackMantissa .binary64 b).toNat = 2 ^ 52 + b.toNat % 2 ^ 63 % 2 ^ 52 := by
  rw [BitVec.toNat_append, ← Nat.shiftLeft_add_eq_or_of_lt (BitVec.isLt _), toNat_unpackMantissa]
  rfl

end

theorem finiteOrZero_of_pos {s : Sign} {m : Nat} {e : Int} (h : 0 < m) :
    finiteOrZero s m e = .finite s m e h := dif_neg (Nat.pos_iff_ne_zero.1 h)

section

variable (x : Float)

def magnitude : Nat := x.toBits.toNat % 2 ^ 63

def signOf : Sign := if x.toBits.toNat < 2 ^ 63 then .positive else .negative

theorem unpack_eq :
    x.toModel.unpack =
      if magnitude x < infinityRank then
        finiteOrZero (signOf x) (significandOf (magnitude x)) (exponentOf (magnitude x))
      else if magnitude x = infinityRank then .infinity (signOf x)
      else .notANumber := by
  obtain ⟨b, hb⟩ : ∃ b : BitVec 64, b = x.toBits.toBitVec := ⟨_, rfl⟩
  have whole : x.toModel.unpack = UnpackedFloat.unpack .binary64 b := by rw [hb]; rfl
  have rank : magnitude x = b.toNat % 2 ^ 63 := by rw [hb]; rfl
  have sign : signOf x = if b.toNat < 2 ^ 63 then .positive else .negative := by rw [hb]; rfl
  have top := unpackExponent_eq_neg_one_iff b
  have bottom := unpackExponent_eq_zero_iff b
  have none := unpackMantissa_eq_zero_iff b
  have exponent := toNat_unpackExponent b
  have mantissa := toNat_unpackMantissa b
  have leading := toNat_leading b
  have bias : (Format.exponentBias .binary64 : Int) = 1023 := rfl
  rw [whole, UnpackedFloat.unpack, ofBitVec_unpackSign, ← sign]
  rw [← rank] at top bottom none exponent mantissa leading
  dsimp only
  by_cases finite : magnitude x < infinityRank
  · rw [if_neg (fun h => absurd (top.1 h) (by omega)), if_pos finite, significandOf, exponentOf]
    by_cases small : magnitude x < 2 ^ 52
    · have same : magnitude x % 2 ^ 52 = magnitude x := Nat.mod_eq_of_lt small
      rw [if_pos (bottom.2 small), if_pos small, if_pos small]
      rw [same] at mantissa none
      by_cases zero : magnitude x = 0
      · rw [dif_pos (none.2 zero), zero]
        rfl
      · rw [dif_neg (fun h => zero (none.1 h)), finiteOrZero_of_pos (Nat.pos_of_ne_zero zero)]
        congr 1
        omega
    · have lead : 0 < 2 ^ 52 + magnitude x % 2 ^ 52 := by omega
      rw [if_neg (fun h => small (bottom.1 h)), if_neg small, if_neg small,
        finiteOrZero_of_pos lead]
      congr 1
      omega
  · have bound : magnitude x < 2 ^ 63 := Nat.mod_lt _ (by decide)
    rw [if_pos (top.2 (by omega)), if_neg finite]
    apply if_congr _ rfl rfl
    rw [infinityRank] at finite ⊢
    rw [none]
    omega

end

/-! ### Order -/

/-- The form of a number, with its rank, which is below zero if it is negative. -/
inductive Ranked : UnpackedFloat → Int → Prop where
  | zero (s : Sign) : Ranked (.zero s) 0
  | finite (s : Sign) {m : Nat} {e : Int} (pos : 0 < m) (canonical : Canonical m e)
      (small : rankOf m e < infinityRank) : Ranked (.finite s m e pos) (s.apply (rankOf m e))
  | infinity (s : Sign) : Ranked (.infinity s) (s.apply infinityRank)

theorem compare_rankOf {m m' : Nat} {e e' : Int} (h : Canonical m e) (h' : Canonical m' e') :
    (compare e e').then (compare m m') = compare (rankOf m e : Int) (rankOf m' e') := by
  obtain ⟨low, high, least⟩ := h
  obtain ⟨low', high', least'⟩ := h'
  rcases lt_trichotomy e e' with less | rfl | greater
  · have ranks : (rankOf m e : Int) < rankOf m' e' := by rw [rankOf, rankOf]; omega
    rw [compare_lt_iff_lt.2 less, compare_lt_iff_lt.2 ranks]
    rfl
  · rw [compare_eq_iff_eq.2 rfl]
    rcases lt_trichotomy m m' with less | rfl | greater
    · have ranks : (rankOf m e : Int) < rankOf m' e := by rw [rankOf, rankOf]; omega
      rw [compare_lt_iff_lt.2 less, compare_lt_iff_lt.2 ranks]
      rfl
    · rw [compare_eq_iff_eq.2 rfl, compare_eq_iff_eq.2 rfl]
      rfl
    · have ranks : (rankOf m' e : Int) < rankOf m e := by rw [rankOf, rankOf]; omega
      rw [compare_gt_iff_gt.2 greater, compare_gt_iff_gt.2 ranks]
      rfl
  · have ranks : (rankOf m' e' : Int) < rankOf m e := by rw [rankOf, rankOf]; omega
    rw [compare_gt_iff_gt.2 greater, compare_gt_iff_gt.2 ranks]
    rfl

theorem rankOf_pos {m : Nat} (pos : 0 < m) (e : Int) : 0 < rankOf m e :=
  Nat.lt_of_lt_of_le pos (Nat.le_add_left ..)

theorem compare_neg_neg (a b : Int) : compare (-a) (-b) = (compare a b).swap := by
  rcases lt_trichotomy a b with less | rfl | greater
  · rw [compare_lt_iff_lt.2 less, compare_gt_iff_gt.2 (by omega)]
    rfl
  · rw [compare_eq_iff_eq.2 rfl, compare_eq_iff_eq.2 rfl]
    rfl
  · rw [compare_gt_iff_gt.2 greater, compare_lt_iff_lt.2 (by omega)]
    rfl

theorem compare_of_ranked {u v : UnpackedFloat} {r q : Int} (hu : Ranked u r) (hv : Ranked v q) :
    u.compare v = some (compare r q) := by
  have lt {a b : Int} (h : a < b) : some Ordering.lt = some (compare a b) := by
    rw [compare_lt_iff_lt.2 h]
  have gt {a b : Int} (h : b < a) : some Ordering.gt = some (compare a b) := by
    rw [compare_gt_iff_gt.2 h]
  have infinite : 0 < infinityRank := by decide
  cases hu with
  | zero s =>
      cases hv with
      | zero s' => rfl
      | @finite s' m' e' pos' canonical' small' =>
          have := rankOf_pos pos' e'
          cases s' with
          | negative => exact gt (by rw [Sign.apply]; omega)
          | positive => exact lt (by rw [Sign.apply]; omega)
      | infinity s' =>
          cases s' with
          | negative => exact gt (by rw [Sign.apply]; omega)
          | positive => exact lt (by rw [Sign.apply]; omega)
  | @finite s m e pos canonical small =>
      have := rankOf_pos pos e
      cases hv with
      | zero s' =>
          cases s with
          | negative => exact lt (by rw [Sign.apply]; omega)
          | positive => exact gt (by rw [Sign.apply]; omega)
      | @finite s' m' e' pos' canonical' small' =>
          have := rankOf_pos pos' e'
          have same := compare_rankOf canonical canonical'
          cases s with
          | negative =>
              cases s' with
              | negative =>
                  rw [Sign.apply, Sign.apply, compare_neg_neg, ← same]
                  rfl
              | positive => exact lt (by rw [Sign.apply, Sign.apply]; omega)
          | positive =>
              cases s' with
              | negative => exact gt (by rw [Sign.apply, Sign.apply]; omega)
              | positive => exact congrArg some same
      | infinity s' =>
          cases s' with
          | negative => exact gt (by cases s <;> rw [Sign.apply, Sign.apply] <;> omega)
          | positive => exact lt (by cases s <;> rw [Sign.apply, Sign.apply] <;> omega)
  | infinity s =>
      cases hv with
      | zero s' =>
          cases s with
          | negative => exact lt (by rw [Sign.apply]; omega)
          | positive => exact gt (by rw [Sign.apply]; omega)
      | @finite s' m' e' pos' canonical' small' =>
          have := rankOf_pos pos' e'
          cases s with
          | negative => exact lt (by cases s' <;> rw [Sign.apply, Sign.apply] <;> omega)
          | positive => exact gt (by cases s' <;> rw [Sign.apply, Sign.apply] <;> omega)
      | infinity s' => cases s <;> cases s' <;> rfl

section

variable {x y : Float}

/-- The double is a number, finite or not. -/
def IsNumber (x : Float) : Prop := magnitude x ≤ infinityRank

def IsFinite (x : Float) : Prop := magnitude x < infinityRank

instance (x : Float) : Decidable (IsNumber x) := inferInstanceAs (Decidable (_ ≤ _))

instance (x : Float) : Decidable (IsFinite x) := inferInstanceAs (Decidable (_ < _))

def rank (x : Float) : Int := (signOf x).apply (magnitude x)

def value (x : Float) : Int := (signOf x).apply (units (magnitude x))

theorem IsFinite.isNumber (h : IsFinite x) : IsNumber x := Nat.le_of_lt h

theorem isNumber_or_eq_notANumber (x : Float) :
    IsNumber x ∨ x.toModel.unpack = .notANumber := by
  rw [IsNumber]
  rcases Nat.lt_trichotomy (magnitude x) infinityRank with less | same | greater
  · exact .inl (Nat.le_of_lt less)
  · exact .inl (Nat.le_of_eq same)
  · rw [unpack_eq, if_neg (by omega), if_neg (by omega)]
    exact .inr rfl

theorem ranked_unpack (h : IsNumber x) : Ranked x.toModel.unpack (rank x) := by
  rw [unpack_eq, rank]
  rcases Nat.lt_or_eq_of_le h with finite | infinite
  · have rank := rankOf_of_rank (magnitude x)
    rw [if_pos finite, finiteOrZero]
    split
    · rename_i zero
      have none : magnitude x = 0 := by
        rw [significandOf] at zero
        split at zero <;> omega
      rw [none]
      cases signOf x <;> exact .zero _
    · rename_i some
      have ranked := Ranked.finite (signOf x) (Nat.pos_of_ne_zero some)
        (canonical_of_rank (magnitude x)) (by rwa [rank])
      rwa [rank] at ranked
  · rw [if_neg (by omega), if_pos infinite, infinite]
    exact .infinity _

theorem not_isNumber (h : x.toModel.unpack = .notANumber) : ¬IsNumber x := by
  intro hx
  have ranked := ranked_unpack hx
  rw [h] at ranked
  cases ranked

theorem rank_bounds (h : IsNumber x) : -infinityRank ≤ rank x ∧ rank x ≤ infinityRank := by
  rw [IsNumber] at h
  rw [rank]
  cases signOf x <;> rw [Sign.apply] <;> omega

theorem lt_iff_compare :
    x < y ↔ (x.toModel.unpack.compare y.toModel.unpack == some .lt) = true := by
  show decide ((x.toModel.lt y.toModel) = true) = true ↔ _
  rw [decide_eq_true_iff]
  rfl

theorem le_iff_compare :
    x ≤ y ↔ (x.toModel.unpack.compare y.toModel.unpack).any (·.isLE) = true := by
  show decide ((x.toModel.le y.toModel) = true) = true ↔ _
  rw [decide_eq_true_iff]
  rfl

theorem lt_iff (hx : IsNumber x) (hy : IsNumber y) : x < y ↔ rank x < rank y := by
  have compared := compare_of_ranked (ranked_unpack hx) (ranked_unpack hy)
  rw [lt_iff_compare, compared, beq_iff_eq, Option.some_inj, compare_lt_iff_lt]

theorem le_iff (hx : IsNumber x) (hy : IsNumber y) : x ≤ y ↔ rank x ≤ rank y := by
  have compared := compare_of_ranked (ranked_unpack hx) (ranked_unpack hy)
  rw [le_iff_compare, compared, Option.any_some, ← compare_le_iff_le, Ordering.isLE_iff_ne_gt]

/-- What is no number is not comparable. -/
theorem isNumber_of_compare (h : x.toModel.unpack.compare y.toModel.unpack ≠ none) :
    IsNumber x ∧ IsNumber y := by
  rcases isNumber_or_eq_notANumber x with hx | hx
  · rcases isNumber_or_eq_notANumber y with hy | hy
    · exact ⟨hx, hy⟩
    · rw [hy] at h
      have none (u : UnpackedFloat) : u.compare .notANumber = none := by cases u <;> rfl
      exact absurd (none _) h
  · rw [hx] at h
    exact absurd rfl h

theorem isNumber_of_lt (h : x < y) : IsNumber x ∧ IsNumber y := by
  rw [lt_iff_compare, beq_iff_eq] at h
  exact isNumber_of_compare (by rw [h]; exact Option.some_ne_none _)

theorem isNumber_of_le (h : x ≤ y) : IsNumber x ∧ IsNumber y := by
  rw [le_iff_compare, Option.any_eq_true] at h
  obtain ⟨o, ho, -⟩ := h
  exact isNumber_of_compare (by rw [ho]; exact Option.some_ne_none _)

theorem isFinite_iff : x.isFinite = true ↔ IsFinite x := by
  have unfolded : x.isFinite = x.toModel.unpack.isFinite := rfl
  rw [unfolded, unpack_eq, IsFinite]
  split
  · rename_i finite
    rw [finiteOrZero]
    split <;> simp [UnpackedFloat.isFinite, finite]
  · rename_i infinite
    split <;> simp [UnpackedFloat.isFinite, infinite]

end

end PageAid.Number
