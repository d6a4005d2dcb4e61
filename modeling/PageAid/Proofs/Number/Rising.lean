import PageAid.Proofs.Number.Arithmetic

/-!
Monotone operations on doubles. An operation that rounds what grows with the value is monotone, and
so are a sum with a fixed number, a product with a positive one and the like; monotone operations
can be put together.
-/

namespace PageAid.Number

open Float.Model Float.Model.UnpackedFloat

/-- The operation takes numbers to numbers, greater ones to none that are less. -/
structure Rising (f : Float → Float) : Prop where
  isNumber : ∀ x, IsNumber x → IsNumber (f x)
  mono : ∀ x y, IsNumber x → IsNumber y → rank x ≤ rank y → rank (f x) ≤ rank (f y)

theorem rank_of_infinite {x : Float} (h : magnitude x = infinityRank) :
    rank x = infinityRank ∨ rank x = -infinityRank := by
  rw [rank, h]
  cases signOf x with
  | negative => exact .inr rfl
  | positive => exact .inl rfl

theorem rank_of_finite {x : Float} (h : IsFinite x) :
    -infinityRank < rank x ∧ rank x < infinityRank := by
  rw [IsFinite] at h
  rw [rank]
  cases signOf x <;> rw [Sign.apply] <;> omega

def infinite (s : Sign) : Float := .ofModel (Float.Model.pack (.infinity s))

theorem value_le_value {x y : Float} (h : rank x ≤ rank y) : value x ≤ value y := by
  rw [rank, rank] at h
  rw [value, value]
  generalize signOf x = s at *
  generalize signOf y = s' at *
  cases s with
  | negative =>
      cases s' with
      | negative =>
          rw [Sign.apply, Sign.apply] at h
          exact Int.neg_le_neg (Int.ofNat_le.2 (units_le_units_iff.2 (by omega)))
      | positive => rw [Sign.apply, Sign.apply]; omega
  | positive =>
      cases s' with
      | negative =>
          -- both are zero
          rw [Sign.apply, Sign.apply] at h
          have zero : magnitude x = 0 := by omega
          have zero' : magnitude y = 0 := by omega
          rw [zero, zero']
          decide
      | positive => exact Int.ofNat_le.2 (units_le_units_iff.2 (Int.ofNat_le.1 h))

namespace Rising

variable {f g : Float → Float}

theorem comp (hg : Rising g) (hf : Rising f) : Rising fun x => g (f x) where
  isNumber x hx := hg.isNumber _ (hf.isNumber x hx)
  mono x y hx hy le := hg.mono _ _ (hf.isNumber x hx) (hf.isNumber y hy) (hf.mono x y hx hy le)

/-- It is enough that the outcome grows with the value, and infinity stays what it is. -/
theorem of_finite (outcome : Int → Int) (mono : ∀ v w, v ≤ w → outcome v ≤ outcome w)
    (finite : ∀ x, IsFinite x → HasRank (f x) (outcome (value x)))
    (infinite : ∀ x, magnitude x = infinityRank → HasRank (f x) (rank x)) : Rising f := by
  have isNumber : ∀ x, IsNumber x → IsNumber (f x) := by
    intro x hx
    rcases Nat.lt_or_eq_of_le hx with fin | inf
    · exact (finite x fin).isNumber
    · exact (infinite x inf).isNumber
  refine ⟨isNumber, fun x y hx hy le => ?_⟩
  have bounds := rank_bounds (isNumber x hx)
  have bounds' := rank_bounds (isNumber y hy)
  have own := rank_bounds hx
  have own' := rank_bounds hy
  rcases Nat.lt_or_eq_of_le hx with fin | inf
  · rcases Nat.lt_or_eq_of_le hy with fin' | inf'
    · rw [(finite x fin).rank, (finite y fin').rank]
      exact mono _ _ (value_le_value le)
    · have below := rank_of_finite fin
      have same := (infinite y inf').rank
      rcases rank_of_infinite inf' with top | bottom <;> omega
  · have same := (infinite x inf).rank
    rcases rank_of_infinite inf with top | bottom
    · rcases Nat.lt_or_eq_of_le hy with fin' | inf'
      · have below := rank_of_finite fin'
        omega
      · have same' := (infinite y inf').rank
        omega
    · omega

/-- Where the operation reaches a rank between two neighbours, it reaches it from the upper one
on. -/
theorem reaches_iff (hf : Rising f) {a b : Float} (ha : IsNumber a) (hb : IsNumber b)
    (next : rank b = rank a + 1) {r : Int} (before : rank (f a) < r) (reached : r ≤ rank (f b))
    {x : Float} (hx : IsNumber x) : r ≤ rank (f x) ↔ rank b ≤ rank x := by
  constructor
  · intro reaches
    by_contra less
    have rises := hf.mono x a hx ha (by omega)
    omega
  · intro le
    have rises := hf.mono b x hb hx le
    omega

/-- What numbers are taken to lies between what the infinite ones are taken to. -/
theorem bounds (hf : Rising f) {x : Float} (hx : IsNumber x) :
    rank (f (infinite .negative)) ≤ rank (f x) ∧ rank (f x) ≤ rank (f (infinite .positive)) := by
  obtain ⟨negative, least⟩ := packs_infinity .negative
  obtain ⟨positive, most⟩ := packs_infinity .positive
  obtain ⟨low, high⟩ := rank_bounds hx
  exact ⟨hf.mono _ x negative hx (by rw [infinite, least]; exact low),
    hf.mono x _ hx positive (by rw [infinite, most]; exact high)⟩

section

variable {c : Float} (hc : IsFinite c)

include hc

theorem add_right : Rising (· + c) := by
  refine of_finite (fun v => nearest (v + value c) 1) (fun v w le => ?_)
    (fun x hx => hasRank_add hx hc) fun x hx => hasRank_add_of_infinite hx hc
  exact nearest_mono Nat.one_pos Nat.one_pos (by omega)

theorem sub_right : Rising (· - c) := by
  refine of_finite (fun v => nearest (v - value c) 1) (fun v w le => ?_)
    (fun x hx => hasRank_sub hx hc) fun x hx => hasRank_sub_of_infinite hx hc
  exact nearest_mono Nat.one_pos Nat.one_pos (by omega)

variable (pos : 0 < value c)

include pos

theorem mul_right : Rising (· * c) := by
  refine of_finite (fun v => nearest (v * value c) wholeUnits) (fun v w le => ?_)
    (fun x hx => hasRank_mul hx hc) fun x hx => hasRank_mul_of_infinite hx hc pos
  apply nearest_mono wholeUnits_pos wholeUnits_pos
  have := wholeUnits_pos
  gcongr

theorem div_right : Rising (· / c) := by
  refine of_finite (fun v => nearest (v * wholeUnits) (value c).toNat) (fun v w le => ?_)
    (fun x hx => hasRank_div hx hc pos) fun x hx => hasRank_div_of_infinite hx hc pos
  apply nearest_mono (by omega) (by omega)
  gcongr

end

theorem min_right {c : Float} (hc : IsNumber c) : Rising fun x => if x < c then x else c where
  isNumber x hx := by
    split
    · exact hx
    · exact hc
  mono x y hx hy le := by
    simp only [lt_iff hx hc, lt_iff hy hc]
    split_ifs <;> omega

theorem max_right {c : Float} (hc : IsNumber c) : Rising fun x => if x > c then x else c where
  isNumber x hx := by
    split
    · exact hx
    · exact hc
  mono x y hx hy le := by
    simp only [gt_iff_lt, lt_iff hc hx, lt_iff hc hy]
    split_ifs <;> omega

end Rising

/-! ### Rounding to a whole number -/

theorem parts_of_isFinite {x : Float} (h : IsFinite x) :
    ∃ atPower, parts x = .finite (signOf x == .negative) (significandOf (magnitude x))
      (exponentOf (magnitude x)) atPower := by
  have bound : x.toBits.toNat < 2 ^ 64 := x.toBits.toNat_lt
  rw [IsFinite, infinityRank, magnitude] at h
  rw [parts, signOf, magnitude, significandOf, exponentOf]
  generalize x.toBits.toNat = n at *
  have sign : (n / Nat.pow 2 (52 + 11) % 2 == 1) =
      ((if n < 2 ^ 63 then Sign.positive else Sign.negative) == .negative) := by
    have top : Nat.pow 2 (52 + 11) = 2 ^ 63 := rfl
    rw [top, Bool.eq_iff_iff, beq_iff_eq]
    split
    · exact ⟨fun _ => by omega, fun same => absurd same (by decide)⟩
    · exact ⟨fun _ => rfl, fun _ => by omega⟩
  have finite : ¬(n / Nat.pow 2 52 % Nat.pow 2 11 + 1 == Nat.pow 2 11) = true := by
    have fraction : Nat.pow 2 52 = 2 ^ 52 := rfl
    have exponent : Nat.pow 2 11 = 2 ^ 11 := rfl
    rw [fraction, exponent, beq_iff_eq]
    omega
  unfold Layout.parts Layout.double
  dsimp only
  rw [sign, if_neg finite]
  have fraction : Nat.pow 2 52 = 2 ^ 52 := rfl
  have exponent : Nat.pow 2 11 = 2 ^ 11 := rfl
  have bias : (Nat.pow 2 (11 - 1) : Int) = 1024 := rfl
  rw [fraction, exponent, bias]
  by_cases small : n % 2 ^ 63 < 2 ^ 52
  · have zero : (n / 2 ^ 52 % 2 ^ 11 == 0) = true := by
      rw [beq_iff_eq]
      omega
    rw [if_pos zero, if_pos small, if_pos small]
    refine ⟨false, ?_⟩
    congr 1
    omega
  · have some : ¬(n / 2 ^ 52 % 2 ^ 11 == 0) = true := by
      rw [beq_iff_eq]
      omega
    rw [if_neg some, if_neg small, if_neg small]
    refine ⟨n % 2 ^ 52 == 0 && n / 2 ^ 52 % 2 ^ 11 != 1, ?_⟩
    congr 1 <;> omega

/-- The nearest whole number, in units. -/
def wholeMagnitude (v : Nat) : Nat := roundDiv .away v wholeUnits * wholeUnits

def wholeOutcome (v : Int) : Int := nearest (v.sign * wholeMagnitude v.natAbs) 1

theorem wholeMagnitude_mono {v w : Nat} (h : v ≤ w) : wholeMagnitude v ≤ wholeMagnitude w :=
  Nat.mul_le_mul_right _ (roundDiv_mono_num .away wholeUnits h)

theorem wholeMagnitude_mul (n : Nat) : wholeMagnitude (n * wholeUnits) = n * wholeUnits := by
  rw [wholeMagnitude, roundDiv_mul .away n wholeUnits_pos]

theorem wholeOutcome_mono (v w : Int) (h : v ≤ w) : wholeOutcome v ≤ wholeOutcome w := by
  apply nearest_mono Nat.one_pos Nat.one_pos
  rw [Nat.cast_one, Int.mul_one, Int.mul_one]
  rcases Int.lt_trichotomy v 0 with neg | rfl | pos
  · rw [Int.sign_eq_neg_one_of_neg neg]
    rcases Int.lt_trichotomy w 0 with neg' | rfl | pos'
    · rw [Int.sign_eq_neg_one_of_neg neg']
      have := wholeMagnitude_mono (v := w.natAbs) (w := v.natAbs) (by omega)
      omega
    · rw [Int.sign_zero]
      omega
    · rw [Int.sign_eq_one_of_pos pos']
      omega
  · rcases Int.lt_or_eq_of_le h with pos' | rfl
    · rw [Int.sign_zero, Int.sign_eq_one_of_pos pos']
      omega
    · exact Int.le_refl _
  · rw [Int.sign_eq_one_of_pos pos, Int.sign_eq_one_of_pos (Int.lt_of_lt_of_le pos h)]
    have := wholeMagnitude_mono (v := v.natAbs) (w := w.natAbs) (by omega)
    omega

theorem wholeOutcome_apply (s : Sign) (v : Nat) :
    wholeOutcome (s.apply v) = nearest (s.apply (wholeMagnitude v)) 1 := by
  rw [wholeOutcome]
  rcases Nat.eq_zero_or_pos v with rfl | pos
  · have none : wholeMagnitude 0 = 0 := by
      have same := wholeMagnitude_mul 0
      rwa [Nat.zero_mul] at same
    have zero : s.apply (0 : Nat) = 0 := by cases s <;> rfl
    rw [none, zero, Int.sign_zero, Int.zero_mul]
  · cases s with
    | negative =>
        rw [Sign.apply, Sign.apply, Int.sign_eq_neg_one_of_neg (by omega), Int.natAbs_neg,
          Int.natAbs_natCast, Int.neg_mul, Int.one_mul]
    | positive =>
        rw [Sign.apply, Sign.apply, Int.sign_eq_one_of_pos (by omega), Int.natAbs_natCast,
          Int.one_mul]

/-- A significand that is divided by a power of two, rounded to a whole number. -/
theorem wholeMagnitude_of_neg {m : Nat} {e : Int} (neg : e < 0) (least : -1074 ≤ e) :
    wholeMagnitude (m * 2 ^ (e + 1074).toNat) =
      roundDiv .away m (2 ^ (-e).toNat) * wholeUnits := by
  have powers : wholeUnits = 2 ^ (e + 1074).toNat * 2 ^ (-e).toNat := by
    rw [wholeUnits, ← pow_add]
    congr 1
    omega
  have same := roundDiv_mul_mul .away m (2 ^ (-e).toNat) (k := 2 ^ (e + 1074).toNat) (by positivity)
  rw [wholeMagnitude, ← same, ← powers, Nat.mul_comm m]

theorem hasRank_roundHalfAway {x : Float} (h : IsFinite x) :
    HasRank (roundHalfAway x) (wholeOutcome (value x)) := by
  obtain ⟨atPower, hp⟩ := parts_of_isFinite h
  obtain ⟨-, high, least⟩ := canonical_of_rank (magnitude x)
  have own := hasRank_of_isFinite h
  rw [value_eq, scaled] at own
  rw [roundHalfAway, hp, value_eq, scaled, wholeOutcome_apply]
  dsimp only
  generalize significandOf (magnitude x) = m at *
  generalize exponentOf (magnitude x) = e at *
  split
  · rename_i whole
    have units : m * 2 ^ (e + 1074).toNat = m * 2 ^ e.toNat * wholeUnits := by
      rw [Nat.mul_assoc, pow_mul_wholeUnits]
      congr 2
      omega
    rwa [units, wholeMagnitude_mul, ← units]
  · rename_i broken
    have unfolded : roundScaled .away m e 1 = roundDiv .away m (2 ^ (-e).toNat) := by
      rw [roundScaled, if_neg broken, Nat.mul_one]
      rfl
    have least' : 1 < 2 ^ (-e).toNat := Nat.one_lt_two_pow (by omega)
    have less : roundDiv .away m (2 ^ (-e).toNat) < 2 ^ 64 := by
      have near := roundDiv_le .away m (2 ^ (-e).toNat)
      have := Nat.div_le_self m (2 ^ (-e).toNat)
      omega
    rw [unfolded, wholeMagnitude_of_neg (by omega) least]
    generalize roundDiv .away m (2 ^ (-e).toNat) = n at *
    have kept : n.toUInt64.toNat = n := by
      rw [Nat.toUInt64_eq, UInt64.toNat_ofNat']
      exact Nat.mod_eq_of_lt less
    have converted := hasRank_toFloat n.toUInt64
    rw [kept] at converted
    cases signOf x with
    | positive => exact converted
    | negative =>
        rw [Sign.apply, nearest_neg]
        exact hasRank_neg converted

theorem roundHalfAway_of_infinite {x : Float} (h : magnitude x = infinityRank) :
    roundHalfAway x = x := by
  have bound : x.toBits.toNat < 2 ^ 64 := x.toBits.toNat_lt
  rw [magnitude, infinityRank] at h
  rw [roundHalfAway, parts]
  generalize x.toBits.toNat = n at *
  have fraction : Nat.pow 2 52 = 2 ^ 52 := rfl
  have exponent : Nat.pow 2 11 = 2 ^ 11 := rfl
  have top : (n / 2 ^ 52 % 2 ^ 11 + 1 == 2 ^ 11) = true := by rw [beq_iff_eq]; omega
  have none : (n % 2 ^ 52 == 0) = true := by rw [beq_iff_eq]; omega
  simp only [Layout.parts, Layout.double, fraction, exponent, top, none, if_true]

theorem rising_roundHalfAway : Rising roundHalfAway := by
  refine .of_finite wholeOutcome wholeOutcome_mono (fun x => hasRank_roundHalfAway) fun x hx => ?_
  rw [roundHalfAway_of_infinite hx]
  exact ⟨Nat.le_of_eq hx, rfl⟩

end PageAid.Number
