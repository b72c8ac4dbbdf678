import Mathlib
import StackScript.Number.Decimal

/-!
# Whole numbers in binary

A natural number below `2 ^ 53` has a binary number of its own, and arithmetic that starts and ends
at such numbers does not round. `Number.whole` is the form in which the significand is filled, and
everything here goes through one fact about rounding, `roundWithAccuracy_mul_two_pow`: a whole
number that comes with enough places behind the point rounds to its filled form.

From it follow exact products, quotients and differences, `Number.ofWhole_mul`,
`Number.ofWhole_div` and `Number.ofNat_add_sub`; equality of numbers is that of naturals,
`Number.ofNat_beq_ofNat`; and powers of ten scale a natural exactly, `Number.ofScientific_eq_ofNat`,
as long as the product stays below the bound.
-/

namespace StackScript.Number

open Float.Model Float.Model.UnpackedFloat

/-! ## The filled form -/

/-- By how many places a natural number has to be shifted to fill the significand. -/
def lift (k : ℕ) : ℕ :=
  52 - k.log2

theorem mul_two_pow_pos {k : ℕ} (hk : k ≠ 0) (j : ℕ) : 0 < k * 2 ^ j :=
  Nat.mul_pos (Nat.pos_of_ne_zero hk) (Nat.two_pow_pos j)

/-- A natural number with a sign, its significand filled. -/
def whole (s : Sign) (k : ℕ) : UnpackedFloat :=
  if hk : k = 0 then .zero s else .finite s (k * 2 ^ lift k) (-lift k) (mul_two_pow_pos hk _)

theorem whole_of_ne_zero {k : ℕ} (hk : k ≠ 0) (s : Sign) :
    whole s k = .finite s (k * 2 ^ lift k) (-lift k) (mul_two_pow_pos hk _) :=
  dif_neg hk

theorem log2_mul_two_pow {k : ℕ} (hk : k ≠ 0) (j : ℕ) : (k * 2 ^ j).log2 = k.log2 + j := by
  induction j with
  | zero => rw [Nat.pow_zero, Nat.mul_one, Nat.add_zero]
  | succ j ih =>
    have hpow : k * 2 ^ (j + 1) = 2 * (k * 2 ^ j) := by
      rw [Nat.pow_succ, Nat.mul_comm 2, Nat.mul_assoc]
    rw [hpow, Nat.log2_two_mul (Nat.ne_of_gt (mul_two_pow_pos hk j)), ih, Nat.add_assoc]

theorem log2_lt_of_lt {k : ℕ} (h : k < 2 ^ 53) : k.log2 < 53 := by
  by_cases hk : k = 0
  · rw [hk]
    decide
  · exact (Nat.log2_lt hk).2 h

/-- Places that are zero can be dropped without a trace. -/
theorem shiftRight_mul_two_pow (m n : ℕ) :
    (⟨m * 2 ^ n, false, false⟩ : ExtendedMantissa) >>> n = ⟨m, false, false⟩ := by
  change n.repeat ExtendedMantissa.shiftRightOne ⟨m * 2 ^ n, false, false⟩ = _
  induction n generalizing m with
  | zero => rw [Nat.pow_zero, Nat.mul_one]; rfl
  | succ n ih =>
    have hpow : m * 2 ^ (n + 1) = 2 * m * 2 ^ n := by
      rw [Nat.pow_succ, Nat.mul_comm _ 2, ← Nat.mul_assoc, Nat.mul_comm m 2]
    rw [hpow, Nat.repeat, ih, ExtendedMantissa.shiftRightOne, Nat.mul_mod_right,
      Nat.mul_div_cancel_left m (by decide)]
    rfl

/-- The target exponent of a whole number is that of its filled form. -/
theorem targetExponent_mul_two_pow {k : ℕ} (hk : k ≠ 0) (hlt : k < 2 ^ 53) (j : ℕ) :
    Format.binary64.targetExponent (totalExponent (k * 2 ^ j) (-j)) = -lift k := by
  have hlog := log2_lt_of_lt hlt
  simp only [Format.targetExponent, totalExponent, log2_mul_two_pow hk, Format.mantissaBits,
    Format.minExponent, lift]
  omega

theorem shiftToTargetExponent_mul_two_pow {k j : ℕ} (hk : k ≠ 0) (hlt : k < 2 ^ 53)
    (hj : lift k ≤ j) :
    shiftToTargetExponent Format.binary64 (k * 2 ^ j) (-j) .exact =
      (⟨k * 2 ^ lift k, false, false⟩, -(lift k : ℤ)) := by
  have hpow : k * 2 ^ j = k * 2 ^ lift k * 2 ^ (j - lift k) := by
    rw [Nat.mul_assoc, ← Nat.pow_add, Nat.add_sub_cancel' hj]
  have hshift : (-(lift k : ℤ) - -(j : ℤ)).toNat = j - lift k := by omega
  rw [shiftToTargetExponent, targetExponent_mul_two_pow hk hlt, shiftToExponent, hshift, hpow]
  refine Prod.ext (shiftRight_mul_two_pow _ _) ?_
  change -(j : ℤ) + (j - lift k : ℕ) = _
  omega

/-- A whole number with enough places behind the point rounds to its filled form. -/
theorem roundWithAccuracy_mul_two_pow {k j : ℕ} (s : Sign) (hk : k ≠ 0) (hlt : k < 2 ^ 53)
    (hj : lift k ≤ j) :
    roundWithAccuracy Format.binary64 s (k * 2 ^ j) (-j) .exact = whole s k := by
  have hne : k * 2 ^ lift k ≠ 0 := Nat.ne_of_gt (mul_two_pow_pos hk _)
  -- rounding shifts twice; the second time the significand is full already
  rw [roundWithAccuracy, shiftToTargetExponent_mul_two_pow hk hlt hj]
  dsimp only [ExtendedMantissa.roundedMantissa, ExtendedMantissa.accuracy,
    Accuracy.roundToNearestEven]
  rw [shiftToTargetExponent_mul_two_pow hk hlt (Nat.le_refl _), dif_neg hne, whole_of_ne_zero hk]

/-- Before it is rounded, a whole number is given the places that it lacks. -/
theorem round_mul_two_pow {k : ℕ} (s : Sign) (hk : k ≠ 0) (hlt : k < 2 ^ 53) (j : ℕ) :
    UnpackedFloat.round Format.binary64 s (k * 2 ^ j) (-j) = whole s k := by
  rw [UnpackedFloat.round, targetExponent_mul_two_pow hk hlt, decreaseExponent]
  dsimp only
  generalize hn : (-(j : ℤ) - -(lift k : ℤ)).toNat = n
  have hsignificand : (k * 2 ^ j) <<< n = k * 2 ^ (j + n) := by
    rw [Nat.shiftLeft_eq, Nat.pow_add, Nat.mul_assoc]
  have hexponent : -(j : ℤ) - n = -((j + n : ℕ) : ℤ) := by omega
  rw [hsignificand, hexponent]
  exact roundWithAccuracy_mul_two_pow s hk hlt (by omega)

theorem two_pow_le_mul_lift {k : ℕ} (hk : k ≠ 0) (hlt : k < 2 ^ 53) : 2 ^ 52 ≤ k * 2 ^ lift k := by
  have hlog := log2_lt_of_lt hlt
  refine (Nat.le_log2 (Nat.ne_of_gt (mul_two_pow_pos hk _))).1 ?_
  rw [log2_mul_two_pow hk, lift]
  omega

theorem mul_lift_lt {k : ℕ} (hk : k ≠ 0) (hlt : k < 2 ^ 53) : k * 2 ^ lift k < 2 ^ 53 := by
  have hlog := log2_lt_of_lt hlt
  refine (Nat.log2_lt (Nat.ne_of_gt (mul_two_pow_pos hk _))).1 ?_
  rw [log2_mul_two_pow hk, lift]
  omega

/-! ## Packing -/

/-- The leading bit of a filled significand is not stored, and comes back. -/
theorem toNat_one_append {m : ℕ} (hle : 2 ^ 52 ≤ m) (hlt : m < 2 ^ 53) :
    (1#1 ++ BitVec.ofNat 52 m).toNat = m := by
  rw [BitVec.toNat_append, ← Nat.shiftLeft_add_eq_or_of_lt (BitVec.isLt _), BitVec.toNat_ofNat]
  change 1 <<< 52 + m % 2 ^ 52 = m
  omega

/-- Packing loses nothing of a number whose significand is filled. -/
theorem unpack_pack_finite {s : Sign} {m : ℕ} {e : ℤ} (hm : 0 < m) (hle : 2 ^ 52 ≤ m)
    (hlt : m < 2 ^ 53) (hlow : -1074 ≤ e) (hhigh : e ≤ 971) :
    (pack (.finite s m e hm)).unpack = .finite s m e hm := by
  have hlog : m.log2 + 1 = Format.binary64.mantissaBits := by
    rw [(Nat.log2_eq_iff (Nat.ne_of_gt hm)).2 ⟨hle, hlt⟩]
    rfl
  -- the exponent is stored with a bias, as neither of the two reserved patterns
  obtain ⟨b, hb⟩ : ∃ b : ℕ, (b : ℤ) = e + 1075 := ⟨(e + 1075).toNat, by omega⟩
  have hbiased : (e + Format.binary64.exponentBias + (52 : ℕ)).toNat = b := by
    simp only [Format.exponentBias]
    omega
  have hstored : (BitVec.ofNat 11 b).toNat = b := by
    rw [BitVec.toNat_ofNat]
    omega
  have hnotAll : BitVec.ofNat 11 b ≠ -1#11 := by
    intro h
    have := congrArg BitVec.toNat h
    rw [hstored, BitVec.neg_one_eq_allOnes, BitVec.toNat_allOnes] at this
    omega
  have hnotNone : BitVec.ofNat 11 b ≠ 0#11 := by
    intro h
    have := congrArg BitVec.toNat h
    rw [hstored, BitVec.toNat_zero] at this
    omega
  have hpack : UnpackedFloat.pack Format.binary64 (.finite s m e hm) =
      packComponents Format.binary64 s (BitVec.ofNat 11 b) (BitVec.ofNat 52 m) := by
    simp only [UnpackedFloat.pack]
    rw [hbiased, if_neg (by omega), if_pos hlog]
  change UnpackedFloat.unpack Format.binary64 (UnpackedFloat.pack Format.binary64 _) = _
  rw [hpack, UnpackedFloat.unpack]
  simp only [unpackMantissa_packComponents, unpackExponent_packComponents,
    unpackSign_packComponents, Sign.ofBitVec_toBitVec]
  rw [if_neg hnotAll, if_neg hnotNone]
  congr 1
  · exact toNat_one_append hle hlt
  · rw [hstored, hb]
    simp only [Format.exponentBias]
    omega

@[simp] theorem unpack_pack_zero (s : Sign) : (pack (.zero s)).unpack = .zero s := by
  cases s <;> rfl

theorem unpack_pack_whole (s : Sign) {k : ℕ} (hlt : k < 2 ^ 53) :
    (pack (whole s k)).unpack = whole s k := by
  by_cases hk : k = 0
  · rw [whole, dif_pos hk, unpack_pack_zero]
  · have hlog := log2_lt_of_lt hlt
    rw [whole_of_ne_zero hk]
    refine unpack_pack_finite _ (two_pow_le_mul_lift hk hlt) (mul_lift_lt hk hlt) ?_ ?_ <;>
      simp only [lift] <;> omega

/-! ## Arithmetic without rounding

The operations give the exact result to `roundWithAccuracy`, so all that has to be shown of them is
that it is a whole number with enough places behind the point. -/

/-- A natural number with a sign, as a binary number. -/
def ofWhole (s : Sign) (k : ℕ) : Float :=
  .ofModel (pack (whole s k))

theorem unpack_ofWhole (s : Sign) {k : ℕ} (hlt : k < 2 ^ 53) :
    (ofWhole s k).toModel.unpack = whole s k :=
  unpack_pack_whole s hlt

theorem toFloat_toUInt64 {k : ℕ} (hlt : k < 2 ^ 53) :
    k.toUInt64.toFloat = ofWhole .positive k := by
  have hsize : k.toUInt64.toNat = k := by
    rw [UInt64.toNat_ofNat']
    omega
  suffices h : UnpackedFloat.ofNat Format.binary64 k = whole .positive k by
    change Float.ofModel (pack (UnpackedFloat.ofNat Format.binary64 k.toUInt64.toNat)) = _
    rw [hsize, h]
    rfl
  by_cases hk : k = 0
  · rw [hk]
    rfl
  have hcompare : compare (k : ℤ) 0 = .gt := by
    rw [Int.compare_eq_gt]
    omega
  have hround := round_mul_two_pow .positive hk hlt 0
  rw [Nat.pow_zero, Nat.mul_one] at hround
  rw [UnpackedFloat.ofNat, UnpackedFloat.ofInt, UnpackedFloat.normalize, hcompare]
  exact hround

theorem le_log2_mul {a b : ℕ} (ha : a ≠ 0) (hb : b ≠ 0) : a.log2 + b.log2 ≤ (a * b).log2 := by
  refine (Nat.le_log2 (Nat.mul_ne_zero ha hb)).2 ?_
  rw [Nat.pow_add]
  exact Nat.mul_le_mul (Nat.log2_self_le ha) (Nat.log2_self_le hb)

theorem log2_mul_le {a b : ℕ} (ha : a ≠ 0) (hb : b ≠ 0) :
    (a * b).log2 ≤ a.log2 + b.log2 + 1 := by
  refine Nat.le_of_lt_succ ((Nat.log2_lt (Nat.mul_ne_zero ha hb)).2 ?_)
  have hpow : 2 ^ (a.log2 + b.log2 + 1 + 1) = 2 ^ (a.log2 + 1) * 2 ^ (b.log2 + 1) := by
    rw [← Nat.pow_add]
    congr 1
    omega
  rw [hpow]
  exact Nat.mul_lt_mul'' Nat.lt_log2_self Nat.lt_log2_self

theorem whole_zero (s : Sign) : whole s 0 = .zero s :=
  rfl

theorem mul_whole {a b : ℕ} (ha : a < 2 ^ 53) (hb : b < 2 ^ 53) (hab : a * b < 2 ^ 53) :
    UnpackedFloat.mul Format.binary64 (whole .positive a) (whole .positive b) =
      whole .positive (a * b) := by
  by_cases ha0 : a = 0
  · subst ha0
    rw [Nat.zero_mul, whole_zero]
    by_cases hb0 : b = 0
    · rw [hb0, whole_zero]
      rfl
    · rw [whole_of_ne_zero hb0]
      rfl
  by_cases hb0 : b = 0
  · subst hb0
    rw [Nat.mul_zero, whole_zero, whole_of_ne_zero ha0]
    rfl
  have hlog := le_log2_mul ha0 hb0
  have halog := log2_lt_of_lt ha
  have hblog := log2_lt_of_lt hb
  have hsignificand : a * 2 ^ lift a * (b * 2 ^ lift b) = a * b * 2 ^ (lift a + lift b) := by
    rw [Nat.pow_add, Nat.mul_mul_mul_comm]
  have hexponent : -(lift a : ℤ) + -(lift b : ℤ) = -((lift a + lift b : ℕ) : ℤ) := by omega
  rw [whole_of_ne_zero ha0, whole_of_ne_zero hb0, UnpackedFloat.mul, hsignificand, hexponent]
  refine roundWithAccuracy_mul_two_pow _ (Nat.mul_ne_zero ha0 hb0) hab ?_
  simp only [lift]
  omega

theorem totalExponent_mul_lift {k : ℕ} (hk : k ≠ 0) :
    totalExponent (k * 2 ^ lift k) (-lift k) = k.log2 + 1 := by
  simp only [totalExponent, log2_mul_two_pow hk]
  omega

/-- The dividend is moved up by 53 places, which is enough for the quotient, and nothing is left
over. -/
theorem divCore_mul {a b : ℕ} (ha0 : a ≠ 0) (hb0 : b ≠ 0) (hab : a * b < 2 ^ 53) :
    divCore Format.binary64 (a * b * 2 ^ lift (a * b)) (-lift (a * b)) (b * 2 ^ lift b) (-lift b) =
      (a * 2 ^ (53 + b.log2 - (a * b).log2), -((53 + b.log2 - (a * b).log2 : ℕ) : ℤ), .exact) := by
  have hlow := le_log2_mul ha0 hb0
  have hlog := log2_lt_of_lt hab
  have htarget : min (-(lift (a * b) : ℤ) - -(lift b : ℤ))
      (Format.binary64.targetExponent ((a * b).log2 + 1 - (b.log2 + 1))) =
        -((53 + b.log2 - (a * b).log2 : ℕ) : ℤ) := by
    simp only [Format.targetExponent, Format.mantissaBits, Format.minExponent, lift]
    omega
  have hshift : (-(lift (a * b) : ℤ) - -(lift b : ℤ) -
      -((53 + b.log2 - (a * b).log2 : ℕ) : ℤ)).toNat = 53 := by
    simp only [lift]
    omega
  have hdividend : a * b * 2 ^ lift (a * b) * 2 ^ 53 =
      b * 2 ^ lift b * (a * 2 ^ (53 + b.log2 - (a * b).log2)) := by
    rw [Nat.mul_mul_mul_comm, ← Nat.pow_add, Nat.mul_comm b a, Nat.mul_assoc, ← Nat.pow_add]
    congr 2
    simp only [lift]
    omega
  rw [divCore, totalExponent_mul_lift (Nat.mul_ne_zero ha0 hb0), totalExponent_mul_lift hb0,
    htarget, hshift, Nat.shiftLeft_eq, hdividend, Nat.mul_mod_right,
    Nat.mul_div_cancel_left _ (mul_two_pow_pos hb0 _)]
  rfl

theorem div_whole {a b : ℕ} (hb0 : b ≠ 0) (ha : a < 2 ^ 53) (hab : a * b < 2 ^ 53) :
    UnpackedFloat.div Format.binary64 (whole .positive (a * b)) (whole .positive b) =
      whole .positive a := by
  by_cases ha0 : a = 0
  · subst ha0
    rw [Nat.zero_mul, whole_zero, whole_of_ne_zero hb0]
    rfl
  have hlog := log2_mul_le ha0 hb0
  rw [whole_of_ne_zero (Nat.mul_ne_zero ha0 hb0), whole_of_ne_zero hb0, UnpackedFloat.div,
    divCore_mul ha0 hb0 hab]
  refine roundWithAccuracy_mul_two_pow _ ha0 ha ?_
  simp only [lift]
  omega

theorem lift_le_lift {a b : ℕ} (hab : a ≤ b) : lift b ≤ lift a := by
  have hlog : a.log2 ≤ b.log2 := by
    rw [Nat.log2_eq_log_two, Nat.log2_eq_log_two]
    exact Nat.log_mono_right hab
  simp only [lift]
  omega

/-- Both sides are brought to the exponent of the subtrahend, which has the more places. -/
theorem sub_whole {a b : ℕ} (hb0 : b ≠ 0) (hab : a + b < 2 ^ 53) :
    UnpackedFloat.sub Format.binary64 (whole .positive (a + b)) (whole .positive b) =
      whole .positive a := by
  have hlift : lift (a + b) ≤ lift b := lift_le_lift (Nat.le_add_left b a)
  have hmin : min (-(lift (a + b) : ℤ)) (-(lift b : ℤ)) = -lift b := by omega
  have hshift : (-(lift (a + b) : ℤ) - -(lift b : ℤ)).toNat = lift b - lift (a + b) := by omega
  have hminuend : ((a + b) * 2 ^ lift (a + b)) <<< (lift b - lift (a + b)) =
      (a + b) * 2 ^ lift b := by
    rw [Nat.shiftLeft_eq, Nat.mul_assoc, ← Nat.pow_add, Nat.add_sub_cancel' hlift]
  have hdifference : (((a + b) * 2 ^ lift b : ℕ) : ℤ) - ((b * 2 ^ lift b : ℕ) : ℤ) =
      ((a * 2 ^ lift b : ℕ) : ℤ) := by
    push_cast
    ring
  rw [whole_of_ne_zero (by omega), whole_of_ne_zero hb0, UnpackedFloat.sub]
  dsimp only [decreaseExponent, Sign.apply]
  rw [hmin, hshift, hminuend, Int.sub_self, Int.toNat_zero, Nat.shiftLeft_zero, hdifference]
  by_cases ha0 : a = 0
  · rw [ha0, Nat.zero_mul]
    rfl
  · have hcompare : compare ((a * 2 ^ lift b : ℕ) : ℤ) 0 = .gt := by
      rw [Int.compare_eq_gt]
      exact Int.natCast_pos.2 (mul_two_pow_pos ha0 _)
    rw [UnpackedFloat.normalize, hcompare]
    dsimp only
    rw [Int.toNat_natCast]
    exact round_mul_two_pow .positive ha0 (by omega) _

theorem mul_eq_ofModel (x y : Float) : x * y =
    .ofModel (pack (UnpackedFloat.mul Format.binary64 x.toModel.unpack y.toModel.unpack)) :=
  rfl

theorem div_eq_ofModel (x y : Float) : x / y =
    .ofModel (pack (UnpackedFloat.div Format.binary64 x.toModel.unpack y.toModel.unpack)) :=
  rfl

theorem sub_eq_ofModel (x y : Float) : x - y =
    .ofModel (pack (UnpackedFloat.sub Format.binary64 x.toModel.unpack y.toModel.unpack)) :=
  rfl

theorem ofWhole_mul {a b : ℕ} (ha : a < 2 ^ 53) (hb : b < 2 ^ 53) (hab : a * b < 2 ^ 53) :
    ofWhole .positive a * ofWhole .positive b = ofWhole .positive (a * b) := by
  rw [mul_eq_ofModel, unpack_ofWhole _ ha, unpack_ofWhole _ hb, mul_whole ha hb hab, ofWhole]

theorem ofWhole_div {a b : ℕ} (hb0 : b ≠ 0) (ha : a < 2 ^ 53) (hb : b < 2 ^ 53)
    (hab : a * b < 2 ^ 53) :
    ofWhole .positive (a * b) / ofWhole .positive b = ofWhole .positive a := by
  rw [div_eq_ofModel, unpack_ofWhole _ hab, unpack_ofWhole _ hb, div_whole hb0 ha hab, ofWhole]

theorem powersOfTen_eq_ofWhole : ∀ e : Fin 16,
    Float.exactlyRepresentablePowersOfTen[e] = ofWhole .positive (10 ^ e.val) := by
  decide +kernel

theorem ofScientific_eq_ofWhole {m e : ℕ} (hm : m < 2 ^ 53) (he : e ≤ 15)
    (h : m * 10 ^ e < 2 ^ 53) : Float.ofScientific m false e = ofWhole .positive (m * 10 ^ e) := by
  have hpow : 10 ^ e < 2 ^ 53 :=
    Nat.lt_of_le_of_lt (Nat.pow_le_pow_right (by decide) he) (by decide)
  have hten := powersOfTen_eq_ofWhole ⟨e, by omega⟩
  rw [Float.ofScientific, dif_pos ⟨hm, by omega⟩, ← ofWhole_mul hm hpow h, ← hten,
    ← toFloat_toUInt64 hm]
  rfl

theorem ofNat_eq_ofWhole {k : ℕ} (hlt : k < 2 ^ 53) : Float.ofNat k = ofWhole .positive k := by
  have h := ofScientific_eq_ofWhole (m := k) (e := 0) hlt (by decide)
  rw [Nat.pow_zero, Nat.mul_one] at h
  exact h hlt

/-- Powers of ten scale a natural exactly. -/
theorem ofScientific_eq_ofNat {m e : ℕ} (hm : m < 2 ^ 53) (he : e ≤ 15)
    (h : m * 10 ^ e < 2 ^ 53) : Float.ofScientific m false e = Float.ofNat (m * 10 ^ e) := by
  rw [ofScientific_eq_ofWhole hm he h, ofNat_eq_ofWhole h]

/-- The quotient of a multiple is exact. -/
theorem ofNat_mul_div {a b : ℕ} (hb0 : b ≠ 0) (ha : a < 2 ^ 53) (hb : b < 2 ^ 53)
    (hab : a * b < 2 ^ 53) : Float.ofNat (a * b) / Float.ofNat b = Float.ofNat a := by
  rw [ofNat_eq_ofWhole hab, ofNat_eq_ofWhole hb, ofNat_eq_ofWhole ha, ofWhole_div hb0 ha hb hab]

/-- Differences of naturals are exact. -/
theorem ofNat_add_sub {a b : ℕ} (hb0 : b ≠ 0) (hab : a + b < 2 ^ 53) :
    Float.ofNat (a + b) - Float.ofNat b = Float.ofNat a := by
  have ha : a < 2 ^ 53 := Nat.lt_of_le_of_lt (Nat.le_add_right a b) hab
  have hb : b < 2 ^ 53 := Nat.lt_of_le_of_lt (Nat.le_add_left b a) hab
  rw [ofNat_eq_ofWhole hab, ofNat_eq_ofWhole hb, ofNat_eq_ofWhole ha, sub_eq_ofModel,
    unpack_ofWhole _ hab, unpack_ofWhole _ hb, sub_whole hb0 hab, ofWhole]

/-! ## Sign and equality -/

theorem neg_whole (k : ℕ) : (whole .positive k).neg = whole .negative k := by
  by_cases hk : k = 0
  · rw [hk]
    rfl
  · rw [whole_of_ne_zero hk, whole_of_ne_zero hk]
    rfl

theorem abs_whole (s : Sign) (k : ℕ) : (whole s k).abs = whole .positive k := by
  by_cases hk : k = 0
  · rw [hk]
    rfl
  · rw [whole_of_ne_zero hk, whole_of_ne_zero hk]
    rfl

theorem neg_ofNat {k : ℕ} (hlt : k < 2 ^ 53) : -Float.ofNat k = ofWhole .negative k := by
  change Float.ofModel (pack (Float.ofNat k).toModel.unpack.neg) = _
  rw [ofNat_eq_ofWhole hlt, unpack_ofWhole _ hlt, neg_whole, ofWhole]

theorem abs_ofWhole (s : Sign) {k : ℕ} (hlt : k < 2 ^ 53) : (ofWhole s k).abs = Float.ofNat k := by
  change Float.ofModel (pack (ofWhole s k).toModel.unpack.abs) = _
  rw [ofNat_eq_ofWhole hlt, unpack_ofWhole _ hlt, abs_whole, ofWhole]

/-- Filled forms of different naturals differ in the significand if not in the exponent. -/
theorem eq_of_lift_eq {a b : ℕ} (hlift : lift a = lift b) (h : a * 2 ^ lift a = b * 2 ^ lift b) :
    a = b := by
  rw [hlift] at h
  exact Nat.eq_of_mul_eq_mul_right (Nat.two_pow_pos _) h

theorem compare_whole_eq_iff (a b : ℕ) :
    (whole .positive a).compare (whole .positive b) = some .eq ↔ a = b := by
  constructor
  · intro h
    by_cases ha : a = 0 <;> by_cases hb : b = 0
    · rw [ha, hb]
    · rw [ha, whole_zero, whole_of_ne_zero hb] at h
      cases h
    · rw [hb, whole_zero, whole_of_ne_zero ha] at h
      cases h
    · rw [whole_of_ne_zero ha, whole_of_ne_zero hb] at h
      have h' := Option.some.inj h
      rw [Ordering.then_eq_eq, Int.compare_eq_eq, Nat.compare_eq_eq] at h'
      exact eq_of_lift_eq (by omega) h'.2
  · rintro rfl
    by_cases ha : a = 0
    · rw [ha]
      rfl
    · rw [whole_of_ne_zero ha]
      change some ((compare _ _).then (compare _ _)) = _
      rw [Int.compare_eq_eq.2 rfl, Nat.compare_eq_eq.2 rfl]
      rfl

theorem ofNat_beq_ofNat {a b : ℕ} (ha : a < 2 ^ 53) (hb : b < 2 ^ 53) :
    (Float.ofNat a == Float.ofNat b) = true ↔ a = b := by
  change ((Float.ofNat a).toModel.unpack.compare (Float.ofNat b).toModel.unpack == some .eq) =
    true ↔ _
  rw [ofNat_eq_ofWhole ha, ofNat_eq_ofWhole hb, unpack_ofWhole _ ha, unpack_ofWhole _ hb,
    beq_iff_eq, compare_whole_eq_iff]

end StackScript.Number
