import StackScript.Number.Decimal
import StackScript.Proofs.Rounding

/-!
# Decimals read as the nearest number

A decimal is read in one of two ways. If its coefficient and its power of ten are numbers, then they
are multiplied or divided, and otherwise the same is done with all of their digits. Both come down
to one product or one quotient, so that a decimal reads as what it has to be rounded to,
`Decimal.roundsTo`. A decimal that is as large as a number reads as that number,
`Decimal.toFloat_eq_of_value_eq`.
-/

namespace StackScript

open Float.Model Float.Model.UnpackedFloat

namespace Number

/-! ## Coefficients and powers of ten that are numbers -/

/-- A power of ten up to `10 ^ 22` has a filled form, since `5 ^ 22` fits a significand. -/
theorem powersOfTen_eq_ofModel : ∀ n : Fin 23, Float.exactlyRepresentablePowersOfTen[n] =
    .ofModel (pack (.finite .positive (5 ^ n.val * 2 ^ lift (5 ^ n.val)) (n - lift (5 ^ n.val))
      (mul_two_pow_pos (Nat.pow_pos (by decide)).ne' _))) := by
  decide +kernel

/-- The number is positive, its significand is filled, and this is its value. -/
def Filled (x : Float) (v : ℚ) : Prop :=
  ∃ k i hk, x.toModel.unpack = .finite .positive k i hk ∧ 2 ^ 52 ≤ k ∧ (k : ℚ) * 2 ^ i = v

theorem filled_powersOfTen (n : Fin 23) :
    Filled Float.exactlyRepresentablePowersOfTen[n] (10 ^ (n : ℕ)) := by
  have hne : 5 ^ (n : ℕ) ≠ 0 := (Nat.pow_pos (by decide)).ne'
  have hlt : 5 ^ (n : ℕ) < 2 ^ 53 :=
    Nat.lt_of_le_of_lt (Nat.pow_le_pow_right (by decide) (Nat.le_of_lt_succ n.isLt)) (by decide)
  have hlift : lift (5 ^ (n : ℕ)) ≤ 52 := Nat.sub_le _ _
  refine ⟨_, n - lift (5 ^ (n : ℕ)), mul_two_pow_pos hne _, ?_, two_pow_le_mul_lift hne hlt, ?_⟩
  · rw [powersOfTen_eq_ofModel]
    exact unpack_pack_finite _ (two_pow_le_mul_lift hne hlt) (mul_lift_lt hne hlt) (by omega)
      (by omega)
  · push_cast
    rw [mul_assoc, ← zpow_natCast (2 : ℚ) (lift _), ← zpow_add₀ two_ne_zero, add_sub_cancel,
      zpow_natCast, ← mul_pow]
    norm_num

theorem filled_toFloat {c : ℕ} (hc : c ≠ 0) (hlt : c < 2 ^ 53) : Filled c.toUInt64.toFloat c := by
  refine ⟨_, -lift c, mul_two_pow_pos hc _, ?_, two_pow_le_mul_lift hc hlt, ?_⟩
  · rw [toFloat_toUInt64 hlt, unpack_ofWhole _ hlt, whole_of_ne_zero hc]
  · push_cast
    rw [mul_assoc, ← zpow_natCast, ← zpow_add₀ two_ne_zero, add_neg_cancel, zpow_zero, mul_one]

theorem Filled.roundsTo_mul {x y : Float} {v w : ℚ} (hx : Filled x v) (hy : Filled y w) :
    RoundsTo (v * w) (x * y) := by
  obtain ⟨k, i, hk, hxk, hk52, rfl⟩ := hx
  obtain ⟨l, j, hl, hyl, -, rfl⟩ := hy
  rw [mul_eq_ofModel, hxk, hyl]
  exact Number.roundsTo_mul (hk52.trans (Nat.le_mul_of_pos_right k hl))

theorem Filled.roundsTo_div {x y : Float} {v w : ℚ} (hx : Filled x v) (hy : Filled y w) :
    RoundsTo (v / w) (x / y) := by
  obtain ⟨k, i, hk, hxk, -, rfl⟩ := hx
  obtain ⟨l, j, hl, hyl, -, rfl⟩ := hy
  rw [div_eq_ofModel, hxk, hyl]
  exact Number.roundsTo_div

/-! ## Powers of ten -/

section

variable {c : ℕ} {q : ℤ}

theorem overflow_le_of_lt (hc : c ≠ 0) (hq : 2 ^ 11 < q) : overflow ≤ c * 10 ^ q := by
  have hone : (1 : ℚ) ≤ c := by exact_mod_cast Nat.pos_of_ne_zero hc
  calc overflow ≤ 2 ^ (53 : ℤ) * 2 ^ (971 : ℤ) := by
        rw [overflow]
        gcongr
        norm_num
    _ = 2 ^ (1024 : ℤ) := (zpow_add₀ two_ne_zero 53 971).symm
    _ ≤ 2 ^ q := zpow_le_zpow_right₀ one_le_two (by omega)
    _ ≤ 10 ^ q := zpow_le_zpow_left₀ (by omega) zero_le_two (by norm_num)
    _ ≤ c * 10 ^ q := le_mul_of_one_le_left (by positivity) hone

theorem lt_of_exponent_lt (hq : q < -(2 ^ 11 + c.log2)) : (c : ℚ) * 10 ^ q < 2 ^ (-1075 : ℤ) := by
  have hc : (c : ℚ) < 2 ^ (c.log2 + 1 : ℤ) := by exact_mod_cast Nat.lt_log2_self
  have hten : (10 : ℚ) ^ q ≤ 2 ^ q := by
    obtain ⟨n, rfl⟩ : ∃ n : ℕ, q = -n := ⟨q.natAbs, by omega⟩
    rw [zpow_neg, zpow_neg, zpow_natCast, zpow_natCast]
    gcongr
    norm_num
  calc (c : ℚ) * 10 ^ q ≤ c * 2 ^ q := by gcongr
    _ < 2 ^ (c.log2 + 1 : ℤ) * 2 ^ q := by gcongr
    _ = 2 ^ (c.log2 + 1 + q) := (zpow_add₀ two_ne_zero _ _).symm
    _ ≤ 2 ^ (-1075 : ℤ) := zpow_le_zpow_right₀ one_le_two (by omega)

/-- Powers of ten that are computed on the way are as large as need be. -/
theorem roundsTo_unpacked_ofScientific (c : ℕ) (q : ℤ) : RoundsTo (c * 10 ^ q)
    (.ofModel (pack (UnpackedFloat.ofScientific Format.binary64 c q))) := by
  rw [UnpackedFloat.ofScientific]
  by_cases hc : c = 0
  · rw [dif_pos hc, hc, Nat.cast_zero, zero_mul]
    exact roundsTo_zero (le_refl 0) (by positivity)
  rw [dif_neg hc]
  by_cases hhigh : q > 2 ^ Format.binary64.exponentBits
  · rw [if_pos hhigh]
    exact roundsTo_infinity (overflow_le_of_lt hc hhigh)
  rw [if_neg hhigh]
  by_cases hlow : q < -(2 ^ Format.binary64.exponentBits + c.log2)
  · rw [if_pos hlow]
    exact roundsTo_zero (by positivity) (lt_of_exponent_lt hlow)
  rw [if_neg hlow]
  by_cases hq : 0 ≤ q
  · obtain ⟨n, rfl⟩ := Int.eq_ofNat_of_zero_le hq
    rw [if_pos hq]
    have hvalue : (c : ℚ) * 10 ^ (n : ℤ) =
        (c <<< Format.binary64.mantissaBits : ℕ) * 2 ^ (-Format.binary64.mantissaBits : ℤ) *
          ((10 ^ (n : ℤ).toNat : ℕ) * 2 ^ (0 : ℤ)) := by
      rw [Nat.shiftLeft_eq, Int.toNat_natCast, zpow_zero, mul_one, zpow_neg, zpow_natCast,
        zpow_natCast]
      push_cast
      field_simp
    rw [hvalue]
    refine roundsTo_mul ?_
    rw [Nat.shiftLeft_eq]
    calc 2 ^ 52 ≤ 1 * 2 ^ 53 * 1 := by decide
      _ ≤ c * 2 ^ 53 * 10 ^ (n : ℤ).toNat :=
        Nat.mul_le_mul (Nat.mul_le_mul_right _ (Nat.pos_of_ne_zero hc)) (Nat.pow_pos (by decide))
  · obtain ⟨n, rfl⟩ : ∃ n : ℕ, q = -n := ⟨q.natAbs, by omega⟩
    rw [if_neg hq]
    have hvalue : (c : ℚ) * 10 ^ (-n : ℤ) =
        c * 2 ^ (0 : ℤ) / ((10 ^ (- -n : ℤ).toNat : ℕ) * 2 ^ (0 : ℤ)) := by
      rw [neg_neg, Int.toNat_natCast, zpow_zero, mul_one, mul_one, zpow_neg, zpow_natCast]
      push_cast
      rw [div_eq_mul_inv]
    rw [hvalue]
    exact roundsTo_div

theorem powersOfTen_zero : ∀ k : Fin 23, ∀ negative : Bool,
    Float.ofScientific 0 negative k = .ofModel (pack (.zero .positive)) := by
  decide +kernel

theorem ofScientific_zero (negative : Bool) (k : ℕ) :
    Float.ofScientific 0 negative k = .ofModel (pack (.zero .positive)) := by
  by_cases hk : k ≤ 22
  · exact powersOfTen_zero ⟨k, Nat.lt_succ_of_le hk⟩ negative
  · rw [Float.ofScientific, dif_neg fun h ↦ hk h.2]
    rfl

/-- Whichever way is taken, there is one product or one quotient to be rounded. -/
theorem roundsTo_ofScientific (c : ℕ) (q : ℤ) :
    RoundsTo (c * 10 ^ q) (Float.ofScientific c (q < 0) q.natAbs) := by
  by_cases hc : c = 0
  · rw [hc, ofScientific_zero, Nat.cast_zero, zero_mul]
    exact roundsTo_zero (le_refl 0) (by positivity)
  by_cases hfast : c < 2 ^ 53 ∧ q.natAbs ≤ 22
  · have hten := filled_powersOfTen ⟨q.natAbs, Nat.lt_succ_of_le hfast.2⟩
    have hwhole := filled_toFloat hc hfast.1
    rw [Float.ofScientific, dif_pos hfast]
    by_cases hq : q < 0
    · rw [decide_eq_true hq]
      have hvalue : (10 : ℚ) ^ q = (10 ^ q.natAbs)⁻¹ := by
        rw [← zpow_natCast, ← zpow_neg, Int.ofNat_natAbs_of_nonpos hq.le, neg_neg]
      rw [hvalue, ← div_eq_mul_inv]
      exact hwhole.roundsTo_div hten
    · rw [decide_eq_false hq]
      have hvalue : (10 : ℚ) ^ q = 10 ^ q.natAbs := by
        rw [← zpow_natCast, Int.natAbs_of_nonneg (not_lt.1 hq)]
      rw [hvalue]
      exact hwhole.roundsTo_mul hten
  · rw [Float.ofScientific, dif_neg hfast]
    have hexponent : (if decide (q < 0) = true then Int.negOfNat q.natAbs else .ofNat q.natAbs) =
        q := by
      by_cases hq : q < 0
      · rw [decide_eq_true hq, if_pos rfl, Int.negOfNat_eq, Int.ofNat_eq_natCast]
        omega
      · rw [decide_eq_false hq, if_neg Bool.false_ne_true, Int.ofNat_eq_natCast]
        omega
    dsimp only
    rw [hexponent]
    exact roundsTo_unpacked_ofScientific c q

end

/-! ## Values of numbers -/

variable {x y : Float}

theorem abs_value_lt_overflow (hx : x.isFinite = true) : |value x| < overflow := by
  obtain ⟨s, hzero⟩ | ⟨s, m, e, hm, hunpack⟩ := unpack_of_isFinite hx
  · rw [value_of_zero hzero, abs_zero, overflow]
    positivity
  have hcanonical := canonical_of_unpack hunpack
  have hm : (m : ℚ) < 2 ^ 53 - 1 / 2 := by
    have : ((m + 1 : ℕ) : ℚ) ≤ (2 ^ 53 : ℕ) := by exact_mod_cast hcanonical.lt
    push_cast at this
    linarith
  rw [value_of_unpack hunpack, abs_mul, abs_apply, abs_of_pos (by positivity), overflow]
  calc (m : ℚ) * 2 ^ e ≤ m * 2 ^ (971 : ℤ) := by
        gcongr
        · norm_num
        · exact hcanonical.high
    _ < (2 ^ 53 - 1 / 2) * 2 ^ (971 : ℤ) := by gcongr

theorem RoundsTo.lt_overflow {v : ℚ} (h : RoundsTo v x) (hx : x.isFinite = true) :
    |v| < overflow := by
  refine not_le.1 fun hge ↦ ?_
  have hinf := h.infinite hge
  change x.toModel.unpack.isInf = true at hinf
  change x.toModel.unpack.isFinite = true at hx
  cases hunpack : x.toModel.unpack <;> rw [hunpack] at hinf hx <;> contradiction

/-- Rounding keeps the order. -/
theorem Nearest.value_le {v w : ℚ} (hx : Nearest v x) (hy : Nearest w y) (h : v < w) :
    value x ≤ value y := by
  -- otherwise `v` would be above the middle of the two numbers and `w` below it
  have hv := sq_le_sq.2 (hx.le y hy.finite)
  have hw := sq_le_sq.2 (hy.le x hx.finite)
  by_contra hlt
  nlinarith

/-- Rounding does nothing to the value of a number. -/
theorem RoundsTo.eq_of_value (h : RoundsTo (value y) x) (hy : y.isFinite = true)
    (hne : value y ≠ 0) : x = y := by
  have hnearest := h.nearest (abs_value_lt_overflow hy)
  have hle := hnearest.le y hy
  rw [sub_self, abs_zero] at hle
  exact eq_of_value_eq hnearest.finite hy (sub_eq_zero.1 (abs_nonpos_iff.1 hle)) hne

end Number

/-! ## Decimals -/

namespace Decimal

variable {d : Decimal}

def value (d : Decimal) : ℚ :=
  d.coefficient * 10 ^ d.exponent

theorem value_trim (d : Decimal) : d.trim.value = d.value := by
  fun_induction trim d with
  | case1 d h ih =>
    have hten : ((d.coefficient / 10 : ℕ) : ℚ) * 10 = d.coefficient := by
      exact_mod_cast Nat.div_mul_cancel (Nat.dvd_of_mod_eq_zero h.2)
    rw [ih, value, value, zpow_add_one₀ (by norm_num), mul_comm ((10 : ℚ) ^ d.exponent),
      ← mul_assoc, hten]
  | case2 d h => rfl

/-- **Correct reading.** A decimal reads as what it has to be rounded to. -/
theorem roundsTo (d : Decimal) : Number.RoundsTo d.value d.toFloat := by
  rw [← value_trim]
  exact Number.roundsTo_ofScientific d.trim.coefficient d.trim.exponent

theorem toFloat_eq_of_value_eq {x : Float} (hx : x.isFinite = true) (hne : Number.value x ≠ 0)
    (h : d.value = Number.value x) : d.toFloat = x :=
  (h ▸ d.roundsTo).eq_of_value hx hne

end Decimal

end StackScript
