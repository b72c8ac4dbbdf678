import StackScript.Proofs.NumberText

/-!
# The order of numbers

Numbers are compared by sign, by exponent and by significand, in this order. For finite numbers that
is the order of their values, since significands are filled, `Number.compare_of_isFinite`, and the
infinities may be taken for values that no finite number reaches. So each number has a place among
the rationals unless it is the value that is not a number, and what is less or equal is told by the
places, `Number.lt_iff` and `Number.beq_iff_place`.
-/

namespace StackScript.Number

open Float.Model Float.Model.UnpackedFloat

variable {x y : Float} {m m' : ℕ} {e e' : ℤ}

/-! ## Values -/

theorem Canonical.compare_value (h : Canonical m e) (h' : Canonical m' e') :
    compare ((m : ℚ) * 2 ^ e) (m' * 2 ^ e') = (compare e e').then (compare m m') := by
  rcases lt_trichotomy e e' with he | rfl | he
  · rw [compare_lt_iff_lt.2 he, compare_lt_iff_lt.2 (h.value_lt_of_lt h' he)]
    rfl
  · have hpos : (0 : ℚ) < 2 ^ e := by positivity
    rw [compare_eq_iff_eq.2 (rfl : e = e), Ordering.eq_then]
    rcases lt_trichotomy m m' with hm | rfl | hm
    · rw [compare_lt_iff_lt.2 hm, compare_lt_iff_lt]
      gcongr
    · rw [compare_eq_iff_eq.2 rfl, compare_eq_iff_eq.2 rfl]
    · rw [compare_gt_iff_gt.2 hm, compare_gt_iff_gt]
      gcongr
  · rw [compare_gt_iff_gt.2 he, compare_gt_iff_gt.2 (h'.value_lt_of_lt h he)]
    rfl

theorem compare_neg_neg (a b : ℚ) : compare (-a) (-b) = (compare a b).swap := by
  rcases lt_trichotomy a b with h | rfl | h
  · rw [compare_lt_iff_lt.2 h, compare_gt_iff_gt.2 (neg_lt_neg h)]
    rfl
  · rw [compare_eq_iff_eq.2 rfl, compare_eq_iff_eq.2 rfl]
    rfl
  · rw [compare_gt_iff_gt.2 h, compare_lt_iff_lt.2 (neg_lt_neg h)]
    rfl

theorem value_of_positive {hm : 0 < m} (h : x.toModel.unpack = .finite .positive m e hm) :
    value x = m * 2 ^ e ∧ 0 < value x := by
  have hvalue : value x = m * 2 ^ e := by rw [value_of_unpack h, Sign.apply, Int.cast_natCast]
  exact ⟨hvalue, hvalue ▸ mul_pos (Nat.cast_pos.2 hm) (by positivity)⟩

theorem value_of_negative {hm : 0 < m} (h : x.toModel.unpack = .finite .negative m e hm) :
    value x = -(m * 2 ^ e) ∧ value x < 0 := by
  have hvalue : value x = -(m * 2 ^ e) := by
    rw [value_of_unpack h, Sign.apply, Int.cast_neg, Int.cast_natCast, neg_mul]
  exact ⟨hvalue, hvalue ▸ neg_neg_of_pos (mul_pos (Nat.cast_pos.2 hm) (by positivity))⟩

/-- Finite numbers are compared by their values. -/
theorem compare_of_isFinite (hx : x.isFinite = true) (hy : y.isFinite = true) :
    x.toModel.unpack.compare y.toModel.unpack = some (compare (value x) (value y)) := by
  obtain ⟨s, hxs⟩ | ⟨s, m, e, hm, hxs⟩ := unpack_of_isFinite hx <;>
    obtain ⟨t, hyt⟩ | ⟨t, k, i, hk, hyt⟩ := unpack_of_isFinite hy <;> rw [hxs, hyt]
  · rw [value_of_zero hxs, value_of_zero hyt, compare_eq_iff_eq.2 rfl]
    rfl
  · rw [value_of_zero hxs]
    cases t with
    | positive => rw [compare_lt_iff_lt.2 (value_of_positive hyt).2]; rfl
    | negative => rw [compare_gt_iff_gt.2 (value_of_negative hyt).2]; rfl
  · rw [value_of_zero hyt]
    cases s with
    | positive => rw [compare_gt_iff_gt.2 (value_of_positive hxs).2]; rfl
    | negative => rw [compare_lt_iff_lt.2 (value_of_negative hxs).2]; rfl
  · have hcompare := (canonical_of_unpack hxs).compare_value (canonical_of_unpack hyt)
    -- exponents and significands only count where the signs agree
    cases s <;> cases t
    case positive.positive =>
      rw [(value_of_positive hxs).1, (value_of_positive hyt).1, hcompare]
      rfl
    case positive.negative =>
      rw [compare_gt_iff_gt.2 ((value_of_negative hyt).2.trans (value_of_positive hxs).2)]
      rfl
    case negative.positive =>
      rw [compare_lt_iff_lt.2 ((value_of_negative hxs).2.trans (value_of_positive hyt).2)]
      rfl
    case negative.negative =>
      rw [(value_of_negative hxs).1, (value_of_negative hyt).1, compare_neg_neg, hcompare]
      rfl

/-! ## Places -/

/-- Where a number stands in order: at its value, and the infinities where numbers have become too
large. -/
def place (x : Float) : Option ℚ :=
  match x.toModel.unpack with
  | .notANumber => none
  | .infinity .negative => some (-overflow)
  | .infinity .positive => some overflow
  | .zero _ | .finite _ _ _ _ => some (value x)

theorem place_of_isFinite (hx : x.isFinite = true) : place x = some (value x) := by
  obtain ⟨s, h⟩ | ⟨s, m, e, hm, h⟩ := unpack_of_isFinite hx <;> rw [place, h]

theorem place_cases (x : Float) : (x.toModel.unpack = .notANumber ∧ place x = none) ∨
    (x.toModel.unpack = .infinity .negative ∧ place x = some (-overflow)) ∨
    (x.toModel.unpack = .infinity .positive ∧ place x = some overflow) ∨ x.isFinite = true := by
  cases h : x.toModel.unpack with
  | notANumber => exact .inl ⟨rfl, by rw [place, h]⟩
  | infinity s =>
    cases s with
    | negative => exact .inr (.inl ⟨rfl, by rw [place, h]⟩)
    | positive => exact .inr (.inr (.inl ⟨rfl, by rw [place, h]⟩))
  | zero | finite => exact .inr (.inr (.inr (isFinite_of_unpack h rfl)))

theorem place_eq_none_iff (x : Float) : place x = none ↔ x.isNaN = true := by
  rw [isNaN_iff, place]
  cases h : x.toModel.unpack with
  | notANumber => exact iff_of_true rfl rfl
  | infinity s => cases s <;> simp
  | zero | finite => simp

theorem overflow_pos : 0 < overflow := by
  rw [overflow]
  positivity

theorem compare_unpack_of_isFinite (hx : x.isFinite = true) (y : Float) :
    x.toModel.unpack.compare y.toModel.unpack = (place y).map fun q ↦ compare (value x) q := by
  obtain ⟨hlow, hhigh⟩ := abs_lt.1 (abs_value_lt_overflow hx)
  rcases place_cases y with ⟨hy, hq⟩ | ⟨hy, hq⟩ | ⟨hy, hq⟩ | hy
  · rw [hy, hq]
    obtain ⟨s, h⟩ | ⟨s, m, e, hm, h⟩ := unpack_of_isFinite hx <;> rw [h] <;> rfl
  · rw [hy, hq, Option.map_some, compare_gt_iff_gt.2 hlow]
    obtain ⟨s, h⟩ | ⟨s, m, e, hm, h⟩ := unpack_of_isFinite hx <;> rw [h] <;> rfl
  · rw [hy, hq, Option.map_some, compare_lt_iff_lt.2 hhigh]
    obtain ⟨s, h⟩ | ⟨s, m, e, hm, h⟩ := unpack_of_isFinite hx <;> rw [h] <;> rfl
  · rw [compare_of_isFinite hx hy, place_of_isFinite hy, Option.map_some]

theorem compare_unpack_of_negative_infinity (hx : x.toModel.unpack = .infinity .negative)
    (y : Float) :
    x.toModel.unpack.compare y.toModel.unpack = (place y).map fun q ↦ compare (-overflow) q := by
  rw [hx]
  rcases place_cases y with ⟨hy, hq⟩ | ⟨hy, hq⟩ | ⟨hy, hq⟩ | hy
  · rw [hy, hq]
    rfl
  · rw [hy, hq, Option.map_some, compare_eq_iff_eq.2 rfl]
    rfl
  · rw [hy, hq, Option.map_some, compare_lt_iff_lt.2 (neg_lt_self overflow_pos)]
    rfl
  · rw [place_of_isFinite hy, Option.map_some,
      compare_lt_iff_lt.2 (abs_lt.1 (abs_value_lt_overflow hy)).1]
    obtain ⟨s, h⟩ | ⟨s, m, e, hm, h⟩ := unpack_of_isFinite hy <;> rw [h] <;> rfl

theorem compare_unpack_of_positive_infinity (hx : x.toModel.unpack = .infinity .positive)
    (y : Float) :
    x.toModel.unpack.compare y.toModel.unpack = (place y).map fun q ↦ compare overflow q := by
  rw [hx]
  rcases place_cases y with ⟨hy, hq⟩ | ⟨hy, hq⟩ | ⟨hy, hq⟩ | hy
  · rw [hy, hq]
    rfl
  · rw [hy, hq, Option.map_some, compare_gt_iff_gt.2 (neg_lt_self overflow_pos)]
    rfl
  · rw [hy, hq, Option.map_some, compare_eq_iff_eq.2 rfl]
    rfl
  · rw [place_of_isFinite hy, Option.map_some,
      compare_gt_iff_gt.2 (abs_lt.1 (abs_value_lt_overflow hy)).2]
    obtain ⟨s, h⟩ | ⟨s, m, e, hm, h⟩ := unpack_of_isFinite hy <;> rw [h] <;> rfl

/-- **Numbers are compared by their places.** -/
theorem compare_unpack (x y : Float) : x.toModel.unpack.compare y.toModel.unpack =
    (place x).bind fun p ↦ (place y).map fun q ↦ compare p q := by
  rcases place_cases x with ⟨hx, hp⟩ | ⟨hx, hp⟩ | ⟨hx, hp⟩ | hx
  · rw [hx, hp]
    rfl
  · rw [compare_unpack_of_negative_infinity hx, hp, Option.bind_some]
  · rw [compare_unpack_of_positive_infinity hx, hp, Option.bind_some]
  · rw [compare_unpack_of_isFinite hx, place_of_isFinite hx, Option.bind_some]

theorem lt_iff (x y : Float) : x < y ↔ ∃ p q, place x = some p ∧ place y = some q ∧ p < q := by
  have hcompare : x < y ↔ x.toModel.unpack.compare y.toModel.unpack = some .lt := by
    change decide ((x.toModel.unpack.compare y.toModel.unpack == some .lt) = true) = true ↔ _
    rw [decide_eq_true_iff, beq_iff_eq]
  rw [hcompare, compare_unpack]
  simp [Option.bind_eq_some_iff, compare_lt_iff_lt]

theorem beq_iff_place (x y : Float) :
    (x == y) = true ↔ ∃ p, place x = some p ∧ place y = some p := by
  have hcompare : (x == y) = true ↔ x.toModel.unpack.compare y.toModel.unpack = some .eq := by
    rw [← beq_iff_eq (α := Option Ordering)]
    rfl
  rw [hcompare, compare_unpack]
  simp [Option.bind_eq_some_iff]

/-- Numbers at two places are not equal. -/
theorem beq_iff_of_places {p q : ℚ} (hx : place x = some p) (hy : place y = some q) :
    (x == y) = true ↔ p = q := by
  rw [beq_iff_place, hx, hy]
  constructor
  · rintro ⟨r, hp, hq⟩
    exact (Option.some.inj hp).trans (Option.some.inj hq).symm
  · rintro rfl
    exact ⟨p, rfl, rfl⟩

end StackScript.Number
