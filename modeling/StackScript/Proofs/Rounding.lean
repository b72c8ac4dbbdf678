import StackScript.Proofs.StoredNumbers

/-!
# Rounding to the nearest number

A product or a quotient of two numbers is first computed with more places than can be stored, and
two bits tell where the exact value lies behind them. That is enough to round it,
`Number.Locates.rounds`. The whole number that comes out is the nearest one in units of the last
place, and as the grid of these units holds every number that could be nearer, it is the nearest
number, `Number.Rounded.nearest`.

`Number.RoundsTo` says what a value has to be rounded to, the values that are too large included. It
holds of products and of quotients, `Number.roundsTo_mul` and `Number.roundsTo_div`.
-/

namespace StackScript.Number

open Float.Model Float.Model.UnpackedFloat

variable {em : ExtendedMantissa} {v y : ℚ} {m r : ℕ} {e t : ℤ}

/-! ## Whole numbers -/

/-- The whole number is nearest to `y`, and it is the even one if there are two. -/
structure Rounds (y : ℚ) (r : ℕ) : Prop where
  near : |(r : ℚ) - y| ≤ 1 / 2
  even : |(r : ℚ) - y| = 1 / 2 → r % 2 = 0

theorem rounds_of_lt (h : |(r : ℚ) - y| < 1 / 2) : Rounds y r :=
  ⟨h.le, fun heq ↦ absurd heq h.ne⟩

/-- Another whole number is further away, by one or more. -/
theorem one_sub_abs_le {k : ℤ} (hk : k ≠ r) (y : ℚ) : 1 - |(r : ℚ) - y| ≤ |k - y| := by
  have hone : (1 : ℚ) ≤ |(k : ℚ) - r| := by exact_mod_cast Int.one_le_abs (sub_ne_zero.2 hk)
  have htriangle := abs_sub_le (k : ℚ) y r
  rw [abs_sub_comm y] at htriangle
  linarith

theorem Rounds.le (h : Rounds y r) (k : ℤ) : |(r : ℚ) - y| ≤ |k - y| := by
  by_cases hk : k = r
  · rw [hk, Int.cast_natCast]
  · linarith [one_sub_abs_le hk y, h.near]

theorem Rounds.even_of_eq (h : Rounds y r) {k : ℤ} (hk : k ≠ r) (heq : |k - y| = |(r : ℚ) - y|) :
    r % 2 = 0 :=
  h.even (by linarith [one_sub_abs_le hk y, h.near])

/-- Halfway below an even number the odd one before it gives way. -/
theorem Rounds.lt_iff (h : Rounds y r) {n : ℕ} (hn : n % 2 = 0) : r < n ↔ y < n - 1 / 2 := by
  obtain ⟨hlow, hhigh⟩ := abs_le.1 h.near
  constructor
  · intro hlt
    refine not_le.1 fun hy ↦ ?_
    have hle : (r : ℚ) + 1 ≤ n := by exact_mod_cast hlt
    have heven := h.even (by rw [abs_sub_comm, abs_of_nonneg] <;> linarith)
    have hlast : (r : ℚ) + 1 = n := by linarith
    have : r + 1 = n := by exact_mod_cast hlast
    omega
  · intro hy
    refine not_le.1 fun hle ↦ ?_
    have : (n : ℚ) ≤ r := by exact_mod_cast hle
    linarith

/-! ## The places that are dropped -/

/-- The two bits behind the significand tell where `y` lies between it and the next one: whether in
the upper half, and whether at none of the points that count. -/
structure Locates (em : ExtendedMantissa) (y : ℚ) : Prop where
  le : em.mantissa ≤ y
  lt : y < em.mantissa + 1
  round : em.roundBit = true ↔ em.mantissa + 1 / 2 ≤ y
  sticky : em.stickyBit = false ↔ y = em.mantissa ∨ y = em.mantissa + 1 / 2

theorem locates_add {round sticky : Bool} {f : ℚ} (m : ℕ) (hnonneg : 0 ≤ f) (hlt : f < 1)
    (hround : round = true ↔ 1 / 2 ≤ f) (hsticky : sticky = false ↔ f = 0 ∨ f = 1 / 2) :
    Locates ⟨m, round, sticky⟩ (m + f) where
  le := le_add_of_nonneg_right hnonneg
  lt := (add_lt_add_iff_left _).2 hlt
  round := hround.trans (add_le_add_iff_left _).symm
  sticky := by rw [hsticky, add_eq_left, add_right_inj]

theorem locates_exact (m : ℕ) : Locates ⟨m, false, false⟩ m := by
  have hself : Locates ⟨m, false, false⟩ ((m : ℚ) + 0) :=
    locates_add m (le_refl 0) one_pos (by norm_num) (by simp)
  rwa [add_zero] at hself

/-- Without either of the two bits nothing is lost. -/
theorem Locates.bits_eq_false_iff (h : Locates em y) :
    (em.roundBit || em.stickyBit) = false ↔ y = em.mantissa := by
  rw [Bool.or_eq_false_iff, h.sticky, Bool.eq_false_iff, ne_eq, h.round, not_le]
  constructor
  · rintro ⟨hlt, rfl | rfl⟩
    · rfl
    · exact absurd hlt (lt_irrefl _)
  · rintro rfl
    exact ⟨by linarith, .inl rfl⟩

theorem Locates.shiftRightOne (h : Locates em y) : Locates em.shiftRightOne (y / 2) := by
  have hle := h.le
  have hlt := h.lt
  have hhalf : ((em.mantissa % 2 : ℕ) : ℚ) + 2 * (em.mantissa / 2 : ℕ) = em.mantissa := by
    exact_mod_cast Nat.mod_add_div em.mantissa 2
  have hbit : (em.mantissa % 2 != 0) = true ↔ ((em.mantissa / 2 : ℕ) : ℚ) + 1 / 2 ≤ y / 2 := by
    rw [bne_iff_ne]
    rcases Nat.mod_two_eq_zero_or_one em.mantissa with hmod | hmod <;> rw [hmod] at hhalf ⊢
    · exact iff_of_false (fun h ↦ h rfl) (not_le.2 (by push_cast at hhalf; linarith))
    · exact iff_of_true one_ne_zero (by push_cast at hhalf; linarith)
  have hsticky : (em.roundBit || em.stickyBit) = false ↔
      y / 2 = (em.mantissa / 2 : ℕ) ∨ y / 2 = (em.mantissa / 2 : ℕ) + 1 / 2 := by
    rw [h.bits_eq_false_iff]
    rcases Nat.mod_two_eq_zero_or_one em.mantissa with hmod | hmod <;> rw [hmod] at hhalf <;>
      push_cast at hhalf
    · exact ⟨fun hy ↦ .inl (by linarith), by rintro (hy | hy) <;> linarith⟩
    · exact ⟨fun hy ↦ .inr (by linarith), by rintro (hy | hy) <;> linarith⟩
  refine ⟨?_, ?_, hbit, hsticky⟩
  · change ((em.mantissa / 2 : ℕ) : ℚ) ≤ y / 2
    have : (0 : ℚ) ≤ (em.mantissa % 2 : ℕ) := Nat.cast_nonneg _
    linarith
  · change y / 2 < ((em.mantissa / 2 : ℕ) : ℚ) + 1
    have : ((em.mantissa % 2 : ℕ) : ℚ) ≤ 1 := by
      exact_mod_cast Nat.le_of_lt_succ (Nat.mod_lt _ (by decide))
    linarith

theorem Locates.shiftRight (h : Locates em y) (n : ℕ) : Locates (em >>> n) (y / 2 ^ n) := by
  change Locates (n.repeat ExtendedMantissa.shiftRightOne em) _
  induction n with
  | zero => rwa [pow_zero, div_one]
  | succ n ih =>
    rw [pow_succ, ← div_div]
    exact ih.shiftRightOne

/-- The bits behind the significand are all that is needed to round it. -/
theorem Locates.rounds (h : Locates em y) : Rounds y em.roundedMantissa := by
  obtain ⟨m, round, sticky⟩ := em
  obtain ⟨hle, hlt, hround, hsticky⟩ := h
  dsimp only at hle hlt hround hsticky
  cases round <;> cases sticky
  case false.false =>
    have hlow : y < m + 1 / 2 := not_le.1 fun hy ↦ Bool.false_ne_true (hround.2 hy)
    have hy : y = m := (hsticky.1 rfl).resolve_right hlow.ne
    refine rounds_of_lt (r := m) ?_
    rw [hy, sub_self, abs_zero]
    norm_num
  case false.true =>
    have hlow : y < m + 1 / 2 := not_le.1 fun hy ↦ Bool.false_ne_true (hround.2 hy)
    refine rounds_of_lt (r := m) ?_
    rw [abs_lt]
    constructor <;> linarith
  case true.false =>
    have hhigh := hround.1 rfl
    have hy : y = m + 1 / 2 := (hsticky.1 rfl).resolve_left (by linarith)
    refine ⟨?_, fun _ ↦ ?_⟩
    · change |((m + m % 2 : ℕ) : ℚ) - y| ≤ 1 / 2
      rcases Nat.mod_two_eq_zero_or_one m with hmod | hmod <;> rw [hmod, hy, abs_le] <;>
        push_cast <;> constructor <;> linarith
    · change (m + m % 2) % 2 = 0
      omega
  case true.true =>
    have hhigh := hround.1 rfl
    have hne : y ≠ m + 1 / 2 := fun hy ↦ Bool.false_ne_true (hsticky.2 (.inr hy)).symm
    have hlow : m + 1 / 2 < y := lt_of_le_of_ne hhigh hne.symm
    refine rounds_of_lt (r := m + 1) ?_
    rw [abs_lt]
    push_cast
    constructor <;> linarith

/-- The remainder of a division tells where the quotient lies. -/
theorem locates_div (n : ℕ) {l : ℕ} (hl : 0 < l) :
    Locates (.ofMantissaAndAccuracy (n / l) (accuracyOfFraction (n % l) l)) (n / l) := by
  have hpos : (0 : ℚ) < l := Nat.cast_pos.2 hl
  have hquotient : (n : ℚ) / l = (n / l : ℕ) + ((n % l : ℕ) : ℚ) / l := by
    rw [div_eq_iff hpos.ne', add_mul, div_mul_cancel₀ _ hpos.ne']
    exact_mod_cast (Nat.div_add_mod' n l).symm
  have hless : ((n % l : ℕ) : ℚ) / l < 1 := by
    rw [div_lt_one hpos]
    exact_mod_cast Nat.mod_lt n hl
  rw [hquotient, accuracyOfFraction]
  generalize n / l = q at *
  generalize n % l = rest at *
  by_cases hrest : rest = 0
  · rw [if_pos hrest, hrest, Nat.cast_zero, zero_div, add_zero]
    exact locates_exact q
  have hrest' : 0 < (rest : ℚ) / l := div_pos (Nat.cast_pos.2 (Nat.pos_of_ne_zero hrest)) hpos
  rw [if_neg hrest]
  cases hcompare : compare (2 * rest) l with
  | lt =>
    have hlow : (rest : ℚ) / l < 1 / 2 := by
      rw [div_lt_div_iff₀ hpos two_pos, mul_comm, one_mul]
      exact_mod_cast Nat.compare_eq_lt.1 hcompare
    exact locates_add q hrest'.le hless (iff_of_false Bool.false_ne_true hlow.not_ge)
      (iff_of_false Bool.false_ne_true.symm (not_or.2 ⟨hrest'.ne', hlow.ne⟩))
  | eq =>
    have hmiddle : (rest : ℚ) / l = 1 / 2 := by
      rw [div_eq_div_iff hpos.ne' two_ne_zero, mul_comm, one_mul]
      exact_mod_cast Nat.compare_eq_eq.1 hcompare
    exact locates_add q hrest'.le hless (iff_of_true rfl hmiddle.ge)
      (iff_of_true rfl (.inr hmiddle))
  | gt =>
    have hhigh : 1 / 2 < (rest : ℚ) / l := by
      rw [div_lt_div_iff₀ two_pos hpos, mul_comm (rest : ℚ), one_mul]
      exact_mod_cast Nat.compare_eq_gt.1 hcompare
    exact locates_add q hrest'.le hless (iff_of_true rfl hhigh.le)
      (iff_of_false Bool.false_ne_true.symm (not_or.2 ⟨hrest'.ne', hhigh.ne'⟩))

/-! ## Significands -/

/-- `t` is the exponent under which `v` is stored, and `r` is the significand that it is rounded to.
A carry is still to come. -/
structure Rounded (v : ℚ) (r : ℕ) (t : ℤ) : Prop where
  nonneg : 0 ≤ v
  low : -1074 ≤ t
  lt : v < 2 ^ 53 * 2 ^ t
  filled : 2 ^ 52 * 2 ^ t ≤ v ∨ t = -1074
  rounds : Rounds (v / 2 ^ t) r

theorem mantissa_ofMantissaAndAccuracy (m : ℕ) (acc : Accuracy) :
    (ExtendedMantissa.ofMantissaAndAccuracy m acc).mantissa = m := by
  cases acc with
  | exact => rfl
  | inexact o => cases o <;> rfl

theorem targetExponent_eq (m : ℕ) (e : ℤ) :
    Format.binary64.targetExponent (totalExponent m e) = max (m.log2 + e - 52) (-1074) := by
  simp only [Format.targetExponent, totalExponent, Format.mantissaBits, Format.minExponent]
  omega

theorem lt_of_lt_mul (h : v < (m + 1) * 2 ^ e) :
    v < 2 ^ 53 * 2 ^ Format.binary64.targetExponent (totalExponent m e) := by
  have hm : (m : ℚ) + 1 ≤ 2 ^ (m.log2 + 1 : ℤ) := by exact_mod_cast Nat.lt_log2_self
  rw [targetExponent_eq]
  calc v < (m + 1) * 2 ^ e := h
    _ ≤ 2 ^ (m.log2 + 1 : ℤ) * 2 ^ e := by gcongr
    _ = 2 ^ (m.log2 + 1 + e : ℤ) := (zpow_add₀ two_ne_zero _ _).symm
    _ ≤ 2 ^ (53 + max ((m.log2 : ℤ) + e - 52) (-1074)) :=
      zpow_le_zpow_right₀ one_le_two (by omega)
    _ = 2 ^ 53 * 2 ^ max ((m.log2 : ℤ) + e - 52) (-1074) := zpow_add₀ two_ne_zero _ _

theorem le_of_mul_le (h : m * 2 ^ e ≤ v)
    (he : e ≤ Format.binary64.targetExponent (totalExponent m e)) :
    2 ^ 52 * 2 ^ Format.binary64.targetExponent (totalExponent m e) ≤ v ∨
      Format.binary64.targetExponent (totalExponent m e) = -1074 := by
  rw [targetExponent_eq] at he ⊢
  set t := max ((m.log2 : ℤ) + e - 52) (-1074)
  refine (eq_or_ne t (-1074)).symm.imp_left fun hne ↦ ?_
  have htop : 52 + t = m.log2 + e := by omega
  have hm0 : m ≠ 0 := by
    rintro rfl
    rw [Nat.log2_zero] at htop
    omega
  have hm : (2 : ℚ) ^ (m.log2 : ℤ) ≤ m := by exact_mod_cast Nat.log2_self_le hm0
  calc (2 : ℚ) ^ 52 * 2 ^ t = 2 ^ (52 + t) := (zpow_add₀ two_ne_zero _ _).symm
    _ = 2 ^ (m.log2 : ℤ) * 2 ^ e := by rw [htop, zpow_add₀ two_ne_zero]
    _ ≤ m * 2 ^ e := by gcongr
    _ ≤ v := h

/-- What is rounded has the value `v`, in units of `2 ^ e`, and enough places. -/
theorem rounded_of_locates {acc : Accuracy}
    (h : Locates (.ofMantissaAndAccuracy m acc) (v / 2 ^ e))
    (he : e ≤ Format.binary64.targetExponent (totalExponent m e)) :
    Rounded v (shiftToTargetExponent Format.binary64 m e acc).1.roundedMantissa
      (shiftToTargetExponent Format.binary64 m e acc).2 := by
  have hle := h.le
  have hlt := h.lt
  rw [mantissa_ofMantissaAndAccuracy] at hle hlt
  rw [le_div_iff₀ (by positivity)] at hle
  rw [div_lt_iff₀ (by positivity)] at hlt
  rw [shiftToTargetExponent, shiftToExponent]
  obtain ⟨n, hn⟩ := Int.eq_ofNat_of_zero_le (Int.sub_nonneg.2 he)
  have htarget : e + n = Format.binary64.targetExponent (totalExponent m e) := by omega
  rw [hn, Int.toNat_natCast, htarget]
  refine ⟨le_trans (by positivity) hle, le_max_right _ _, lt_of_lt_mul hlt, le_of_mul_le hle he, ?_⟩
  rw [← htarget, zpow_add₀ two_ne_zero, zpow_natCast, ← div_div]
  exact (h.shiftRight n).rounds

theorem Rounded.le (h : Rounded v r t) : r ≤ 2 ^ 53 := by
  have hscaled : v / 2 ^ t < 2 ^ 53 := (div_lt_iff₀ (by positivity)).2 h.lt
  have hnear := (abs_le.1 h.rounds.near).2
  have : (r : ℚ) < (2 ^ 53 + 1 : ℕ) := by push_cast; linarith
  exact Nat.le_of_lt_succ (by exact_mod_cast this)

theorem Rounded.filled_significand (h : Rounded v r t) : 2 ^ 52 ≤ r ∨ t = -1074 := by
  refine h.filled.imp_left fun hfilled ↦ ?_
  have hscaled : 2 ^ 52 ≤ v / 2 ^ t := (le_div_iff₀ (by positivity)).2 hfilled
  have hnear := (abs_le.1 h.rounds.near).1
  have : ((2 ^ 52 : ℕ) : ℚ) < (r + 1 : ℕ) := by push_cast; linarith
  exact Nat.le_of_lt_succ (by exact_mod_cast this)

/-- The number with the significand `r`, in units of `2 ^ t`, after a carry. -/
def carried (s : Sign) (r : ℕ) (t : ℤ) : UnpackedFloat :=
  if r < 2 ^ 53 then if hr : r = 0 then .zero s else .finite s r t (Nat.pos_of_ne_zero hr)
  else .finite s (2 ^ 52) (t + 1) (by decide)

/-- Once rounded, a significand is moved by one place at most, and nothing is lost. -/
theorem shiftToTargetExponent_exact {k j : ℕ}
    (hj : (Format.binary64.targetExponent (totalExponent (k * 2 ^ j) t) - t).toNat = j) :
    shiftToTargetExponent Format.binary64 (k * 2 ^ j) t .exact = (⟨k, false, false⟩, t + j) := by
  rw [shiftToTargetExponent, shiftToExponent, hj]
  exact Prod.ext (shiftRight_mul_two_pow k j) rfl

theorem Rounded.shiftToTargetExponent_eq (h : Rounded v r t) :
    shiftToTargetExponent Format.binary64 r t .exact =
      if r < 2 ^ 53 then (⟨r, false, false⟩, t) else (⟨2 ^ 52, false, false⟩, t + 1) := by
  have hlow := h.low
  split
  · rename_i hlt
    have hlog := log2_lt_of_lt hlt
    have := shiftToTargetExponent_exact (k := r) (j := 0) (t := t)
      (by rw [pow_zero, mul_one, targetExponent_eq]; omega)
    rwa [pow_zero, mul_one, Nat.cast_zero, add_zero] at this
  · rename_i hge
    have hr : r = 2 ^ 52 * 2 ^ 1 := le_antisymm h.le (not_lt.1 hge)
    rw [hr]
    refine shiftToTargetExponent_exact (j := 1) ?_
    rw [← pow_add, targetExponent_eq, Nat.log2_two_pow]
    omega

theorem roundWithAccuracy_eq_carried {acc : Accuracy} (s : Sign)
    (h : Rounded v (shiftToTargetExponent Format.binary64 m e acc).1.roundedMantissa
      (shiftToTargetExponent Format.binary64 m e acc).2) :
    roundWithAccuracy Format.binary64 s m e acc =
      carried s (shiftToTargetExponent Format.binary64 m e acc).1.roundedMantissa
        (shiftToTargetExponent Format.binary64 m e acc).2 := by
  rw [roundWithAccuracy]
  dsimp only
  rw [h.shiftToTargetExponent_eq, carried]
  by_cases hlt : (shiftToTargetExponent Format.binary64 m e acc).1.roundedMantissa < 2 ^ 53
  · rw [if_pos hlt, if_pos hlt]
  · rw [if_neg hlt, if_neg hlt]
    exact dif_neg (by decide : (2 ^ 52 : ℕ) ≠ 0)

/-! ## Overflow -/

/-- Half a place above the largest number, which is `(2 ^ 53 - 1) * 2 ^ 971`. From here on numbers
are rounded to infinity. -/
def overflow : ℚ :=
  (2 ^ 53 - 1 / 2) * 2 ^ (971 : ℤ)

/-- The exponent after a carry can be stored as long as the value is below that bound. -/
theorem Rounded.exponent_le_iff (h : Rounded v r t) :
    (if r < 2 ^ 53 then t else t + 1) ≤ 971 ↔ v < overflow := by
  have hpos : (0 : ℚ) < 2 ^ (971 : ℤ) := by positivity
  rw [overflow]
  rcases lt_trichotomy t 971 with ht | rfl | ht
  · refine iff_of_true (by split <;> omega) ?_
    have hlt := h.lt
    have hdouble := two_mul_two_zpow_le ht
    generalize (2 : ℚ) ^ (971 : ℤ) = top at *
    linarith
  · -- in the last places it is rounding that decides
    have hcarry : (if r < 2 ^ 53 then (971 : ℤ) else 971 + 1) ≤ 971 ↔ r < 2 ^ 53 := by
      split <;> rename_i hr
      · exact iff_of_true (le_refl _) hr
      · exact iff_of_false (by decide) hr
    rw [hcarry, h.rounds.lt_iff (by decide), div_lt_iff₀ hpos, Nat.cast_pow, Nat.cast_ofNat]
  · refine iff_of_false (by split <;> omega) (not_lt.2 ?_)
    have hfilled := h.filled.resolve_right (by omega)
    have hdouble := two_mul_two_zpow_le ht
    generalize (2 : ℚ) ^ (971 : ℤ) = top at *
    linarith

/-- A rounded value is stored as it is, or is infinite if it is too large. -/
theorem Rounded.unpack_pack (h : Rounded v r t) (s : Sign) :
    (pack (carried s r t)).unpack = if v < overflow then carried s r t else .infinity s := by
  have hlow := h.low
  simp only [← h.exponent_le_iff, carried]
  by_cases hr : r < 2 ^ 53
  · simp only [if_pos hr]
    by_cases hzero : r = 0
    · have ht : t = -1074 := h.filled_significand.resolve_left (by omega)
      rw [dif_pos hzero, if_pos (by omega), unpack_pack_zero]
    · rw [dif_neg hzero]
      split
      · rename_i hhigh
        exact unpack_pack_canonical s
          ⟨Nat.pos_of_ne_zero hzero, hr, hlow, hhigh, h.filled_significand⟩
      · exact unpack_pack_infinity (by omega)
  · simp only [if_neg hr]
    split
    · rename_i hhigh
      exact unpack_pack_canonical s ⟨by decide, by decide, by omega, hhigh, .inl (le_refl _)⟩
    · exact unpack_pack_infinity (by omega)

/-! ## The nearest number -/

/-- No finite number is nearer to `v`, and if another one is as near, then this one has the even
significand. -/
structure Nearest (v : ℚ) (x : Float) : Prop where
  finite : x.isFinite = true
  le : ∀ y : Float, y.isFinite = true → |value x - v| ≤ |value y - v|
  even : ∀ y : Float, y.isFinite = true → value y ≠ value x →
    |value y - v| = |value x - v| → significand x % 2 = 0

theorem abs_mul_two_zpow_sub (a v : ℚ) (t : ℤ) : |a * 2 ^ t - v| = |a - v / 2 ^ t| * 2 ^ t := by
  have hpos : (0 : ℚ) < 2 ^ t := by positivity
  rw [← abs_of_pos hpos, ← abs_mul, abs_of_pos hpos, sub_mul, div_mul_cancel₀ _ hpos.ne']

/-- What is too small for the grid is further away than a point of the grid. -/
theorem Rounded.lt_of_lt (h : Rounded v r t) (ht : t ≠ -1074) {w : ℚ} (hw : w < 2 ^ 52 * 2 ^ t) :
    |r * 2 ^ t - v| < |w - v| := by
  have hfilled := h.filled.resolve_right ht
  have hpoint := h.rounds.le (2 ^ 52)
  rw [← mul_le_mul_iff_left₀ (a := (2 : ℚ) ^ t) (by positivity), ← abs_mul_two_zpow_sub,
    ← abs_mul_two_zpow_sub] at hpoint
  refine lt_of_le_of_lt hpoint ?_
  push_cast
  rw [abs_sub_comm, abs_sub_comm w, abs_of_nonneg, abs_of_pos] <;> linarith

/-- **Rounding gives the nearest number.** -/
theorem Rounded.nearest {x : Float} (h : Rounded v r t) (hx : x.isFinite = true)
    (hvalue : value x = r * 2 ^ t) (heven : r % 2 = 0 → significand x % 2 = 0) : Nearest v x := by
  have hpos : (0 : ℚ) < 2 ^ t := by positivity
  refine ⟨hx, fun y hy ↦ ?_, fun y hy hne heq ↦ heven ?_⟩ <;> rw [hvalue] at *
  · rcases exists_multiple_or_lt hy t with ⟨k, hk⟩ | ⟨ht, hlt⟩
    · rw [hk, abs_mul_two_zpow_sub, abs_mul_two_zpow_sub]
      exact mul_le_mul_of_nonneg_right (h.rounds.le k) hpos.le
    · exact (h.lt_of_lt ht hlt).le
  · rcases exists_multiple_or_lt hy t with ⟨k, hk⟩ | ⟨ht, hlt⟩
    · rw [hk, abs_mul_two_zpow_sub, abs_mul_two_zpow_sub] at heq
      refine h.rounds.even_of_eq (k := k) ?_ (mul_right_cancel₀ hpos.ne' heq)
      rintro rfl
      exact hne (by rw [hk, Int.cast_natCast])
    · exact absurd heq (h.lt_of_lt ht hlt).ne'

theorem Rounded.nearest_of_unpack {x : Float} (h : Rounded v r t)
    (hx : x.toModel.unpack = carried .positive r t) : Nearest v x := by
  rw [carried] at hx
  by_cases hr : r < 2 ^ 53
  · rw [if_pos hr] at hx
    by_cases hzero : r = 0
    · rw [dif_pos hzero] at hx
      refine h.nearest (isFinite_of_unpack hx rfl) ?_ fun _ ↦ by rw [significand_of_zero hx]
      rw [value_of_zero hx, hzero, Nat.cast_zero, zero_mul]
    · rw [dif_neg hzero] at hx
      refine h.nearest (isFinite_of_unpack hx rfl) ?_ fun heven ↦ by rwa [significand_of_unpack hx]
      rw [value_of_unpack hx, Sign.apply, Int.cast_natCast]
  · -- the carry leaves a power of two
    have hcarry : r = 2 ^ 53 := le_antisymm h.le (not_lt.1 hr)
    rw [if_neg hr] at hx
    refine h.nearest (isFinite_of_unpack hx rfl) ?_ fun _ ↦ by
      rw [significand_of_unpack hx]
      decide
    rw [value_of_unpack hx, hcarry, Sign.apply, zpow_add_one₀ two_ne_zero]
    push_cast
    ring

/-- The number is what `v` has to be rounded to: the nearest one, or infinity if `v` is too
large. -/
structure RoundsTo (v : ℚ) (x : Float) : Prop where
  nearest : |v| < overflow → Nearest v x
  infinite : overflow ≤ |v| → x.isInf = true

theorem Rounded.roundsTo (h : Rounded v r t) :
    RoundsTo v (.ofModel (pack (carried .positive r t))) := by
  have hunpack := h.unpack_pack .positive
  rw [← abs_of_nonneg h.nonneg] at hunpack
  constructor
  · intro hlt
    rw [if_pos hlt] at hunpack
    exact h.nearest_of_unpack hunpack
  · intro hge
    rw [if_neg (not_lt.2 hge)] at hunpack
    change (pack (carried .positive r t)).unpack.isInf = true
    rw [hunpack]
    rfl

theorem abs_value_neg_sub (x : Float) (v : ℚ) : |value (-x) - v| = |value x - -v| := by
  rw [value_neg, ← abs_neg, neg_sub, sub_neg_eq_add, sub_neg_eq_add, add_comm]

theorem Nearest.neg {x : Float} (h : Nearest v x) : Nearest (-v) (-x) := by
  have hdistance := abs_value_neg_sub x (-v)
  rw [neg_neg] at hdistance
  refine ⟨by rw [isFinite_neg, h.finite], fun y hy ↦ ?_, fun y hy hne heq ↦ ?_⟩
  · rw [hdistance, ← abs_value_neg_sub]
    exact h.le (-y) (by rw [isFinite_neg, hy])
  · rw [significand_neg]
    refine h.even (-y) (by rw [isFinite_neg, hy]) ?_ (by rw [abs_value_neg_sub, heq, hdistance])
    rw [value_neg] at hne ⊢
    exact fun hvalue ↦ hne (neg_eq_iff_eq_neg.1 hvalue)

theorem RoundsTo.neg {x : Float} (h : RoundsTo v x) : RoundsTo (-v) (-x) := by
  constructor <;> rw [abs_neg]
  · exact fun hlt ↦ (h.nearest hlt).neg
  · rw [isInf_neg]
    exact h.infinite

/-! ## Products and quotients -/

theorem roundsTo_of_locates {acc : Accuracy}
    (h : Locates (.ofMantissaAndAccuracy m acc) (v / 2 ^ e))
    (he : e ≤ Format.binary64.targetExponent (totalExponent m e)) :
    RoundsTo v (.ofModel (pack (roundWithAccuracy Format.binary64 .positive m e acc))) := by
  rw [roundWithAccuracy_eq_carried .positive (rounded_of_locates h he)]
  exact (rounded_of_locates h he).roundsTo

theorem roundsTo_mul {k l : ℕ} {i j : ℤ} {hk : 0 < k} {hl : 0 < l} (hplaces : 2 ^ 52 ≤ k * l) :
    RoundsTo (k * 2 ^ i * (l * 2 ^ j)) (.ofModel (pack (UnpackedFloat.mul Format.binary64
      (.finite .positive k i hk) (.finite .positive l j hl)))) := by
  refine roundsTo_of_locates ?_ ?_
  · have hproduct : (k : ℚ) * 2 ^ i * (l * 2 ^ j) / 2 ^ (i + j) = (k * l : ℕ) := by
      rw [zpow_add₀ two_ne_zero]
      push_cast
      field_simp
    rw [hproduct]
    exact locates_exact _
  · have := (Nat.le_log2 (Nat.mul_pos hk hl).ne').2 hplaces
    rw [targetExponent_eq]
    omega

/-- The dividend is moved up so far that the quotient fills the significand. -/
theorem two_pow_le_div {k l n : ℕ} (hk : k ≠ 0) (hl : 0 < l) (hn : 53 + l.log2 ≤ k.log2 + n) :
    2 ^ 52 ≤ k * 2 ^ n / l := by
  rw [Nat.le_div_iff_mul_le hl]
  calc 2 ^ 52 * l ≤ 2 ^ 52 * 2 ^ (l.log2 + 1) := Nat.mul_le_mul_left _ Nat.lt_log2_self.le
    _ = 2 ^ (53 + l.log2) := by rw [← pow_add]; congr 1; omega
    _ ≤ 2 ^ (k.log2 + n) := Nat.pow_le_pow_right two_pos hn
    _ = 2 ^ k.log2 * 2 ^ n := pow_add _ _ _
    _ ≤ k * 2 ^ n := Nat.mul_le_mul_right _ (Nat.log2_self_le hk)

theorem roundsTo_div {k l : ℕ} {i j : ℤ} {hk : 0 < k} {hl : 0 < l} :
    RoundsTo (k * 2 ^ i / (l * 2 ^ j)) (.ofModel (pack (UnpackedFloat.div Format.binary64
      (.finite .positive k i hk) (.finite .positive l j hl)))) := by
  set T := min (i - j)
    (Format.binary64.targetExponent (totalExponent k i - totalExponent l j)) with hT
  obtain ⟨n, hn⟩ : ∃ n : ℕ, (n : ℤ) = i - j - T := ⟨_, Int.toNat_of_nonneg (by omega)⟩
  have hcore : divCore Format.binary64 k i l j =
      (k * 2 ^ n / l, T, accuracyOfFraction (k * 2 ^ n % l) l) := by
    rw [divCore, ← hT, ← hn, Int.toNat_natCast, Nat.shiftLeft_eq]
  rw [UnpackedFloat.div, hcore]
  refine roundsTo_of_locates ?_ ?_
  · have hquotient : (k : ℚ) * 2 ^ i / (l * 2 ^ j) / 2 ^ T = (k * 2 ^ n : ℕ) / l := by
      rw [show i = n + j + T by omega, zpow_add₀ two_ne_zero, zpow_add₀ two_ne_zero, zpow_natCast]
      push_cast
      field_simp
    rw [hquotient]
    exact locates_div _ hl
  · rw [targetExponent_eq]
    by_cases hlow : T ≤ -1074
    · omega
    · have hfilled : 2 ^ 52 ≤ k * 2 ^ n / l := by
        refine two_pow_le_div hk.ne' hl ?_
        simp only [Format.targetExponent, totalExponent, Format.mantissaBits, Format.minExponent]
          at hT
        omega
      have := (Nat.le_log2 (by omega)).2 hfilled
      omega

theorem roundsTo_zero (hnonneg : 0 ≤ v) (hlt : v < 2 ^ (-1075 : ℤ)) :
    RoundsTo v (.ofModel (pack (.zero .positive))) := by
  have hdouble := two_mul_two_zpow_le (show (-1075 : ℤ) < -1074 by decide)
  have hpos : (0 : ℚ) < 2 ^ (-1074 : ℤ) := by positivity
  have hhalf : v / 2 ^ (-1074 : ℤ) < 1 / 2 := by
    rw [div_lt_iff₀ hpos]
    linarith
  have hrounded : Rounded v 0 (-1074) := by
    refine ⟨hnonneg, le_refl _, by linarith, .inr rfl, rounds_of_lt ?_⟩
    rwa [Nat.cast_zero, zero_sub, abs_neg, abs_of_nonneg (by positivity)]
  exact hrounded.roundsTo

theorem roundsTo_infinity (h : overflow ≤ v) : RoundsTo v (.ofModel (pack (.infinity .positive))) :=
  ⟨fun hlt ↦ absurd (h.trans (le_abs_self v)) (not_le.2 hlt), fun _ ↦ rfl⟩

end StackScript.Number
