import StackScript.Proofs.NumberOrder

/-!
# The form of number texts

Numbers are written with an exponent if they are too large or too small to be written in full. The
text is laid out by the power of ten of the leading digit, `Decimal.leading`, and this is where the
shortest digits begin, not the number itself: rounded to few digits, a number could pass into the
next power of ten. It does not pass `1e21` or `1e-6`, since these have a single digit and rounding
keeps the order, `Number.lt_iff_leading_lt`. So the form can be told from the number,
`Number.text_of_magnitude`.
-/

namespace StackScript

open Float.Model Float.Model.UnpackedFloat

/-! ## Leading digits -/

namespace Decimal

variable {d : Decimal}

theorem exists_leading_eq (hd : d.coefficient ≠ 0) : ∃ n : ℕ, d.leading = n + d.exponent ∧
    10 ^ n ≤ d.coefficient ∧ d.coefficient < 10 ^ (n + 1) := by
  obtain ⟨n, hn⟩ : ∃ n, d.digits.length = n + 1 :=
    ⟨_, (Nat.succ_pred_eq_of_pos Nat.length_toDigits_pos).symm⟩
  refine ⟨n, by rw [leading, hn]; push_cast; ring, not_lt.1 fun hlt ↦ ?_,
    (Nat.length_toDigits_le_iff (by decide) n.succ_pos).1 hn.le⟩
  rcases Nat.eq_zero_or_pos n with rfl | hpos
  · exact hd (Nat.lt_one_iff.1 hlt)
  · have hshort := (Nat.length_toDigits_le_iff (b := 10) (by decide) hpos).2 hlt
    rw [← digits, hn] at hshort
    omega

/-- A decimal lies between the power of ten of its leading digit and the next one. -/
theorem leading_bounds (hd : d.coefficient ≠ 0) :
    10 ^ d.leading ≤ d.value ∧ d.value < 10 ^ (d.leading + 1) := by
  obtain ⟨n, hleading, hlow, hhigh⟩ := exists_leading_eq hd
  have hpos : (0 : ℚ) < 10 ^ d.exponent := by positivity
  rw [hleading, value]
  constructor
  · rw [zpow_add₀ (by norm_num), zpow_natCast]
    exact mul_le_mul_of_nonneg_right (by exact_mod_cast hlow) hpos.le
  · rw [add_right_comm, zpow_add₀ (by norm_num), ← Nat.cast_succ, zpow_natCast]
    exact mul_lt_mul_of_pos_right (by exact_mod_cast hhigh) hpos

/-- Powers of ten are written in one way, up to zeros. -/
theorem toFloat_of_value_eq_zpow (hd : d.coefficient ≠ 0) (h : d.value = 10 ^ d.leading) :
    d.toFloat = toFloat ⟨1, d.leading⟩ := by
  obtain ⟨n, hleading, -, -⟩ := exists_leading_eq hd
  have hpos : (0 : ℚ) < 10 ^ d.exponent := by positivity
  rw [hleading, value, zpow_add₀ (by norm_num), zpow_natCast] at h
  have hcoefficient : d.coefficient = 1 * 10 ^ n := by
    rw [one_mul]
    exact_mod_cast mul_right_cancel₀ hpos.ne' h
  apply toFloat_eq_of_trim_eq
  rw [hleading, add_comm, ← trim_mul_pow one_ne_zero, ← hcoefficient]

end Decimal

namespace Number

variable {x y c : Float} {m n : ℕ} {e i k : ℤ} {hm : 0 < m} {hn : 0 < n}

/-! ## Magnitudes -/

theorem nearest_value_shortest (tie : Tie) (h : x.toModel.unpack = .finite .positive m e hm) :
    Nearest (shortest tie x m e).value x := by
  have hrounds := (shortest tie x m e).roundsTo
  rw [shortest_reads tie h] at hrounds
  exact hrounds.nearest (hrounds.lt_overflow (isFinite_of_unpack h rfl))

/-- A number is below one that is written with a single `1` exactly if its leading digit has a
smaller power of ten. -/
theorem lt_iff_leading_lt {tie : Tie} (hx : x.toModel.unpack = .finite .positive m e hm)
    (hc : c.toModel.unpack = .finite .positive n i hn)
    (hshortest : shortest tie c n i = ⟨1, k⟩) : x < c ↔ (shortest tie x m e).leading < k := by
  have hnearest := nearest_value_shortest tie hx
  have hcnearest := nearest_value_shortest tie hc
  rw [hshortest, Decimal.value, Nat.cast_one, one_mul] at hcnearest
  have hlt : x < c ↔ value x < value c := by
    simp [lt_iff, place_of_isFinite hnearest.finite, place_of_isFinite hcnearest.finite]
  have hreads := shortest_reads tie hx
  set d := shortest tie x m e with hd
  have hcoefficient : d.coefficient ≠ 0 := coefficient_ne_zero (hreads ▸ hx)
  obtain ⟨hlow, hhigh⟩ := Decimal.leading_bounds hcoefficient
  have hten : (1 : ℚ) < 10 := by norm_num
  rw [hlt, ← not_le, ← not_le, not_iff_not]
  constructor
  · -- digits below the power of ten are rounded to it at most, and it has digits of its own
    intro hle
    by_contra hsmall
    have hbelow : d.value < 10 ^ k :=
      hhigh.trans_le ((zpow_le_zpow_iff_right₀ hten).2 (not_le.1 hsmall))
    have heq : x = c := eq_of_value_eq hnearest.finite hcnearest.finite
      (le_antisymm (hnearest.value_le hcnearest hbelow) hle) (value_of_positive hc).2.ne'
    subst heq
    obtain ⟨-, rfl, rfl⟩ := UnpackedFloat.finite.inj (hx.symm.trans hc)
    rw [hd, hshortest] at hsmall
    exact hsmall (by simp [Decimal.leading, Decimal.digits, Nat.toDigits_of_lt_base])
  · intro hle
    have habove : (10 : ℚ) ^ k ≤ d.value := ((zpow_le_zpow_iff_right₀ hten).2 hle).trans hlow
    rcases habove.eq_or_lt with heq | hlt
    · have hleading : d.leading = k :=
        le_antisymm ((zpow_le_zpow_iff_right₀ hten).1 (hlow.trans heq.ge)) hle
      have hsame := Decimal.toFloat_of_value_eq_zpow hcoefficient (hleading ▸ heq.symm)
      rw [hreads, hleading, ← hshortest, shortest_reads tie hc] at hsame
      rw [hsame]
    · exact hcnearest.value_le hnearest hlt

theorem le_iff_not_lt (hx : x.isFinite = true) (hy : y.isFinite = true) : x ≤ y ↔ ¬y < x := by
  have hle : x ≤ y ↔ (x.toModel.unpack.compare y.toModel.unpack).any Ordering.isLE = true := by
    change decide ((x.toModel.unpack.compare y.toModel.unpack).any Ordering.isLE = true) = true ↔ _
    rw [decide_eq_true_iff]
  rw [hle, compare_of_isFinite hx hy, lt_iff, place_of_isFinite hx, place_of_isFinite hy]
  simp [Ordering.isLE_iff_ne_gt, compare_gt_iff_gt]

theorem unpack_of_eq_ofModel (hx : x = .ofModel (pack (.finite .positive m e hm)))
    (h : Canonical m e) : x.toModel.unpack = .finite .positive m e hm := by
  rw [hx]
  exact unpack_pack_canonical _ h

/-- The exponents from `-6` to `20` are those of the numbers from a millionth on and below `1e21`. -/
theorem plain_leading_iff (h : x.toModel.unpack = .finite .positive m e hm) :
    style.plain (shortest .up x m e).leading = true ↔ ¬(1e21 ≤ x ∨ x < 1e-6) := by
  have hmodel : (1e21 : Float) =
      .ofModel (pack (.finite .positive 7629394531250000 17 (by decide))) := by decide +kernel
  have hmodel' : (1e-6 : Float) =
      .ofModel (pack (.finite .positive 4722366482869645 (-72) (by decide))) := by decide +kernel
  have hupper := unpack_of_eq_ofModel hmodel (by constructor <;> decide)
  have hlower := unpack_of_eq_ofModel hmodel' (by constructor <;> decide)
  have hdigits : shortest .up 1e21 7629394531250000 17 = ⟨1, 21⟩ := by decide +kernel
  have hdigits' : shortest .up 1e-6 4722366482869645 (-72) = ⟨1, -6⟩ := by decide +kernel
  rw [le_iff_not_lt (isFinite_of_unpack hupper rfl) (isFinite_of_unpack h rfl),
    lt_iff_leading_lt h hupper hdigits, lt_iff_leading_lt h hlower hdigits', style,
    decide_eq_true_iff]
  omega

/-- **The magnitude of a number tells the form of its text.** -/
theorem text_of_magnitude {s : Sign} (h : x.toModel.unpack = .finite s m e hm) :
    (text x).toList = Style.signed (s == .negative)
      (if 1e21 ≤ x.abs ∨ x.abs < 1e-6 then
        Style.scientific (shortest .up x.abs m e).digits (shortest .up x.abs m e).leading
      else
        Style.positional false (shortest .up x.abs m e).digits
          ((shortest .up x.abs m e).leading + 1)) := by
  rw [text_of_finite h, Style.layout, if_congr (plain_leading_iff (unpack_abs h)) rfl rfl, ite_not]
  rfl

end Number

end StackScript
