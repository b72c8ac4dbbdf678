import StackScript.Proofs.NumberOrder

/-!
# The text of whole numbers

The shortest decimal that reads as a whole number is that number without its trailing zeros: on
every grid of tens the neighbour below reads back only if nothing is cut off, and the one above is
too far away, since all whole numbers up to `2 ^ 53` are nearer to themselves. The layout puts the
zeros back, so that a style that writes the number in full gives its decimal digits,
`Style.text_ofWhole`.
-/

namespace StackScript

/-! ## The places of whole numbers -/

namespace Number

open Float.Model Float.Model.UnpackedFloat

theorem place_ofNat {k : ℕ} (hlt : k < 2 ^ 53) : place (Float.ofNat k) = some (k : ℚ) := by
  rw [ofNat_eq_ofWhole hlt]
  by_cases hk : k = 0
  · have hzero : (ofWhole .positive k).toModel.unpack = .zero .positive := by
      rw [unpack_ofWhole _ hlt, hk, whole_zero]
    rw [place_of_isFinite (isFinite_of_unpack hzero rfl), value_of_zero hzero, hk, Nat.cast_zero]
  · obtain ⟨m, e, hm, hunpack, -, hvalue⟩ := filled_toFloat hk hlt
    rw [toFloat_toUInt64 hlt] at hunpack
    rw [place_of_isFinite (isFinite_of_unpack hunpack rfl), (value_of_positive hunpack).1, hvalue]

/-- The last whole number before the gaps is a number as well. -/
theorem exists_value_eq {k : ℕ} (hle : k ≤ 2 ^ 53) :
    ∃ x : Float, x.isFinite = true ∧ value x = k := by
  rcases Nat.lt_or_eq_of_le hle with hlt | rfl
  · have hunpack := unpack_ofWhole .positive hlt
    have hfinite : (ofWhole .positive k).isFinite = true := by
      refine isFinite_of_unpack hunpack ?_
      rw [whole]
      split <;> rfl
    have hplace := place_ofNat hlt
    rw [ofNat_eq_ofWhole hlt, place_of_isFinite hfinite] at hplace
    exact ⟨_, hfinite, Option.some.inj hplace⟩
  · have hcanonical : Canonical (2 ^ 52) 1 :=
      ⟨by decide, by decide, by decide, by decide, .inl (le_refl _)⟩
    have hunpack := unpack_pack_canonical .positive hcanonical
    refine ⟨.ofModel (pack (.finite .positive (2 ^ 52) 1 hcanonical.pos)),
      isFinite_of_unpack hunpack rfl, (value_of_positive hunpack).1.trans ?_⟩
    norm_num

/-- Only the infinities stand where numbers have become too large. -/
theorem isFinite_of_place {x : Float} {p : ℚ} (h : place x = some p) (hp : |p| < overflow) :
    x.isFinite = true := by
  rcases place_cases x with ⟨-, hx⟩ | ⟨-, hx⟩ | ⟨-, hx⟩ | hx
  · simp [hx] at h
  · obtain rfl := Option.some.inj (hx.symm.trans h)
    rw [abs_neg, abs_of_pos overflow_pos] at hp
    exact absurd hp (lt_irrefl _)
  · obtain rfl := Option.some.inj (hx.symm.trans h)
    rw [abs_of_pos overflow_pos] at hp
    exact absurd hp (lt_irrefl _)
  · exact hx

theorem RoundsTo.nearest_of_isFinite {v : ℚ} {x : Float} (h : RoundsTo v x)
    (hx : x.isFinite = true) : Nearest v x := by
  refine h.nearest (not_le.1 fun hle ↦ ?_)
  have hinf := h.infinite hle
  change x.toModel.unpack.isInf = true at hinf
  obtain ⟨s, hunpack⟩ | ⟨s, m, e, hm, hunpack⟩ := unpack_of_isFinite hx <;>
    simp [hunpack, UnpackedFloat.isInf] at hinf

end Number

/-! ## Decimals that are whole numbers -/

namespace Decimal

open Number in
/-- A decimal that lies beyond the next whole number does not read as this one. -/
theorem toFloat_beq_ofNat_of_le {d : Decimal} {k : ℕ} (hlt : k < 2 ^ 53)
    (h : ((k + 1 : ℕ) : ℚ) ≤ d.value) : (d.toFloat == Float.ofNat k) = false := by
  rw [Bool.eq_false_iff, ne_eq, beq_iff_place, place_ofNat hlt]
  rintro ⟨p, hd, hp⟩
  obtain rfl := Option.some.inj hp
  have hsmall : |(k : ℚ)| < overflow := by
    obtain ⟨x, hx, hvalue⟩ := exists_value_eq hlt.le
    rw [← hvalue]
    exact abs_value_lt_overflow hx
  have hfinite := isFinite_of_place hd hsmall
  rw [place_of_isFinite hfinite, Option.some_inj] at hd
  -- the next whole number is nearer
  obtain ⟨y, hy, hvalue⟩ := exists_value_eq (Nat.succ_le_of_lt hlt)
  have hle := (d.roundsTo.nearest_of_isFinite hfinite).le y hy
  rw [hd, hvalue, abs_sub_comm, abs_sub_comm _ d.value, abs_of_nonneg, abs_of_nonneg] at hle <;>
    push_cast at * <;> linarith


/-- Moving zeros into the exponent keeps the number. -/
theorem trim_natural (c e : ℕ) : ∃ c' e' : ℕ,
    trim ⟨c, e⟩ = ⟨c', e'⟩ ∧ c' * 10 ^ e' = c * 10 ^ e := by
  induction c using Nat.strongRecOn generalizing e with
  | ind c ih =>
    rw [trim]
    by_cases h : c ≠ 0 ∧ c % 10 = 0
    · obtain ⟨c', e', htrim, hvalue⟩ := ih (c / 10) (by omega) (e + 1)
      refine ⟨c', e', ?_, ?_⟩
      · rw [dif_pos h]
        exact htrim
      · rw [hvalue, Nat.pow_succ, Nat.mul_comm _ 10, ← Nat.mul_assoc,
          Nat.div_mul_cancel (Nat.dvd_of_mod_eq_zero h.2)]
    · exact ⟨c, e, dif_neg h, rfl⟩

theorem le_of_mul_pow_lt {c e : ℕ} (hc : c ≠ 0) (h : c * 10 ^ e < 2 ^ 53) : e ≤ 15 := by
  refine Nat.not_lt.1 fun he ↦ ?_
  have hpow : 10 ^ 16 ≤ 10 ^ e := Nat.pow_le_pow_right (by decide) he
  have hle : 10 ^ e ≤ c * 10 ^ e := Nat.le_mul_of_pos_left _ (Nat.pos_of_ne_zero hc)
  omega

/-- A decimal with no places behind its point reads as the natural number it writes. -/
theorem toFloat_eq_ofNat {c e : ℕ} (hc : c ≠ 0) (h : c * 10 ^ e < 2 ^ 53) :
    (⟨c, e⟩ : Decimal).toFloat = Float.ofNat (c * 10 ^ e) := by
  obtain ⟨c', e', htrim, hvalue⟩ := trim_natural c e
  rw [← hvalue] at h ⊢
  have hc' : c' ≠ 0 := by
    rintro rfl
    rw [Nat.zero_mul] at hvalue
    exact Nat.ne_of_lt (Nat.mul_pos (Nat.pos_of_ne_zero hc) (Nat.pow_pos (by decide))) hvalue
  have hlt : c' < 2 ^ 53 :=
    Nat.lt_of_le_of_lt (Nat.le_mul_of_pos_right _ (Nat.pow_pos (by decide))) h
  rw [toFloat, htrim]
  exact Number.ofScientific_eq_ofNat hlt (le_of_mul_pow_lt hc' h) h

end Decimal

/-! ## The search for the shortest digits -/

namespace Shortest

open Number

variable {k : ℕ}

theorem fraction_mul_lift (k : ℕ) :
    fraction (k * 2 ^ lift k) (-lift k) = (k * 2 ^ lift k, 2 ^ lift k) := by
  by_cases h : lift k = 0
  · rw [h]
    rfl
  · rw [fraction, if_neg (by omega), Int.neg_neg, Int.toNat_natCast, Nat.one_shiftLeft]

theorem leading_mul_lift (hk : k ≠ 0) :
    leading (k * 2 ^ lift k) (2 ^ lift k) = (Nat.toDigits 10 k).length - 1 := by
  rw [leading, if_pos (Nat.le_mul_of_pos_left _ (Nat.pos_of_ne_zero hk)),
    Nat.mul_div_cancel _ (Nat.two_pow_pos _)]

theorem pow_length_sub_one_le (hk : k ≠ 0) : 10 ^ ((Nat.toDigits 10 k).length - 1) ≤ k := by
  by_cases h : (Nat.toDigits 10 k).length - 1 = 0
  · rw [h]
    omega
  · refine Nat.not_lt.1 fun hlt ↦ ?_
    have := (Nat.length_toDigits_le_iff (by decide) (Nat.pos_of_ne_zero h)).2 hlt
    omega

theorem scaled_mul_lift (k q : ℕ) :
    scaled (k * 2 ^ lift k) (2 ^ lift k) q = (k * 2 ^ lift k, 2 ^ lift k * 10 ^ q) := by
  rw [scaled, if_pos (Int.natCast_nonneg q)]
  rfl

/-- On a grid of tens the number is found if it lies on it. -/
theorem onGrid_mul_lift (tie : Tie) {q : ℕ} (hq : 10 ^ q ≤ k) (hlt : k < 2 ^ 53) :
    onGrid tie (Float.ofNat k) (k * 2 ^ lift k) (2 ^ lift k) q =
      if 10 ^ q ∣ k then some ⟨k / 10 ^ q, q⟩ else none := by
  have hpow : 0 < 10 ^ q := Nat.pow_pos (by decide)
  have hquotient : k * 2 ^ lift k / (2 ^ lift k * 10 ^ q) = k / 10 ^ q := by
    rw [Nat.mul_comm k, Nat.mul_div_mul_left _ _ (Nat.two_pow_pos _)]
  have hne : k / 10 ^ q ≠ 0 := Nat.ne_of_gt (Nat.div_pos hq hpow)
  have hdiv := Nat.div_mul_le_self k (10 ^ q)
  have hsucc : (k / 10 ^ q + 1) * 10 ^ q = k / 10 ^ q * 10 ^ q + 10 ^ q := Nat.succ_mul _ _
  have hmod := Nat.div_add_mod' k (10 ^ q)
  have hmodlt := Nat.mod_lt k hpow
  have hbelow : ((⟨k / 10 ^ q, q⟩ : Decimal).toFloat == Float.ofNat k) = true ↔ 10 ^ q ∣ k := by
    rw [Decimal.toFloat_eq_ofNat hne (by omega), ofNat_beq_ofNat (by omega) (by omega),
      Nat.dvd_iff_div_mul_eq]
  have habove : ((⟨k / 10 ^ q + 1, q⟩ : Decimal).toFloat == Float.ofNat k) = false := by
    refine Decimal.toFloat_beq_ofNat_of_le hlt ?_
    rw [Decimal.value, zpow_natCast]
    have hlarger : k + 1 ≤ (k / 10 ^ q + 1) * 10 ^ q := by omega
    exact_mod_cast hlarger
  rw [onGrid, scaled_mul_lift]
  dsimp only
  rw [hquotient, habove]
  by_cases h : 10 ^ q ∣ k
  · rw [hbelow.2 h, if_pos h]
  · rw [Bool.eq_false_iff.2 (mt hbelow.1 h), if_neg h]

/-- The search ends on a grid on which the number lies, at the latest on that of the ones. -/
theorem findSome?_onGrid (tie : Tie) {top : ℕ} (htop : 10 ^ top ≤ k) (hlt : k < 2 ^ 53) :
    ∃ q : ℕ, 10 ^ q ∣ k ∧ ((List.range 17).findSome? fun n : ℕ ↦ onGrid tie (Float.ofNat k)
      (k * 2 ^ lift k) (2 ^ lift k) (top - n)) = some ⟨k / 10 ^ q, q⟩ := by
  have hgrid : ∀ n ≤ top, onGrid tie (Float.ofNat k) (k * 2 ^ lift k) (2 ^ lift k)
      ((top : ℤ) - n) =
        if 10 ^ (top - n) ∣ k then some ⟨k / 10 ^ (top - n), (top - n : ℕ)⟩ else none := by
    intro n hn
    have hle : 10 ^ (top - n) ≤ k :=
      Nat.le_trans (Nat.pow_le_pow_right (by decide) (Nat.sub_le top n)) htop
    rw [← Int.ofNat_sub hn]
    exact onGrid_mul_lift tie hle hlt
  have hsmall : top + 1 ≤ 17 := by
    have := Decimal.le_of_mul_pow_lt (c := 1) (e := top) (by decide) (by omega)
    omega
  obtain ⟨rest, hrest⟩ := Nat.exists_eq_add_of_le hsmall
  rw [hrest, List.range_add, List.findSome?_append]
  cases hfirst : (List.range (top + 1)).findSome? fun n : ℕ ↦ onGrid tie (Float.ofNat k)
      (k * 2 ^ lift k) (2 ^ lift k) ((top : ℤ) - n) with
  | none =>
    -- impossible, since every whole number lies on the grid of the ones
    have hones := List.findSome?_eq_none_iff.1 hfirst top List.self_mem_range_succ
    rw [hgrid top (Nat.le_refl _), Nat.sub_self, Nat.pow_zero, if_pos (Nat.one_dvd k)] at hones
    cases hones
  | some d =>
    obtain ⟨n, hn, hd⟩ := List.exists_of_findSome?_eq_some hfirst
    rw [hgrid n (Nat.le_of_lt_succ (List.mem_range.1 hn))] at hd
    by_cases hdvd : 10 ^ (top - n) ∣ k
    · rw [if_pos hdvd] at hd
      exact ⟨top - n, hdvd, by rw [← hd]; rfl⟩
    · rw [if_neg hdvd] at hd
      cases hd

end Shortest

open Number in
/-- The shortest decimal that reads as a whole number has no places behind its point. -/
theorem shortest_ofNat (tie : Tie) {k : ℕ} (hk : k ≠ 0) (hlt : k < 2 ^ 53) : ∃ c e : ℕ,
    shortest tie (Float.ofNat k) (k * 2 ^ lift k) (-lift k) = ⟨c, e⟩ ∧ c * 10 ^ e = k := by
  obtain ⟨top, htop⟩ : ∃ top, (Nat.toDigits 10 k).length = top + 1 :=
    ⟨_, (Nat.succ_pred_eq_of_pos Nat.length_toDigits_pos).symm⟩
  have hpow : 10 ^ top ≤ k := by
    have := Shortest.pow_length_sub_one_le hk
    rwa [htop] at this
  have hleading : ((top + 1 : ℕ) : ℤ) - 1 = top := by omega
  obtain ⟨q, hdvd, hfound⟩ := Shortest.findSome?_onGrid tie hpow hlt
  obtain ⟨c, e, htrim, hvalue⟩ := Decimal.trim_natural (k / 10 ^ q) q
  refine ⟨c, e, ?_, by rw [hvalue, Nat.div_mul_cancel hdvd]⟩
  rw [shortest, Shortest.fraction_mul_lift]
  dsimp only
  rw [Shortest.leading_mul_lift hk, htop, hleading, hfound]
  exact htrim

/-! ## The layout -/

theorem toDigits_mul_pow {c : ℕ} (hc : c ≠ 0) (e : ℕ) :
    Nat.toDigits 10 (c * 10 ^ e) = Nat.toDigits 10 c ++ List.replicate e '0' := by
  induction e with
  | zero => rw [Nat.pow_zero, Nat.mul_one, List.replicate_zero, List.append_nil]
  | succ e ih =>
    have hpos : 0 < c * 10 ^ e := Nat.mul_pos (Nat.pos_of_ne_zero hc) (Nat.pow_pos (by decide))
    have hstep := Nat.toDigits_append_toDigits (b := 10) (n := c * 10 ^ e) (d := 0) (by decide)
      hpos (by decide)
    have hpow : c * 10 ^ (e + 1) = 10 * (c * 10 ^ e) + 0 := by
      rw [Nat.pow_succ, Nat.add_zero, Nat.mul_comm 10, Nat.mul_assoc]
    rw [hpow, ← hstep, ih, List.replicate_succ', List.append_assoc, Nat.toDigits_zero]

namespace Style

open Number Float.Model.UnpackedFloat

/-- A whole number that is written in full shows its decimal digits. -/
theorem layout_natural {style : Style} {c e : ℕ} (hc : c ≠ 0)
    (hplain : style.plain ((Nat.toDigits 10 (c * 10 ^ e)).length - 1)) :
    style.layout ⟨c, e⟩ =
      Nat.toDigits 10 (c * 10 ^ e) ++ if style.keepsPoint then ['.', '0'] else [] := by
  have hlength : 0 < (Nat.toDigits 10 c).length := Nat.length_toDigits_pos
  have hleading : Decimal.leading ⟨c, e⟩ = (Nat.toDigits 10 (c * 10 ^ e)).length - 1 := by
    rw [toDigits_mul_pow hc, List.length_append, List.length_replicate, Decimal.leading,
      Decimal.digits]
    dsimp only
    omega
  have hwhole : ((Nat.toDigits 10 (c * 10 ^ e)).length : ℤ) - 1 + 1 =
      ((Nat.toDigits 10 c).length + e : ℕ) := by
    rw [toDigits_mul_pow hc, List.length_append, List.length_replicate]
    omega
  rw [layout, hleading, if_pos hplain, positional, hwhole, Decimal.digits]
  dsimp only
  rw [if_neg (by omega), if_neg (by omega), Int.toNat_natCast, Nat.add_sub_cancel_left,
    toDigits_mul_pow hc]

/-- A whole number that is written in full shows its sign and its decimal digits. -/
theorem text_ofWhole (style : Style) (s : Sign) {k : ℕ} (hk : k ≠ 0) (hlt : k < 2 ^ 53)
    (hplain : style.plain ((Nat.toDigits 10 k).length - 1)) :
    (style.text (ofWhole s k)).toList = signed (s == .negative)
      (Nat.toDigits 10 k ++ if style.keepsPoint then ['.', '0'] else []) := by
  obtain ⟨c, e, hshortest, hvalue⟩ := shortest_ofNat style.tie hk hlt
  have hc : c ≠ 0 := by
    rintro rfl
    rw [Nat.zero_mul] at hvalue
    exact hk hvalue.symm
  rw [text, unpack_ofWhole _ hlt, whole_of_ne_zero hk]
  dsimp only
  rw [abs_ofWhole _ hlt, hshortest, layout_natural hc (by rwa [hvalue]), hvalue,
    String.toList_ofList]

end Style

/-- **Two ways to write a whole number.** As a number it has the text that it has as a natural. -/
theorem Number.text_ofNat {k : ℕ} (hlt : k < 2 ^ 53) : text (Float.ofNat k) = toString k := by
  rw [ofNat_eq_ofWhole hlt]
  by_cases hk : k = 0
  · have hzero : (ofWhole .positive k).toModel.unpack = .zero .positive := by
      rw [unpack_ofWhole _ hlt, hk, whole_zero]
    rw [text_of_zero hzero, hk]
    rfl
  · have hlength : (Nat.toDigits 10 k).length ≤ 16 :=
      (Nat.length_toDigits_le_iff (by decide) (by decide)).2 (by omega)
    have hplain : style.plain ((Nat.toDigits 10 k).length - 1) = true := by
      simp only [style, decide_eq_true_eq]
      omega
    refine String.toList_inj.1 ((style.text_ofWhole .positive hk hlt hplain).trans ?_)
    rw [Nat.toString_eq_ofList_toDigits, String.toList_ofList]
    exact List.append_nil _

end StackScript
