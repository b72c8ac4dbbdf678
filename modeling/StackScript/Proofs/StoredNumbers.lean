import StackScript.Proofs.WholeNumbers

/-!
# Numbers as they are stored

A finite binary number is `m * 2 ^ e`, and its significand is filled unless the exponent is the
least, `Number.Canonical`. So the value settles both of them, and two numbers of one value are the
same unless they are zeros, `Number.eq_of_value_eq`.

The multiples of `2 ^ t` are a grid on which all numbers lie but those that are too small for it,
`Number.exists_multiple_or_lt`. That is all that rounding has to know about the numbers that it does
not arrive at.
-/

namespace StackScript.Number

open Float.Model Float.Model.UnpackedFloat

/-! ## Stored numbers -/

/-- The significand and the exponent of a number as it is stored: the significand is filled unless
the exponent is the least. -/
structure Canonical (m : ℕ) (e : ℤ) : Prop where
  pos : 0 < m
  lt : m < 2 ^ 53
  low : -1074 ≤ e
  high : e ≤ 971
  filled : 2 ^ 52 ≤ m ∨ e = -1074

variable {m : ℕ} {e : ℤ}

/-- Neither of the two reserved patterns stands for the exponent, and the leading bit is there
without being stored. -/
theorem canonical_of_components {b : BitVec 11} (f : BitVec 52) (hall : b ≠ -1#11)
    (hnone : b ≠ 0#11) :
    Canonical (1#1 ++ f).toNat (b.toNat - (Format.binary64.exponentBias + 52)) := by
  have hlow : 2 ^ 52 ≤ (1#1 ++ f).toNat := by
    rw [BitVec.toNat_append, ← Nat.shiftLeft_add_eq_or_of_lt f.isLt]
    exact Nat.le_add_right _ _
  have hb : b.toNat ≠ 0 := fun h ↦ hnone (BitVec.eq_of_toNat_eq h)
  have hb' : b.toNat ≠ 2047 := fun h ↦ hall (BitVec.eq_of_toNat_eq h)
  have hlt := b.isLt
  refine ⟨Nat.lt_of_lt_of_le (Nat.two_pow_pos 52) hlow, (1#1 ++ f).isLt, ?_, ?_, .inl hlow⟩ <;>
    simp only [Format.exponentBias] <;> omega

/-- What is unpacked was stored. -/
theorem canonical_of_unpack {x : Float} {s : Sign} {hm : 0 < m}
    (h : x.toModel.unpack = .finite s m e hm) : Canonical m e := by
  revert h
  change UnpackedFloat.unpack Format.binary64 _ = _ → _
  rw [UnpackedFloat.unpack]
  dsimp only
  split
  · split <;> intro h <;> cases h
  rename_i hspecial
  split
  · rename_i hzero
    split
    · intro h
      cases h
    · intro h
      cases h
      rw [hzero]
      exact ⟨hm, Nat.lt_trans (BitVec.isLt _) (by decide), by decide, by decide, .inr rfl⟩
  · rename_i hnormal
    intro h
    cases h
    exact canonical_of_components _ hspecial hnormal

/-- Packing loses nothing of a number as it is stored. -/
theorem unpack_pack_canonical (s : Sign) (h : Canonical m e) :
    (pack (.finite s m e h.pos)).unpack = .finite s m e h.pos := by
  by_cases hfilled : 2 ^ 52 ≤ m
  · exact unpack_pack_finite h.pos hfilled h.lt h.low h.high
  obtain rfl : e = -1074 := h.filled.resolve_left hfilled
  have hlog : m.log2 + 1 ≠ Format.binary64.mantissaBits := by
    have := (Nat.log2_lt (Nat.ne_of_gt h.pos)).2 (Nat.not_le.1 hfilled)
    simp only [Format.mantissaBits]
    omega
  have hstored : (BitVec.ofNat 52 m).toNat = m := by
    rw [BitVec.toNat_ofNat, Nat.mod_eq_of_lt (Nat.not_le.1 hfilled)]
  have hne : BitVec.ofNat 52 m ≠ 0#52 := by
    intro h0
    rw [h0] at hstored
    exact Nat.ne_of_lt h.pos hstored
  have hpack : UnpackedFloat.pack Format.binary64 (.finite s m (-1074) h.pos) =
      packComponents Format.binary64 s 0#11 (BitVec.ofNat 52 m) := by
    simp only [UnpackedFloat.pack]
    rw [if_neg (by decide), if_neg hlog]
  change UnpackedFloat.unpack Format.binary64 (UnpackedFloat.pack Format.binary64 _) = _
  rw [hpack, UnpackedFloat.unpack]
  simp only [unpackMantissa_packComponents, unpackExponent_packComponents,
    unpackSign_packComponents, Sign.ofBitVec_toBitVec]
  rw [if_neg (by decide), if_pos trivial, dif_neg hne]
  congr 1

/-- Packing makes an infinity of a number whose exponent is too large. -/
theorem unpack_pack_infinity {s : Sign} {hm : 0 < m} (he : 971 < e) :
    (pack (.finite s m e hm)).unpack = .infinity s := by
  have hbiased : 2 ^ 11 ≤ (e + Format.binary64.exponentBias + (52 : ℕ)).toNat + 1 := by
    simp only [Format.exponentBias]
    omega
  have hpack : UnpackedFloat.pack Format.binary64 (.finite s m e hm) =
      packedInfinity Format.binary64 s := if_pos hbiased
  change UnpackedFloat.unpack Format.binary64 (UnpackedFloat.pack Format.binary64 _) = _
  rw [hpack]
  cases s <;> rfl

theorem eq_of_unpack_eq {x y : Float} (h : x.toModel.unpack = y.toModel.unpack) : x = y :=
  Float.toBits_inj.1 (UInt64.toBitVec_inj.1
    ((unpack_inj_of_valid x.toModel.valid y.toModel.valid).1 h))

theorem isFinite_of_unpack {x : Float} {u : UnpackedFloat} (hx : x.toModel.unpack = u)
    (hu : u.isFinite = true) : x.isFinite = true := by
  change x.toModel.unpack.isFinite = true
  rw [hx, hu]

/-! ## Values -/

/-- The value of a finite number; anything else counts as zero. -/
def value (x : Float) : ℚ :=
  match x.toModel.unpack with
  | .finite s m e _ => (s.apply m : ℤ) * 2 ^ e
  | _ => 0

def significand (x : Float) : ℕ :=
  match x.toModel.unpack with
  | .finite _ m _ _ => m
  | _ => 0

section

variable {x y : Float} {s : Sign} {hm : 0 < m}

theorem value_of_unpack (h : x.toModel.unpack = .finite s m e hm) :
    value x = (s.apply m : ℤ) * 2 ^ e := by
  rw [value, h]

theorem value_of_zero (h : x.toModel.unpack = .zero s) : value x = 0 := by
  rw [value, h]

theorem significand_of_unpack (h : x.toModel.unpack = .finite s m e hm) : significand x = m := by
  rw [significand, h]

theorem significand_of_zero (h : x.toModel.unpack = .zero s) : significand x = 0 := by
  rw [significand, h]

theorem abs_apply (s : Sign) (m : ℕ) : |((s.apply m : ℤ) : ℚ)| = m := by
  cases s with
  | positive => exact abs_of_nonneg (Nat.cast_nonneg m)
  | negative =>
    rw [Sign.apply, Int.cast_neg, abs_neg]
    exact abs_of_nonneg (Nat.cast_nonneg m)

theorem unpack_of_isFinite (hx : x.isFinite = true) : (∃ s, x.toModel.unpack = .zero s) ∨
    ∃ s m e hm, x.toModel.unpack = .finite s m e hm := by
  change x.toModel.unpack.isFinite = true at hx
  cases hunpack : x.toModel.unpack with
  | notANumber | infinity =>
    rw [hunpack] at hx
    cases hx
  | zero s => exact .inl ⟨s, rfl⟩
  | finite s m e hm => exact .inr ⟨s, m, e, hm, rfl⟩

end

theorem two_mul_two_zpow_le {i j : ℤ} (h : i < j) : (2 : ℚ) * 2 ^ i ≤ 2 ^ j := by
  rw [mul_comm, ← zpow_add_one₀ two_ne_zero]
  exact zpow_le_zpow_right₀ one_le_two h

/-- A number is below the filled significands of every larger exponent. -/
theorem Canonical.value_lt (h : Canonical m e) {t : ℤ} (ht : e < t) :
    (m : ℚ) * 2 ^ e < 2 ^ 52 * 2 ^ t := by
  have hm : (m : ℚ) < 2 ^ 53 := by exact_mod_cast h.lt
  have hdouble := two_mul_two_zpow_le ht
  calc (m : ℚ) * 2 ^ e < 2 ^ 53 * 2 ^ e := by gcongr
    _ = 2 ^ 52 * (2 * 2 ^ e) := by ring
    _ ≤ 2 ^ 52 * 2 ^ t := by gcongr

/-- Numbers lie on every grid, except for those that are too small for it. -/
theorem exists_multiple_or_lt {x : Float} (hx : x.isFinite = true) (t : ℤ) :
    (∃ k : ℤ, value x = k * 2 ^ t) ∨ (t ≠ -1074 ∧ value x < 2 ^ 52 * 2 ^ t) := by
  obtain ⟨s, hunpack⟩ | ⟨s, m, e, hm, hunpack⟩ := unpack_of_isFinite hx
  · exact .inl ⟨0, by rw [value_of_zero hunpack, Int.cast_zero, zero_mul]⟩
  have hcanonical := canonical_of_unpack hunpack
  rw [value_of_unpack hunpack]
  by_cases hte : t ≤ e
  · obtain ⟨n, rfl⟩ : ∃ n : ℕ, e = n + t := ⟨(e - t).toNat, by omega⟩
    refine .inl ⟨s.apply m * 2 ^ n, ?_⟩
    rw [zpow_add₀ two_ne_zero, zpow_natCast]
    push_cast
    ring
  · have hlow := hcanonical.low
    refine .inr ⟨by omega, lt_of_le_of_lt ?_ (hcanonical.value_lt (not_le.1 hte))⟩
    gcongr
    exact (le_abs_self _).trans (abs_apply s m).le

/-- The exponent decides first, as a significand is filled unless the exponent is the least. -/
theorem Canonical.value_lt_of_lt {m' : ℕ} {e' : ℤ} (h : Canonical m e) (h' : Canonical m' e')
    (he : e < e') : (m : ℚ) * 2 ^ e < m' * 2 ^ e' := by
  have hlow := h.low
  have hfilled : (2 : ℚ) ^ 52 ≤ m' := by exact_mod_cast h'.filled.resolve_right (by omega)
  calc (m : ℚ) * 2 ^ e < 2 ^ 52 * 2 ^ e' := h.value_lt he
    _ ≤ m' * 2 ^ e' := by gcongr

theorem Canonical.exponent_le {m' : ℕ} {e' : ℤ} (h : Canonical m e) (h' : Canonical m' e')
    (hvalue : (m : ℚ) * 2 ^ e = m' * 2 ^ e') : e' ≤ e :=
  not_lt.1 fun hlt ↦ (h.value_lt_of_lt h' hlt).ne hvalue

theorem Canonical.eq_of_value_eq {m' : ℕ} {e' : ℤ} (h : Canonical m e) (h' : Canonical m' e')
    (hvalue : (m : ℚ) * 2 ^ e = m' * 2 ^ e') : m = m' ∧ e = e' := by
  obtain rfl : e = e' := le_antisymm (h'.exponent_le h hvalue.symm) (h.exponent_le h' hvalue)
  exact ⟨by exact_mod_cast mul_right_cancel₀ (by positivity) hvalue, rfl⟩

/-- A value other than zero is that of one number only. -/
theorem eq_of_value_eq {x y : Float} (hx : x.isFinite = true) (hy : y.isFinite = true)
    (hvalue : value x = value y) (hne : value y ≠ 0) : x = y := by
  obtain ⟨s, hxs⟩ | ⟨s, m, e, hm, hxs⟩ := unpack_of_isFinite hx
  · exact absurd (hvalue.symm.trans (value_of_zero hxs)) hne
  obtain ⟨t, hyt⟩ | ⟨t, k, i, hk, hyt⟩ := unpack_of_isFinite hy
  · exact absurd (value_of_zero hyt) hne
  rw [value_of_unpack hxs, value_of_unpack hyt] at hvalue
  have habs := congrArg (fun v : ℚ ↦ |v|) hvalue
  rw [abs_mul, abs_mul, abs_apply, abs_apply, abs_of_pos (by positivity : (0 : ℚ) < 2 ^ e),
    abs_of_pos (by positivity : (0 : ℚ) < 2 ^ i)] at habs
  obtain ⟨rfl, rfl⟩ := (canonical_of_unpack hxs).eq_of_value_eq (canonical_of_unpack hyt) habs
  have hsign : s.apply m = t.apply m := by exact_mod_cast mul_right_cancel₀ (by positivity) hvalue
  have hst : s = t := by
    cases s <;> cases t <;> simp only [Sign.apply] at hsign <;> first | rfl | omega
  exact eq_of_unpack_eq (by rw [hxs, hyt, hst])

/-! ## The other sign -/

theorem apply_neg (s : Sign) (n : ℤ) : (-s).apply n = -s.apply n := by
  cases s with
  | positive => rfl
  | negative => exact (neg_neg n).symm

theorem unpack_neg (x : Float) : (-x).toModel.unpack = x.toModel.unpack.neg := by
  change (pack x.toModel.unpack.neg).unpack = _
  cases hunpack : x.toModel.unpack with
  | notANumber => rfl
  | infinity s => cases s <;> rfl
  | zero s => exact unpack_pack_zero _
  | finite s m e hm => exact unpack_pack_canonical _ (canonical_of_unpack hunpack)

theorem isFinite_neg (x : Float) : (-x).isFinite = x.isFinite := by
  change (-x).toModel.unpack.isFinite = x.toModel.unpack.isFinite
  rw [unpack_neg]
  cases x.toModel.unpack <;> rfl

theorem isInf_neg (x : Float) : (-x).isInf = x.isInf := by
  change (-x).toModel.unpack.isInf = x.toModel.unpack.isInf
  rw [unpack_neg]
  cases x.toModel.unpack <;> rfl

theorem significand_neg (x : Float) : significand (-x) = significand x := by
  rw [significand, significand, unpack_neg]
  cases x.toModel.unpack <;> rfl

theorem value_neg (x : Float) : value (-x) = -value x := by
  rw [value, value, unpack_neg]
  cases x.toModel.unpack with
  | notANumber | infinity | zero => exact neg_zero.symm
  | finite s m e hm =>
    change (((-s).apply m : ℤ) : ℚ) * 2 ^ e = -(((s.apply m : ℤ) : ℚ) * 2 ^ e)
    rw [apply_neg, Int.cast_neg, neg_mul]

end StackScript.Number
