import StackScript.Number.Text
import StackScript.Proofs.Numerals

/-!
# The text of a number gives the number back

The digits of a finite number read as that number, `shortest_reads`: those that the search finds
were tried, and those that it falls back on are exact. The layout only moves the point about, so
that a numeral read from it has the same decimal, `Style.readsAs_layout`. Hence two numbers have one
text exactly if they are equal or both of them are no numbers, `Number.text_eq_text_iff`.
-/

namespace StackScript

open Float.Model Float.Model.UnpackedFloat

/-! ## Equality of numbers -/

namespace Number

theorem sign_compare_eq_iff (s t : Sign) : compare s t = .eq ↔ s = t := by
  cases s <;> cases t <;> simp [compare]

/-- Numbers are equal if they are unpacked alike, except that one value is not equal to itself and
zero has two signs. -/
theorem compare_eq_iff (a b : UnpackedFloat) : a.compare b = some .eq ↔
    (a = b ∧ a ≠ .notANumber) ∨ ((∃ s, a = .zero s) ∧ ∃ s, b = .zero s) := by
  fun_cases UnpackedFloat.compare a b <;>
    simp [sign_compare_eq_iff, Ordering.then_eq_eq, Ordering.swap_eq_eq, and_comm]
  -- what is left are infinities against numbers that are none
  · rename_i _ hb
    exact fun h ↦ hb _ h.symm
  · rename_i _ hb
    exact fun h ↦ hb _ h.symm
  · rename_i _ ha
    exact fun _ h ↦ ha _ h
  · rename_i _ ha
    exact fun _ h ↦ ha _ h

theorem beq_iff (x y : Float) : (x == y) = true ↔
    (x.toModel.unpack = y.toModel.unpack ∧ x.toModel.unpack ≠ .notANumber) ∨
      ((∃ s, x.toModel.unpack = .zero s) ∧ ∃ s, y.toModel.unpack = .zero s) := by
  rw [← compare_eq_iff, ← beq_iff_eq (α := Option Ordering)]
  rfl

/-- Numbers that equal a third one are equal. -/
theorem beq_of_beq_of_beq {x y z : Float} (hy : (x == y) = true) (hz : (x == z) = true) :
    (y == z) = true := by
  rw [beq_iff] at hy hz ⊢
  rcases hy with ⟨hxy, hne⟩ | ⟨hx, hy⟩
  · rwa [← hxy]
  · rcases hz with ⟨hxz, -⟩ | ⟨-, hz⟩
    · exact .inr ⟨hy, hxz ▸ hx⟩
    · exact .inr ⟨hy, hz⟩

end Number

/-! ## Decimals -/

namespace Decimal

theorem trim_trim (d : Decimal) : d.trim.trim = d.trim := by
  fun_induction trim d with
  | case1 d h ih => exact ih
  | case2 d h => rw [trim, dif_neg h]

/-- Zeros in the coefficient and powers of ten in the exponent come to the same. -/
theorem trim_mul_pow {c : ℕ} (hc : c ≠ 0) (k : ℕ) (q : ℤ) :
    trim ⟨c * 10 ^ k, q⟩ = trim ⟨c, q + k⟩ := by
  induction k generalizing q with
  | zero => rw [pow_zero, mul_one, Nat.cast_zero, add_zero]
  | succ k ih =>
    have hstep : c * 10 ^ (k + 1) = c * 10 ^ k * 10 := by rw [pow_succ, mul_assoc]
    have hne : c * 10 ^ k * 10 ≠ 0 := by positivity
    rw [trim, dif_pos ⟨hstep ▸ hne, hstep ▸ Nat.mul_mod_left _ _⟩]
    dsimp only
    rw [hstep, Nat.mul_div_cancel _ (by decide), ih]
    congr 2
    push_cast
    ring

/-- What a decimal reads as is settled by its trimmed form. -/
theorem toFloat_eq_of_trim_eq {d d' : Decimal} (h : d.trim = d'.trim) : d.toFloat = d'.toFloat := by
  rw [toFloat, toFloat, h]

end Decimal

/-! ## The shortest digits -/

namespace Shortest

theorem value_exact (m : ℕ) (e : ℤ) : (exact m e).value = m * 2 ^ e := by
  rw [exact, Decimal.value]
  split
  · rename_i h
    obtain ⟨n, rfl⟩ := Int.eq_ofNat_of_zero_le h
    rw [Int.toNat_natCast, Nat.shiftLeft_eq, zpow_zero, zpow_natCast]
    push_cast
    ring
  · obtain ⟨n, rfl⟩ : ∃ n : ℕ, e = -n := ⟨e.natAbs, by omega⟩
    have hten : (10 : ℚ) ^ n = 5 ^ n * 2 ^ n := by rw [← mul_pow]; norm_num
    rw [neg_neg, Int.toNat_natCast, zpow_neg, zpow_neg, zpow_natCast, zpow_natCast, hten]
    change ((m * 5 ^ n : ℕ) : ℚ) * _ = _
    push_cast
    field_simp

theorem nearer_eq (tie : Tie) (rest unit : ℕ) (below above : Decimal) :
    nearer tie rest unit below above = below ∨ nearer tie rest unit below above = above := by
  fun_cases nearer tie rest unit below above with
  | case1 | case4 => exact .inl rfl
  | case2 | case3 | case5 => exact .inr rfl

/-- Only what reads back is taken from a grid. -/
theorem reads_of_onGrid {tie : Tie} {x : Float} {num den : ℕ} {q : ℤ} {d : Decimal}
    (h : onGrid tie x num den q = some d) : (d.toFloat == x) = true := by
  rw [onGrid] at h
  dsimp only at h
  split at h
  · rename_i hbelow habove
    rcases nearer_eq tie ((scaled num den q).1 % (scaled num den q).2) (scaled num den q).2
      ⟨(scaled num den q).1 / (scaled num den q).2, q⟩
      ⟨(scaled num den q).1 / (scaled num den q).2 + 1, q⟩ with hd | hd
    · rw [← Option.some.inj h, hd]
      exact hbelow
    · rw [← Option.some.inj h, hd]
      exact habove
  · rename_i hbelow _
    rw [← Option.some.inj h]
    exact hbelow
  · rename_i _ habove
    rw [← Option.some.inj h]
    exact habove
  · cases h

end Shortest

open Number in
/-- The shortest digits of a positive number read as that number. -/
theorem shortest_reads (tie : Tie) {x : Float} {m : ℕ} {e : ℤ} {hm : 0 < m}
    (hunpack : x.toModel.unpack = .finite .positive m e hm) : (shortest tie x m e).toFloat = x := by
  suffices hreads : ((shortest tie x m e).toFloat == x) = true by
    rcases (beq_iff _ _).1 hreads with ⟨heq, -⟩ | ⟨-, s, hzero⟩
    · exact eq_of_unpack_eq heq
    · rw [hunpack] at hzero
      cases hzero
  rw [shortest]
  dsimp only
  rw [Decimal.toFloat_eq_of_trim_eq (Decimal.trim_trim _)]
  cases hfound : (List.range 17).findSome? fun n : ℕ ↦ Shortest.onGrid tie x
      (Shortest.fraction m e).1 (Shortest.fraction m e).2
      (Shortest.leading (Shortest.fraction m e).1 (Shortest.fraction m e).2 - n) with
  | some d =>
    obtain ⟨n, -, hgrid⟩ := List.exists_of_findSome?_eq_some hfound
    exact Shortest.reads_of_onGrid hgrid
  | none =>
    change ((Shortest.exact m e).toFloat == x) = true
    have hvalue : value x = m * 2 ^ e := by
      rw [value_of_unpack hunpack, Sign.apply, Int.cast_natCast]
    have hpos : (0 : ℚ) < m * 2 ^ e := mul_pos (Nat.cast_pos.2 hm) (by positivity)
    rw [Decimal.toFloat_eq_of_value_eq (isFinite_of_unpack hunpack rfl) (hvalue ▸ hpos.ne')
      ((Shortest.value_exact m e).trans hvalue.symm), beq_iff]
    exact .inl ⟨rfl, fun hnan ↦ by cases hunpack.symm.trans hnan⟩

/-! ## Reading a layout -/

namespace Style

/-- With either sign in front, the text reads as a numeral for the decimal. -/
def ReadsAs (cs : List Char) (d : Decimal) : Prop :=
  ∀ negative, ∃ n, Numeral.ofChars? (signed negative cs) = some n ∧ n.negative = negative ∧
    n.decimal.trim = d.trim

variable {d : Decimal}

theorem isDigit_of_mem_digits (d : Decimal) : ∀ c ∈ d.digits, c.isDigit :=
  fun _ hc ↦ Nat.isDigit_of_mem_toDigits (by decide) (by decide) hc

theorem ofDigitChars_digits (d : Decimal) : Nat.ofDigitChars 10 d.digits 0 = d.coefficient :=
  Nat.ofDigitChars_ten_toDigits

theorem digits_ne_nil (d : Decimal) : d.digits ≠ [] :=
  List.ne_nil_of_length_pos Nat.length_toDigits_pos

open Numeral

theorem exponentText_exponentPart (e : ℤ) : ExponentText (exponentPart e) e := by
  have hdigits : Digits (Nat.toDigits 10 e.natAbs) :=
    fun c hc ↦ Nat.isDigit_of_mem_toDigits (by decide) (by decide) hc
  have hne : Nat.toDigits 10 e.natAbs ≠ [] := List.ne_nil_of_length_pos Nat.length_toDigits_pos
  have hsign : SignText [if e < 0 then '-' else '+'] (e < 0) := by
    by_cases he : e < 0
    · rw [if_pos he, decide_eq_true he]
      exact .minus
    · rw [if_neg he, decide_eq_false he]
      exact .plus
  have hvalue : signedDigits (e < 0) (Nat.toDigits 10 e.natAbs) = e := by
    rw [signedDigits, Nat.ofDigitChars_ten_toDigits]
    split <;> rename_i he <;> rw [decide_eq_true_iff] at he <;> omega
  have hpart := ExponentText.marked (.inl rfl) hsign hdigits hne
  rwa [hvalue] at hpart

theorem signText_signed (negative : Bool) (cs : List Char) :
    ∃ sign, SignText sign negative ∧ signed negative cs = sign ++ cs := by
  cases negative with
  | true => exact ⟨['-'], .minus, rfl⟩
  | false => exact ⟨[], .absent, rfl⟩

theorem readsAs_of_parts {whole point power fraction : List Char} {exponent : ℤ}
    (hwhole : Digits whole) (hne : whole ≠ []) (hpoint : PointText point fraction)
    (hpower : ExponentText power exponent)
    (hdecimal : Decimal.trim ⟨Nat.ofDigitChars 10 (whole ++ fraction) 0,
      exponent - fraction.length⟩ = d.trim) : ReadsAs (whole ++ (point ++ power)) d := by
  intro negative
  obtain ⟨sign, hsign, htext⟩ := signText_signed negative (whole ++ (point ++ power))
  have hwrites := Writes.parts (n := ⟨negative, whole, fraction, exponent⟩) hsign hwhole hpoint
    (List.append_ne_nil_of_left_ne_nil hne _) hpower
  exact ⟨⟨negative, whole, fraction, exponent⟩, htext ▸ ofChars?_eq_some_iff.2 hwrites, rfl,
    hdecimal⟩

/-- Nothing has to be moved between coefficient and exponent unless zeros are written out. -/
theorem readsAs_of_digits {whole point power fraction : List Char} {exponent : ℤ}
    (hwhole : Digits whole) (hne : whole ≠ []) (hpoint : PointText point fraction)
    (hpower : ExponentText power exponent)
    (hvalue : Nat.ofDigitChars 10 (whole ++ fraction) 0 = d.coefficient)
    (hplaces : exponent - fraction.length = d.exponent) : ReadsAs (whole ++ (point ++ power)) d :=
  readsAs_of_parts hwhole hne hpoint hpower (by rw [hvalue, hplaces])

/-- Digits with a point among them and no exponent. -/
theorem readsAs_point {whole fraction : List Char} (hwhole : Digits whole) (hne : whole ≠ [])
    (hfraction : Digits fraction)
    (hvalue : Nat.ofDigitChars 10 (whole ++ fraction) 0 = d.coefficient)
    (hlength : d.exponent = -fraction.length) : ReadsAs (whole ++ '.' :: fraction) d := by
  have hreads := readsAs_of_digits hwhole hne (.point hfraction) .absent hvalue
    (by rw [zero_sub, hlength])
  rwa [List.append_nil] at hreads

/-- Digits in full: the point stands before them, among them or behind them and some zeros. -/
theorem readsAs_positional (d : Decimal) (hzero : d.coefficient = 0 → d.exponent = 0) :
    ReadsAs (positional false d.digits (d.leading + 1)) d := by
  have hleading : d.leading + 1 = d.exponent + d.digits.length := by rw [Decimal.leading]; omega
  have hdigits := isDigit_of_mem_digits d
  have hvalue := ofDigitChars_digits d
  have hzeros : ∀ k, ∀ c ∈ List.replicate k '0', c.isDigit := by
    intro k c hc
    rw [List.eq_of_mem_replicate hc]
    decide
  rw [positional, hleading]
  split
  · change ReadsAs (['0'] ++ '.' :: _) d
    refine readsAs_point (hzeros 1) (List.cons_ne_nil _ _)
      (List.forall_mem_append.2 ⟨hzeros _, hdigits⟩) ?_ ?_
    · rw [Nat.ofDigitChars_append, Nat.ofDigitChars_append, Nat.ofDigitChars_replicate_zero]
      change Nat.ofDigitChars 10 d.digits (_ * 0) = _
      rw [mul_zero, hvalue]
    · rw [List.length_append, List.length_replicate]
      omega
  split
  · refine readsAs_point (fun c hc ↦ hdigits c (List.mem_of_mem_take hc)) ?_
      (fun c hc ↦ hdigits c (List.mem_of_mem_drop hc)) ?_ ?_
    · rw [ne_eq, List.take_eq_nil_iff]
      exact not_or.2 ⟨by omega, digits_ne_nil d⟩
    · rw [List.take_append_drop, hvalue]
    · rw [List.length_drop]
      omega
  · change ReadsAs (d.digits ++ _ ++ ([] ++ [])) d
    refine readsAs_of_parts (List.forall_mem_append.2 ⟨hdigits, hzeros _⟩)
      (List.append_ne_nil_of_left_ne_nil (digits_ne_nil d) _) .absent .absent ?_
    have hexponent : d.exponent = (d.exponent.toNat : ℤ) := by omega
    have hcount : (d.exponent + d.digits.length).toNat - d.digits.length = d.exponent.toNat := by
      omega
    rw [List.append_nil, Nat.ofDigitChars_append, hvalue, Nat.ofDigitChars_replicate_zero, hcount,
      mul_comm]
    -- only zero could hide how many zeros were written
    by_cases hc : d.coefficient = 0
    · rw [hzero hc, Int.toNat_zero, pow_zero, mul_one, ← hzero hc]
      exact congrArg (fun q ↦ Decimal.trim ⟨d.coefficient, q⟩) (by simp [hzero hc])
    · rw [Decimal.trim_mul_pow hc]
      exact congrArg (fun q ↦ Decimal.trim ⟨d.coefficient, q⟩) (by simp; omega)

theorem readsAs_scientific (d : Decimal) : ReadsAs (scientific d.digits d.leading) d := by
  have hdigits := isDigit_of_mem_digits d
  have hvalue := ofDigitChars_digits d
  have hleading : d.leading = d.exponent + d.digits.length - 1 := rfl
  have hpower := exponentText_exponentPart d.leading
  cases hd : d.digits with
  | nil => exact absurd hd (digits_ne_nil d)
  | cons x xs =>
    rw [hd] at hdigits hvalue hleading
    obtain ⟨hx, hxs⟩ := List.forall_mem_cons.1 hdigits
    have hfirst : Digits [x] := List.forall_mem_singleton.2 hx
    cases xs with
    | nil =>
      exact readsAs_of_digits hfirst (List.cons_ne_nil _ _) .absent hpower hvalue
        (by rw [hleading]; simp)
    | cons y ys =>
      exact readsAs_of_digits hfirst (List.cons_ne_nil _ _) (.point hxs) hpower hvalue
        (by rw [hleading]; simp; omega)

/-- **Layouts read back.** Wherever the point goes, the decimal stays the same. -/
theorem readsAs_layout {style : Style} (hstyle : style.keepsPoint = false) (d : Decimal)
    (hzero : d.coefficient = 0 → d.exponent = 0) : ReadsAs (style.layout d) d := by
  rw [layout, hstyle]
  split
  · exact readsAs_positional d hzero
  · exact readsAs_scientific d

theorem layout_ne_nil (style : Style) (d : Decimal) : style.layout d ≠ [] := by
  rw [layout, positional]
  split
  · split
    · exact List.cons_ne_nil _ _
    split
    · exact List.append_ne_nil_of_right_ne_nil _ (List.cons_ne_nil _ _)
    · exact List.append_ne_nil_of_left_ne_nil
        (List.append_ne_nil_of_left_ne_nil (digits_ne_nil d) _) _
  · obtain ⟨x, xs, hd⟩ := List.exists_cons_of_ne_nil (digits_ne_nil d)
    rw [hd]
    cases xs with
    | nil => exact List.cons_ne_nil _ _
    | cons y ys => exact List.cons_ne_nil _ _

theorem signed_ne_nil (negative : Bool) {cs : List Char} (h : cs ≠ []) :
    signed negative cs ≠ [] := by
  cases negative with
  | true => exact List.cons_ne_nil _ _
  | false => exact h

end Style

/-! ## Texts of numbers -/

namespace Number

variable {m n : Float}

theorem abs_eq_ofModel (x : Float) : x.abs = .ofModel (pack x.toModel.unpack.abs) := rfl

theorem unpack_abs {s : Sign} {k : ℕ} {e : ℤ} {hk : 0 < k}
    (h : n.toModel.unpack = .finite s k e hk) : n.abs.toModel.unpack = .finite .positive k e hk := by
  rw [abs_eq_ofModel, h]
  exact unpack_pack_canonical _ (canonical_of_unpack h)

theorem text_of_zero {s : Sign} (h : n.toModel.unpack = .zero s) : text n = "0" := by
  rw [text, Style.text, h]
  cases s <;> rfl

theorem text_of_finite {s : Sign} {k : ℕ} {e : ℤ} {hk : 0 < k}
    (h : n.toModel.unpack = .finite s k e hk) :
    (text n).toList = Style.signed (s == .negative) (style.layout (shortest .up n.abs k e)) := by
  rw [text, Style.text, h]
  exact String.toList_ofList

theorem toFloat_of_coefficient_eq_zero {d : Decimal} (h : d.coefficient = 0) :
    d.toFloat.toModel.unpack = .zero .positive := by
  rw [Decimal.toFloat, Decimal.trim, dif_neg fun hc ↦ hc.1 h, h, ofScientific_zero]
  exact unpack_pack_zero _

theorem coefficient_ne_zero {d : Decimal} {s : Sign} {k : ℕ} {e : ℤ} {hk : 0 < k}
    (h : d.toFloat.toModel.unpack = .finite s k e hk) : d.coefficient ≠ 0 := by
  intro hzero
  cases (toFloat_of_coefficient_eq_zero hzero).symm.trans h

/-- The digits read as the number without its sign, and the sign is put back. -/
theorem ofChars?_text_of_finite {s : Sign} {k : ℕ} {e : ℤ} {hk : 0 < k}
    (hn : n.toModel.unpack = .finite s k e hk) :
    ∃ a, Numeral.ofChars? (text n).toList = some a ∧
      a.toFloat.toModel.unpack = .finite s k e hk := by
  have habs := unpack_abs hn
  have hreads : (shortest .up n.abs k e).toFloat.toModel.unpack = .finite .positive k e hk := by
    rw [shortest_reads .up habs, habs]
  have hlayout : Style.ReadsAs (style.layout (shortest .up n.abs k e)) (shortest .up n.abs k e) :=
    Style.readsAs_layout rfl _ fun h ↦ absurd h (coefficient_ne_zero hreads)
  obtain ⟨a, ha, hsign, htrim⟩ := hlayout (s == .negative)
  refine ⟨a, by rw [text_of_finite hn, ha], ?_⟩
  rw [← Decimal.toFloat_eq_of_trim_eq htrim] at hreads
  rw [Numeral.toFloat, hsign]
  cases s with
  | positive => exact hreads
  | negative =>
    change (-a.decimal.toFloat).toModel.unpack = _
    rw [unpack_neg, hreads]
    rfl

/-- **Texts read back.** The text of a finite number is a numeral for it. -/
theorem ofChars?_text (hfinite : n.isFinite) :
    ∃ a, Numeral.ofChars? (text n).toList = some a ∧ (a.toFloat == n) = true := by
  cases hn : n.toModel.unpack with
  | notANumber | infinity =>
    change n.toModel.unpack.isFinite = true at hfinite
    rw [hn] at hfinite
    cases hfinite
  | zero s =>
    rw [text_of_zero hn]
    refine ⟨⟨false, ['0'], [], 0⟩, by decide, (beq_iff _ _).2 (.inr ⟨⟨.positive, ?_⟩, s, hn⟩)⟩
    exact toFloat_of_coefficient_eq_zero rfl
  | finite s k e hk =>
    obtain ⟨a, ha, hunpack⟩ := ofChars?_text_of_finite hn
    refine ⟨a, ha, (beq_iff _ _).2 (.inl ⟨hunpack.trans hn.symm, ?_⟩)⟩
    rw [hunpack]
    exact UnpackedFloat.noConfusion

theorem isNaN_iff (x : Float) : x.isNaN = true ↔ x.toModel.unpack = .notANumber := by
  change x.toModel.unpack.isNaN = true ↔ _
  cases x.toModel.unpack <;> simp [UnpackedFloat.isNaN]

/-- Equal numbers have one text. -/
theorem text_eq_text_of_unpack_eq (h : m.toModel.unpack = n.toModel.unpack) : text m = text n := by
  rw [text, text, Style.text, Style.text, abs_eq_ofModel, abs_eq_ofModel, h]

/-- What a text stands for that is none of a finite number. -/
def special (t : String) : UnpackedFloat :=
  if t = "NaN" then .notANumber
  else if t = "Infinity" then .infinity .positive
  else .infinity .negative

/-- What is no finite number has a text of its own, which is no numeral. -/
theorem text_of_not_finite (h : ¬n.isFinite) :
    n.toModel.unpack = special (text n) ∧ Numeral.ofChars? (text n).toList = none := by
  rw [text, Style.text]
  change ¬n.toModel.unpack.isFinite = true at h
  cases hn : n.toModel.unpack with
  | notANumber => exact ⟨rfl, show Numeral.ofChars? "NaN".toList = none by decide⟩
  | infinity s =>
    cases s with
    | positive => exact ⟨rfl, show Numeral.ofChars? "Infinity".toList = none by decide⟩
    | negative => exact ⟨rfl, show Numeral.ofChars? "-Infinity".toList = none by decide⟩
  | zero | finite =>
    rw [hn] at h
    exact absurd rfl h

/-- **Texts tell numbers apart.** -/
theorem text_eq_text_iff (m n : Float) :
    text m = text n ↔ (m == n) = true ∨ (m.isNaN = true ∧ n.isNaN = true) := by
  constructor
  · intro h
    by_cases hm : m.isFinite <;> by_cases hn : n.isFinite
    · obtain ⟨a, ha, ham⟩ := ofChars?_text hm
      obtain ⟨b, hb, hbn⟩ := ofChars?_text hn
      rw [h, hb, Option.some.injEq] at ha
      exact .inl (beq_of_beq_of_beq ham (ha ▸ hbn))
    · obtain ⟨a, ha, -⟩ := ofChars?_text hm
      rw [h, (text_of_not_finite hn).2] at ha
      cases ha
    · obtain ⟨a, ha, -⟩ := ofChars?_text hn
      rw [← h, (text_of_not_finite hm).2] at ha
      cases ha
    · have hsame : m.toModel.unpack = n.toModel.unpack := by
        rw [(text_of_not_finite hm).1, (text_of_not_finite hn).1, h]
      by_cases hnan : m.toModel.unpack = .notANumber
      · exact .inr ⟨(isNaN_iff m).2 hnan, (isNaN_iff n).2 (hsame ▸ hnan)⟩
      · exact .inl ((beq_iff m n).2 (.inl ⟨hsame, hnan⟩))
  · rintro (h | ⟨hm, hn⟩)
    · rcases (beq_iff m n).1 h with ⟨hsame, -⟩ | ⟨⟨s, hs⟩, t, ht⟩
      · exact text_eq_text_of_unpack_eq hsame
      · rw [text_of_zero hs, text_of_zero ht]
    · exact text_eq_text_of_unpack_eq (((isNaN_iff m).1 hm).trans ((isNaN_iff n).1 hn).symm)

end Number

end StackScript
