import StackScript.Proofs.NumberOrder
import StackScript.Value.Comparison

/-!
# Laws of comparisons

A value that reads as a number has the place of that number, `Value.place`. Less and greater are
told by the places alone, `Value.less_iff`. Equality goes with the places as far as both values have
one, with one exception: two strings are equal only if they are the same, even if both of them read
as one number, `Value.Rivals`.
-/

namespace StackScript.Value

variable {u v w : Value}

/-! ## Places -/

/-- The value reads as a number, which is not the value that is not a number. -/
def Readable (v : Value) : Prop :=
  ∃ n, v.number? = some n ∧ n.isNaN = false

/-- Different strings that read as equal numbers. -/
def Rivals (v w : Value) : Prop :=
  ∃ s t m n, v = .string s ∧ w = .string t ∧ s ≠ t ∧ Number.read? s = some m ∧
    Number.read? t = some n ∧ (m == n) = true

/-- Where the value stands in order. -/
def place (v : Value) : Option ℚ :=
  v.number?.bind Number.place

theorem exists_place_iff : (∃ p, v.place = some p) ↔ v.Readable := by
  simp only [place, Option.bind_eq_some_iff, Readable]
  rw [exists_comm]
  refine exists_congr fun n ↦ ?_
  rw [exists_and_left, ← Option.isSome_iff_exists, ← Option.ne_none_iff_isSome, ne_eq,
    Number.place_eq_none_iff, Bool.not_eq_true]

theorem isArray_of_some {n : Float} (hv : v.number? = some n) : v.isArray = false := by
  cases v with
  | array es => cases hv
  | number m | string s | boolean b => rfl

/-- Arrays are set apart, but they would have no reading anyway. -/
theorem readings?_eq_some_iff {m n : Float} :
    readings? v w = some (m, n) ↔ v.number? = some m ∧ w.number? = some n := by
  by_cases harray : (v.isArray || w.isArray) = true
  · rw [readings?, if_pos harray]
    refine iff_of_false (Option.some_ne_none _).symm ?_
    rintro ⟨hv, hw⟩
    rw [isArray_of_some hv, isArray_of_some hw] at harray
    cases harray
  · rw [readings?, if_neg harray]
    simp [Option.bind_eq_some_iff]

theorem less_iff_readings : v.less w = true ↔
    ∃ m n, v.number? = some m ∧ w.number? = some n ∧ m < n := by
  simp only [← and_assoc, ← readings?_eq_some_iff, less]
  split
  · rename_i hread
    simp [hread]
  · rename_i hnone
    simp [hnone]

theorem readings?_comm (v w : Value) : readings? w v = (readings? v w).map Prod.swap := by
  rw [readings?, readings?, Bool.or_comm]
  split
  · rfl
  · cases v.number? <;> cases w.number? <;> rfl

/-- **Less and greater mirror each other.** -/
theorem greater_eq_less (v w : Value) : v.greater w = w.less v := by
  rw [greater, less, readings?_comm v w]
  cases readings? v w <;> rfl

theorem less_iff : v.less w = true ↔ ∃ p q, v.place = some p ∧ w.place = some q ∧ p < q := by
  simp only [less_iff_readings, Number.lt_iff, place, Option.bind_eq_some_iff]
  constructor
  · rintro ⟨m, n, hm, hn, p, q, hp, hq, hlt⟩
    exact ⟨p, q, ⟨m, hm, hp⟩, ⟨n, hn, hq⟩, hlt⟩
  · rintro ⟨p, q, ⟨m, hm, hp⟩, ⟨n, hn, hq⟩, hlt⟩
    exact ⟨m, n, hm, hn, p, q, hp, hq, hlt⟩

/-! ## Equality -/

theorem equals_comm (v w : Value) : v.equals w = w.equals v := by
  cases v <;> cases w
  case number.number | string.string | boolean.boolean | array.array => exact BEq.comm
  all_goals rfl

theorem equals_self_iff (v : Value) :
    v.equals v = true ↔ ∀ n, v = .number n → n.isNaN = false := by
  cases v with
  | number n =>
    have hself : (n == n) = true ↔ n.isNaN = false := by
      rw [Number.beq_iff_place, exists_congr fun p ↦ and_self_iff, ← Option.isSome_iff_exists,
        ← Option.ne_none_iff_isSome, ne_eq, Number.place_eq_none_iff, Bool.not_eq_true]
    exact hself.trans ⟨fun h m hm ↦ number.inj hm ▸ h, fun h ↦ h n rfl⟩
  | string s => exact iff_of_true (beq_self_eq_true s) fun n hn ↦ by cases hn
  | boolean b => exact iff_of_true (beq_self_eq_true b) fun n hn ↦ by cases hn
  | array es => exact iff_of_true (beq_self_eq_true _) fun n hn ↦ by cases hn

theorem less_iff_of_places {p q : ℚ} (hv : v.place = some p) (hw : w.place = some q) :
    v.less w = true ↔ p < q := by
  rw [less_iff, hv, hw]
  simp

theorem Rivals.exists_place (h : Rivals v w) : ∃ p, v.place = some p ∧ w.place = some p := by
  obtain ⟨s, t, m, n, rfl, rfl, -, hm, hn, heq⟩ := h
  obtain ⟨p, hp, hq⟩ := (Number.beq_iff_place m n).1 heq
  exact ⟨p, Option.bind_eq_some_iff.2 ⟨m, hm, hp⟩, Option.bind_eq_some_iff.2 ⟨n, hn, hq⟩⟩

theorem Rivals.strings (h : Rivals v w) : ∃ s t, v = .string s ∧ w = .string t ∧ s ≠ t := by
  obtain ⟨s, t, m, n, hv, hw, hne, -⟩ := h
  exact ⟨s, t, hv, hw, hne⟩

theorem equals_of_number? {n : Float} (x : Float) (hn : w.number? = some n) :
    (Value.number x).equals w = (x == n) := by
  cases w with
  | boolean | array => cases hn
  | number y =>
    obtain rfl := Option.some.inj hn
    rfl
  | string t =>
    change (Number.read? t).any (· == x) = _
    rw [show Number.read? t = some n from hn, BEq.comm (a := x)]
    rfl

/-- Values are equal if they stand at one place and are not rivals. -/
theorem equals_iff_of_places {p q : ℚ} (hv : v.place = some p) (hw : w.place = some q) :
    v.equals w = true ↔ p = q ∧ ¬Rivals v w := by
  obtain ⟨m, hm, hp⟩ := Option.bind_eq_some_iff.1 hv
  obtain ⟨n, hn, hq⟩ := Option.bind_eq_some_iff.1 hw
  rw [← Number.beq_iff_of_places hp hq]
  cases v with
  | boolean | array => cases hm
  | number x =>
    obtain rfl := Option.some.inj hm
    rw [equals_of_number? x hn, and_iff_left]
    intro hrivals
    obtain ⟨s, t, h, -⟩ := hrivals.strings
    cases h
  | string s =>
    cases w with
    | boolean | array => cases hn
    | number y =>
      obtain rfl := Option.some.inj hn
      rw [equals_comm, equals_of_number? y hm, BEq.comm, and_iff_left]
      intro hrivals
      obtain ⟨s, t, -, h, -⟩ := hrivals.strings
      cases h
    | string t =>
      -- two strings are compared unread, so those that only read alike are rivals
      change (s == t) = true ↔ _
      rw [beq_iff_eq]
      constructor
      · rintro rfl
        obtain rfl := Option.some.inj (hm.symm.trans hn)
        refine ⟨(Number.beq_iff_place m m).2 ⟨p, hp, hp⟩, fun hrivals ↦ ?_⟩
        obtain ⟨s', t', hs, ht, hne⟩ := hrivals.strings
        exact hne ((string.inj hs).symm.trans (string.inj ht))
      · rintro ⟨heq, hrivals⟩
        by_contra hne
        exact hrivals ⟨s, t, m, n, rfl, rfl, hne, hm, hn, heq⟩

/-! ## The laws -/

theorem less_eq_false (h : ¬(v.Readable ∧ w.Readable)) : v.less w = false := by
  rw [Bool.eq_false_iff, ne_eq, less_iff]
  rintro ⟨p, q, hp, hq, -⟩
  exact h ⟨exists_place_iff.1 ⟨p, hp⟩, exists_place_iff.1 ⟨q, hq⟩⟩

theorem greater_eq_false (h : ¬(v.Readable ∧ w.Readable)) : v.greater w = false := by
  rw [greater_eq_less]
  exact less_eq_false fun h' ↦ h h'.symm

theorem less_trans (huv : u.less v = true) (hvw : v.less w = true) : u.less w = true := by
  obtain ⟨p, q, hp, hq, hpq⟩ := less_iff.1 huv
  obtain ⟨q', r, hq', hr, hqr⟩ := less_iff.1 hvw
  obtain rfl := Option.some.inj (hq.symm.trans hq')
  exact less_iff.2 ⟨p, r, hp, hr, hpq.trans hqr⟩

theorem Rivals.compare_eq_false (h : Rivals v w) {c : Comparison} (hc : c ≠ .notEqual) :
    compare c v w = false := by
  obtain ⟨p, hv, hw⟩ := h.exists_place
  have hless : v.less w = false := by
    rw [Bool.eq_false_iff, ne_eq, less_iff_of_places hv hw]
    exact lt_irrefl p
  have hgreater : v.greater w = false := by
    rw [greater_eq_less, Bool.eq_false_iff, ne_eq, less_iff_of_places hw hv]
    exact lt_irrefl p
  have hequal : v.equals w = false := by
    rw [Bool.eq_false_iff, ne_eq, equals_iff_of_places hv hw]
    exact fun h' ↦ h'.2 h
  cases c with
  | notEqual => exact absurd rfl hc
  | equal => exact hequal
  | lessThan => exact hless
  | greaterThan => exact hgreater
  | lessThanOrEqual => rw [compare, hless, hequal]; rfl
  | greaterThanOrEqual => rw [compare, hgreater, hequal]; rfl

/-- Which of less, equal and greater hold. -/
def holding (v w : Value) : List Comparison :=
  [.lessThan, .equal, .greaterThan].filter (compare · v w)

theorem holding_of_rivals (h : Rivals v w) : holding v w = [] := by
  refine List.filter_eq_nil_iff.2 fun c hc ↦ ?_
  rw [h.compare_eq_false (by rintro rfl; revert hc; decide)]
  exact Bool.false_ne_true

theorem exists_holding_eq (hv : v.Readable) (hw : w.Readable) (hrivals : ¬Rivals v w) :
    ∃ c, holding v w = [c] := by
  obtain ⟨p, hp⟩ := exists_place_iff.2 hv
  obtain ⟨q, hq⟩ := exists_place_iff.2 hw
  have hless : v.less w = decide (p < q) :=
    Bool.eq_iff_iff.2 ((less_iff_of_places hp hq).trans decide_eq_true_iff.symm)
  have hequal : v.equals w = decide (p = q) := by
    rw [Bool.eq_iff_iff, equals_iff_of_places hp hq, and_iff_left hrivals, decide_eq_true_iff]
  have hgreater : v.greater w = decide (q < p) := by
    rw [greater_eq_less, Bool.eq_iff_iff, less_iff_of_places hq hp, decide_eq_true_iff]
  rcases lt_trichotomy p q with h | h | h
  · exact ⟨.lessThan, by simp [holding, compare, hless, hequal, hgreater, h, h.ne, h.le]⟩
  · exact ⟨.equal, by simp [holding, compare, hless, hequal, hgreater, h]⟩
  · exact ⟨.greaterThan, by simp [holding, compare, hless, hequal, hgreater, h, h.ne', h.le]⟩

theorem length_holding_le (v w : Value) : (holding v w).length ≤ 1 := by
  by_cases hreadable : v.Readable ∧ w.Readable
  · by_cases hrivals : Rivals v w
    · rw [holding_of_rivals hrivals]
      exact Nat.zero_le 1
    · obtain ⟨c, hc⟩ := exists_holding_eq hreadable.1 hreadable.2 hrivals
      rw [hc]
      rfl
  · have hless := less_eq_false hreadable
    have hgreater := greater_eq_false hreadable
    cases hequal : v.equals w <;> simp [holding, compare, hless, hgreater, hequal]

/-- **Laws of comparisons.** Less, equal and greater exclude one another, and they are exhaustive on
values that read as numbers, if it were not for rivals. Other values may be equal, but they are not
less or greater than any. -/
theorem comparison_laws (v w : Value) :
    compare .equal v w = compare .equal w v ∧
    compare .lessThan v w = compare .greaterThan w v ∧
    compare .lessThanOrEqual v w = compare .greaterThanOrEqual w v ∧
    (compare .equal v v = true ↔ ∀ n, v = .number n → n.isNaN = false) ∧
    (holding v w).length ≤ 1 ∧
    (v.Readable → w.Readable → ¬Rivals v w → ∃ c, holding v w = [c]) ∧
    (Rivals v w → ∀ c, c ≠ .notEqual → compare c v w = false) ∧
    (¬(v.Readable ∧ w.Readable) →
      compare .lessThan v w = false ∧ compare .greaterThan v w = false ∧
      compare .lessThanOrEqual v w = compare .equal v w ∧
      compare .greaterThanOrEqual v w = compare .equal v w) ∧
    ∀ u, compare .lessThan u v = true → compare .lessThan v w = true →
      compare .lessThan u w = true := by
  refine ⟨equals_comm v w, (greater_eq_less w v).symm, ?_, equals_self_iff v,
    length_holding_le v w, exists_holding_eq, fun h c ↦ h.compare_eq_false, fun h ↦ ?_,
    fun u ↦ less_trans⟩
  · rw [compare, compare, equals_comm, greater_eq_less]
  · have hless := less_eq_false h
    have hgreater := greater_eq_false h
    refine ⟨hless, hgreater, ?_, ?_⟩
    · rw [compare, compare, hless, Bool.false_or]
    · rw [compare, compare, hgreater, Bool.false_or]

theorem rivals_one : Rivals (.string "1") (.string "1.0") := by
  have hone : (Number.read? "1").any (· == 1) = true := by decide +kernel
  have hpoint : (Number.read? "1.0").any (· == 1) = true := by decide +kernel
  obtain ⟨m, hm, hm1⟩ := (Option.any_eq_true _ _).1 hone
  obtain ⟨n, hn, hn1⟩ := (Option.any_eq_true _ _).1 hpoint
  exact ⟨"1", "1.0", m, n, rfl, rfl, by decide, hm, hn, PartialEquivBEq.trans hm1 (BEq.symm hn1)⟩

/-- Two ways to write one number, two numbers, a boolean and a number, and three numbers. -/
theorem comparison_laws_one :
    (Rivals (.string "1") (.string "1.0") ∧
      ∀ c, c ≠ .notEqual → compare c (.string "1") (.string "1.0") = false) ∧
    (∃ c, holding (.number 1) (.number 2) = [c]) ∧
    compare .lessThanOrEqual (.boolean true) (.number 1) =
      compare .equal (.boolean true) (.number 1) ∧
    compare .lessThan (.number 0) (.number 2) = true := by
  have hone : (Value.number 1).Readable := ⟨1, rfl, by decide⟩
  have htwo : (Value.number 2).Readable := ⟨2, rfl, by decide⟩
  have hnumbers : ¬Rivals (.number 1) (.number 2) := by
    intro hrivals
    obtain ⟨s, t, h, -⟩ := hrivals.strings
    cases h
  have hboolean : ¬((Value.boolean true).Readable ∧ (Value.number 1).Readable) := by
    rintro ⟨⟨n, hn, -⟩, -⟩
    cases hn
  obtain ⟨-, -, -, -, -, -, hstrings, -, -⟩ := comparison_laws (.string "1") (.string "1.0")
  obtain ⟨-, -, -, -, -, htotal, -, -, htrans⟩ := comparison_laws (.number 1) (.number 2)
  obtain ⟨-, -, -, -, -, -, -, hunread, -⟩ := comparison_laws (.boolean true) (.number 1)
  obtain ⟨-, -, hequal, -⟩ := hunread hboolean
  exact ⟨⟨rivals_one, hstrings rivals_one⟩, htotal hone htwo hnumbers, hequal,
    htrans (.number 0) (by decide) (by decide)⟩

end StackScript.Value
