import StackScript.Proofs.Elements
import StackScript.Proofs.NumberText
import StackScript.Value.Comparison

/-!
# Texts stand for their values

The text of a finite number reads as that number, and the text of anything else that is a number
reads as none, `Number.read?_text_of_isFinite` and `Number.read?_text_of_not_isFinite`. So a value
equals the string of its text, with few exceptions, `Value.equals_text_iff`.

Indices count by their texts, `Machine.sameElement_iff`. Hence two numbers lead to one element
exactly if they are equal or both of them are no numbers.
-/

namespace StackScript

open Float.Model Float.Model.UnpackedFloat

namespace Number

open Numeral Text

variable {n : Float}

theorem read?_of_ofChars? {s : String} {a : Numeral} (h : Numeral.ofChars? s.toList = some a)
    (hfinite : a.toFloat.isFinite = true) : read? s = some a.toFloat := by
  have hwrites := ofChars?_eq_some_iff.1 h
  have htrim : trim s.toList = s.toList :=
    trim_eq_self fun c hc ↦ (hwrites.admitted c hc).not_whiteSpace
  exact read?_eq_some_iff.2 ⟨a, htrim.symm ▸ hwrites, (isFinite_toFloat_iff a).1 hfinite, rfl⟩

/-- The number whose text is read: zero has lost its sign. -/
theorem read?_text_of_isFinite (hfinite : n.isFinite = true) :
    read? (text n) = some (if n == 0 then 0 else n) := by
  obtain ⟨s, hn⟩ | ⟨s, k, e, hk, hn⟩ := unpack_of_isFinite hfinite
  · have hzero : (n == 0) = true := (beq_iff n 0).2 (.inr ⟨⟨s, hn⟩, .positive, rfl⟩)
    have hunpack : (Numeral.toFloat ⟨false, ['0'], [], 0⟩).toModel.unpack = .zero .positive :=
      toFloat_of_coefficient_eq_zero rfl
    rw [text_of_zero hn, if_pos hzero,
      read?_of_ofChars? (a := ⟨false, ['0'], [], 0⟩) (by decide) (isFinite_of_unpack hunpack rfl)]
    exact congrArg some (eq_of_unpack_eq hunpack)
  · have hzero : ¬(n == 0) = true := by
      rw [beq_iff, hn]
      rintro (⟨h, -⟩ | ⟨⟨t, h⟩, -⟩)
      · cases h
      · cases h
    obtain ⟨a, ha, hunpack⟩ := ofChars?_text_of_finite hn
    rw [if_neg hzero, read?_of_ofChars? ha (isFinite_of_unpack hunpack rfl)]
    exact congrArg some (eq_of_unpack_eq (hunpack.trans hn.symm))

theorem beq_self_of_isFinite (hfinite : n.isFinite = true) : (n == n) = true := by
  refine (beq_iff n n).2 (.inl ⟨rfl, fun hnan ↦ ?_⟩)
  change n.toModel.unpack.isFinite = true at hfinite
  rw [hnan] at hfinite
  cases hfinite

theorem exists_read?_text (hfinite : n.isFinite = true) : ∃ m, read? (text n) = some m ∧
    (m == n) = true ∧ m = if n == 0 then 0 else n := by
  refine ⟨_, read?_text_of_isFinite hfinite, ?_, rfl⟩
  split
  · rename_i hzero
    exact PartialEquivBEq.symm hzero
  · exact beq_self_of_isFinite hfinite

theorem read?_text_of_not_isFinite (hfinite : ¬n.isFinite = true) : read? (text n) = none := by
  rw [text, Style.text]
  change ¬n.toModel.unpack.isFinite = true at hfinite
  cases hn : n.toModel.unpack with
  | notANumber => exact show read? "NaN" = none by decide
  | infinity s =>
    cases s with
    | positive => exact show read? "Infinity" = none by decide
    | negative => exact show read? "-Infinity" = none by decide
  | zero | finite =>
    rw [hn] at hfinite
    exact absurd rfl hfinite

end Number

namespace Value

theorem equals_text_number_iff (n : Float) :
    (Value.number n).equals (.string (Value.number n).text) = true ↔ n.isFinite = true := by
  change (Number.read? (Number.text n)).any (· == n) = true ↔ _
  by_cases hfinite : n.isFinite = true
  · obtain ⟨m, hread, hm, -⟩ := Number.exists_read?_text hfinite
    rw [hread]
    exact iff_of_true hm hfinite
  · rw [Number.read?_text_of_not_isFinite hfinite]
    exact iff_of_false Bool.false_ne_true hfinite

/-- Values equal the strings of their texts, except for arrays and for numbers that are not
finite. -/
theorem equals_text_iff (v : Value) : v.equals (.string v.text) = true ↔
    v.isArray = false ∧ ∀ n, v = .number n → n.isFinite = true := by
  cases v with
  | number n =>
    rw [equals_text_number_iff]
    exact ⟨fun h ↦ ⟨rfl, fun m hm ↦ number.inj hm ▸ h⟩, fun h ↦ h.2 n rfl⟩
  | string s => exact iff_of_true (beq_self_eq_true s) ⟨rfl, fun n hn ↦ by cases hn⟩
  | boolean b =>
    refine iff_of_true ?_ ⟨rfl, fun n hn ↦ by cases hn⟩
    exact beq_self_eq_true ((Boolean.text b).toList.map Char.toLower)
  | array es => exact iff_of_false Bool.false_ne_true fun h ↦ Bool.false_ne_true h.1.symm

/-- In a variable that held nothing, a value that is no array is found along one path only. -/
theorem eq_of_at?_modifyAt_empty {b : Bool} {p q : List String}
    (h : ((empty.modifyAt (fun _ ↦ boolean b) p).at? q).getD empty = boolean b) : p = q := by
  induction p generalizing q with
  | nil =>
    cases q with
    | nil => rfl
    | cons l q => cases h
  | cons k p ih =>
    cases q with
    | nil => cases h
    | cons l q =>
      rw [at?_cons_modifyAt_cons] at h
      by_cases hl : l = k
      · rw [if_pos hl] at h
        rw [hl, ih h]
      · rw [if_neg hl] at h
        cases h

end Value

namespace Machine

/-- What is stored through the indices `p` is found through the indices `q`. -/
def SameElement (p q : List Value) : Prop :=
  ∀ (m : Machine) (s : State) (below : Stack Value) (name : String) (v : Value),
    s.stack.items = v :: (p.reverse ++ below.items) →
      ∃ t, m.exec (.storeElement name p.length) s = .ok t ∧ m.Loads t.bindings name q v

variable {m : Machine} {b : Bindings} {name : String} {p q : List Value} {v w : Value}

theorem Loads.unique (hv : m.Loads b name q v) (hw : m.Loads b name q w)
    (hroom : 0 < m.limits.stackSize) : v = w := by
  have hitems : (Stack.ofItems q.reverse).items = q.reverse ++ Stack.empty.items :=
    (List.append_nil _).symm
  have hfirst := hv { bindings := b, stack := .ofItems q.reverse } .empty rfl hitems hroom
  have hsecond := hw { bindings := b, stack := .ofItems q.reverse } .empty rfl hitems hroom
  simpa using congrArg (·.stack.items) (Except.ok.inj (hfirst.symm.trans hsecond))

/-- Indices lead to one element if their texts agree. -/
theorem sameElement_iff (hp : Indices p) (hq : Indices q) :
    SameElement p q ↔ p.map Value.text = q.map Value.text := by
  constructor
  · -- a boolean is stored where no variable was, so that nothing else can be taken for it
    intro hsame
    have hitems : (Stack.ofItems (.boolean true :: p.reverse)).items =
        .boolean true :: (p.reverse ++ Stack.empty.items) := congrArg _ (List.append_nil _).symm
    obtain ⟨t, hexec, hloads⟩ := hsame roomForTwo
      { stack := .ofItems (.boolean true :: p.reverse) } .empty "a" (.boolean true) hitems
    rw [exec_storeElement hp hitems] at hexec
    obtain rfl := Except.ok.inj hexec
    have hvalue := hloads.unique (loads_load roomForTwo _ "a" hq) (by decide)
    rw [Bindings.load_store_self] at hvalue
    exact Value.eq_of_at?_modifyAt_empty hvalue.symm
  · intro htexts m s below name v hitems
    refine ⟨_, exec_storeElement hp hitems, ?_⟩
    have hself := Bindings.load_store_append s.bindings name (p.map Value.text) [] v
    rw [List.append_nil, htexts] at hself
    have hload := loads_load m (s.bindings.store name (q.map Value.text) v) name hq
    rwa [hself, ← htexts] at hload

/-- **Texts are faithful.** A finite number is read from its text, and numbers have one text only if
they are equal or both of them are no numbers. What is not finite has a text that is not read. Hence
what a value equals and which element an index leads to can be told from texts. -/
theorem texts_are_faithful :
    (∀ n : Float, n.isFinite = true → ∃ m, Number.read? (Number.text n) = some m ∧
      (m == n) = true ∧ m = if n == 0 then 0 else n) ∧
    (∀ m n : Float, Number.text m = Number.text n ↔
      (m == n) = true ∨ m.isNaN = true ∧ n.isNaN = true) ∧
    (∀ n : Float, ¬n.isFinite = true → Number.read? (Number.text n) = none) ∧
    (∀ v : Value, v.equals (.string v.text) = true ↔
      v.isArray = false ∧ ∀ n, v = .number n → n.isFinite = true) ∧
    ∀ (before after : List Value) (m n : Float), Indices before → Indices after →
      (SameElement (before ++ .number m :: after) (before ++ .number n :: after) ↔
        (m == n) = true ∨ m.isNaN = true ∧ n.isNaN = true) := by
  refine ⟨fun n ↦ Number.exists_read?_text, Number.text_eq_text_iff,
    fun n ↦ Number.read?_text_of_not_isFinite, Value.equals_text_iff,
    fun before after m n hbefore hafter ↦ ?_⟩
  have hindices : ∀ x : Float, Indices (before ++ .number x :: after) :=
    fun x ↦ List.forall_mem_append.2 ⟨hbefore, List.forall_mem_cons.2 ⟨rfl, hafter⟩⟩
  rw [sameElement_iff (hindices m) (hindices n), ← Number.text_eq_text_iff]
  simp [Value.text, Value.shown]

/-- Zero with a sign is read without it and leads to the same element, and the value that is not a
number is not read. -/
theorem texts_are_faithful_signed_zero :
    (∃ m, Number.read? (Number.text (-0)) = some m ∧ (m == -0) = true ∧
      m = if (-0 : Float) == 0 then 0 else -0) ∧
    Number.read? (Number.text (0 / 0)) = none ∧
    SameElement [.string "k", .number 0] [.string "k", .number (-0)] := by
  obtain ⟨hfinite, -, hspecial, -, hindex⟩ := texts_are_faithful
  exact ⟨hfinite (-0) (by decide), hspecial (0 / 0) (by decide),
    (hindex [.string "k"] [] 0 (-0) (List.forall_mem_singleton.2 rfl)
      (List.forall_mem_nil _)).2 (.inl (by decide))⟩

end Machine

end StackScript
