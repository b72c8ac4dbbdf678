import Mathlib.Data.List.TFAE
import Mathlib.Tactic.TFAE
import StackScript.Library.Math
import StackScript.Library.Text
import StackScript.Proofs.ComparisonLaws
import StackScript.Proofs.NumberText
import StackScript.Value.Arithmetic

/-!
# One reading as a number

Conversion, arithmetic operators, the order of values and the methods of the Math library each take
strings for numbers. They agree on which ones and on which numbers: all of them go by
`Value.number?`. Of an operation on several values, what is left to say is which of those without a
reading is reported. Operators report an array before anything else, and otherwise both they and the
methods report the first, `Value.firstUnread`.
-/

namespace StackScript

/-! ## Numbers -/

namespace Number

theorem neg_involutive : Function.Involutive (Neg.neg : Float → Float) := by
  intro x
  apply eq_of_unpack_eq
  rw [unpack_neg, unpack_neg]
  cases x.toModel.unpack with
  | notANumber => rfl
  | infinity s | zero s | finite s m e hm => cases s <;> rfl

theorem isNaN_nan : nan.isNaN = true := by decide

/-- The value that is not a number gives way even to itself, so this shows what `x` is. -/
theorem larger_nan (x : Float) : larger x nan = x := by
  by_cases hx : x.isNaN = true
  · -- there is only one such value
    have hnan : nan.toModel.unpack = x.toModel.unpack := by
      rw [(isNaN_iff x).1 hx, (isNaN_iff nan).1 isNaN_nan]
    rw [larger, hx, Bool.true_or, if_pos rfl, eq_of_unpack_eq hnan]
  · have hless : ¬x < nan := by simp [lt_iff, (place_eq_none_iff nan).2 isNaN_nan]
    rw [larger, Bool.eq_false_iff.2 hx, decide_eq_false hless, Bool.or_self, if_neg (by decide)]

end Number

/-! ## Values -/

/-- The number that an operator makes of two numbers. -/
def Operator.compute : Operator → Float → Float → Float
  | add => (· + ·)
  | subtract => (· - ·)
  | multiply => (· * ·)
  | divide => (· / ·)

namespace Value

/-- The failure of an operator on an operand of this kind that does not read as a number. -/
def Kind.refusal (operator : Token) : Kind → Failure
  | .array => .arrayOperand operator
  | .boolean => .booleanOperand operator
  | _ => .stringOperand operator

variable {u v w : Value} {m n : Float} {operator : Token}

/-- The first of the values that does not read as a number. -/
def firstUnread (vs : List Value) : Option Value :=
  vs.find? (·.number?.isNone)

theorem firstUnread_cons_of_none (hv : v.number? = none) (vs : List Value) :
    firstUnread (v :: vs) = some v := by
  simp [firstUnread, hv]

theorem firstUnread_cons_of_some (hv : v.number? = some n) (vs : List Value) :
    firstUnread (v :: vs) = firstUnread vs := by
  simp [firstUnread, hv]

theorem toNumber_of_some (hv : v.number? = some n) : v.toNumber = number n := by
  cases v with
  | number m => exact congrArg number (Option.some.inj hv)
  | string s =>
    rw [number?] at hv
    rw [toNumber, hv]
  | boolean b | array es => cases hv

theorem toNumber_of_none (hv : v.number? = none) : v.toNumber = v := by
  cases v with
  | string s =>
    rw [number?] at hv
    rw [toNumber, hv]
  | number m | boolean b | array es => rfl

theorem toNumber_eq_number_iff : v.toNumber = number n ↔ v.number? = some n := by
  constructor
  · intro h
    cases hv : v.number? with
    | none =>
      rw [toNumber_of_none hv] at h
      rw [h] at hv
      cases hv
    | some m =>
      rw [toNumber_of_some hv] at h
      rw [number.inj h]
  · exact toNumber_of_some

theorem operand_of_some (hv : v.number? = some n) : v.operand operator = .ok n := by
  cases v with
  | number m => exact congrArg Except.ok (Option.some.inj hv)
  | string s =>
    rw [number?] at hv
    rw [operand, hv]
  | boolean b | array es => cases hv

theorem operand_of_none (hv : v.number? = none) :
    v.operand operator = .error (v.kind.refusal operator) := by
  cases v with
  | string s =>
    rw [number?] at hv
    rw [operand, hv]
    rfl
  | number m => cases hv
  | boolean b | array es => rfl

theorem isArray_toNumber (v : Value) : v.toNumber.isArray = v.isArray := by
  cases hv : v.number? with
  | none => rw [toNumber_of_none hv]
  | some n =>
    rw [toNumber_of_some hv, isArray_of_some hv]
    rfl

theorem number?_toNumber (v : Value) : v.toNumber.number? = v.number? := by
  cases hv : v.number? with
  | none => rw [toNumber_of_none hv, hv]
  | some n => rw [toNumber_of_some hv, number?]

theorem operand_toNumber (operator : Token) (v : Value) :
    v.toNumber.operand operator = v.operand operator := by
  cases hv : v.number? with
  | none => rw [toNumber_of_none hv]
  | some n => rw [toNumber_of_some hv, operand_of_some hv, operand]

theorem operands_toNumber (operator : Token) (v w : Value) :
    operands operator v.toNumber w = operands operator v w ∧
      operands operator v w.toNumber = operands operator v w := by
  constructor <;> simp only [operands, isArray_toNumber, operand_toNumber]

theorem readings?_toNumber (v w : Value) :
    readings? v.toNumber w = readings? v w ∧ readings? v w.toNumber = readings? v w := by
  constructor <;> simp only [readings?, isArray_toNumber, number?_toNumber]

/-! ## Operators -/

theorem firstUnread_pair_eq_none_iff : firstUnread [v, w] = none ↔
    (∃ x, v.number? = some x) ∧ ∃ y, w.number? = some y := by
  simp [firstUnread, ← ne_eq, Option.ne_none_iff_exists']

theorem exists_firstUnread_pair (h : ¬((∃ x, v.number? = some x) ∧ ∃ y, w.number? = some y)) :
    ∃ u, firstUnread [v, w] = some u := by
  rwa [← Option.isSome_iff_exists, ← Option.ne_none_iff_isSome, ne_eq, firstUnread_pair_eq_none_iff]

theorem operands_of_some (hv : v.number? = some m) (hw : w.number? = some n) :
    operands operator v w = .ok (m, n) := by
  rw [operands, isArray_of_some hv, isArray_of_some hw, operand_of_some hv, operand_of_some hw]
  rfl

theorem operands_of_isArray (h : (v.isArray || w.isArray) = true) :
    operands operator v w = .error (.arrayOperand operator) :=
  if_pos h

theorem operands_of_firstUnread (h : (v.isArray || w.isArray) = false)
    (hu : firstUnread [v, w] = some u) :
    operands operator v w = .error (u.kind.refusal operator) := by
  rw [operands, h, if_neg (by decide)]
  cases hv : v.number? with
  | none =>
    rw [firstUnread_cons_of_none hv, Option.some_inj] at hu
    rw [operand_of_none hv, hu]
  | some m =>
    cases hw : w.number? with
    | none =>
      rw [firstUnread_cons_of_some hv, firstUnread_cons_of_none hw, Option.some_inj] at hu
      rw [operand_of_some hv, operand_of_none hw, hu]
    | some n =>
      rw [firstUnread_cons_of_some hv, firstUnread_cons_of_some hw] at hu
      cases hu

theorem apply_eq {op : Operator} (hop : op ≠ .add) (v w : Value) :
    apply op v w = (operands op.token v w).map fun p ↦ number (op.compute p.1 p.2) := by
  cases op with
  | add => exact absurd rfl hop
  | subtract | multiply | divide => rfl

theorem exists_apply_eq_ok_iff {op : Operator} (hop : op ≠ .add) :
    (∃ u, apply op v w = .ok u) ↔ (∃ x, v.number? = some x) ∧ ∃ y, w.number? = some y := by
  rw [apply_eq hop]
  constructor
  · rintro ⟨u, hu⟩
    by_contra hread
    obtain ⟨a, ha⟩ := exists_firstUnread_pair hread
    cases harray : v.isArray || w.isArray with
    | true =>
      rw [operands_of_isArray harray] at hu
      cases hu
    | false =>
      rw [operands_of_firstUnread harray ha] at hu
      cases hu
  · rintro ⟨⟨x, hx⟩, y, hy⟩
    exact ⟨_, by rw [operands_of_some hx hy]; rfl⟩

theorem add_of_some (hv : v.number? = some m) (hw : w.number? = some n) :
    v.add w = .ok (number (m + n)) := by
  rw [add, isArray_of_some hv, isArray_of_some hw, hv, hw]
  rfl

theorem add_of_isArray (h : (v.isArray || w.isArray) = true) :
    v.add w = .error (.arrayOperand .plus) :=
  if_pos h

theorem add_of_firstUnread (h : (v.isArray || w.isArray) = false)
    (hu : firstUnread [v, w] = some u) : v.add w = .ok (string (v.text ++ w.text)) := by
  rw [add, h, if_neg (by decide)]
  split
  · rename_i hv hw
    rw [firstUnread_pair_eq_none_iff.2 ⟨⟨_, hv⟩, _, hw⟩] at hu
    cases hu
  · rfl

theorem exists_add_eq_error_iff :
    (∃ f, v.add w = .error f) ↔ (v.isArray || w.isArray) = true := by
  constructor
  · rintro ⟨f, hf⟩
    by_contra harray
    rw [add, if_neg harray] at hf
    split at hf <;> cases hf
  · exact fun h ↦ ⟨_, add_of_isArray h⟩

theorem exists_add_eq_number_iff :
    (∃ x, v.add w = .ok (number x)) ↔ (∃ x, v.number? = some x) ∧ ∃ y, w.number? = some y := by
  constructor
  · rintro ⟨x, hx⟩
    rw [add] at hx
    split at hx
    · cases hx
    · split at hx
      · rename_i hv hw
        exact ⟨⟨_, hv⟩, _, hw⟩
      · cases hx
  · rintro ⟨⟨x, hx⟩, y, hy⟩
    exact ⟨_, add_of_some hx hy⟩

/-- What an operator that only works on numbers does with two values. -/
structure Computes (op : Operator) (v w : Value) : Prop where
  ok_iff : (∃ u, apply op v w = .ok u) ↔ (∃ x, v.number? = some x) ∧ ∃ y, w.number? = some y
  ok : ∀ x y, v.number? = some x → w.number? = some y →
    apply op v w = .ok (number (op.compute x y))
  array : (v.isArray || w.isArray) = true → apply op v w = .error (.arrayOperand op.token)
  unread : ∀ u, (v.isArray || w.isArray) = false → firstUnread [v, w] = some u →
    apply op v w = .error (u.kind.refusal op.token)

theorem computes {op : Operator} (hop : op ≠ .add) (v w : Value) : Computes op v w where
  ok_iff := exists_apply_eq_ok_iff hop
  ok x y hx hy := by
    rw [apply_eq hop, operands_of_some hx hy]
    rfl
  array h := by
    rw [apply_eq hop, operands_of_isArray h]
    rfl
  unread u h hu := by
    rw [apply_eq hop, operands_of_firstUnread h hu]
    rfl

/-- What addition does with two values: it adds numbers and joins texts, and takes no arrays. -/
structure AddsOrJoins (v w : Value) : Prop where
  error_iff : (∃ f, v.add w = .error f) ↔ (v.isArray || w.isArray) = true
  error : (v.isArray || w.isArray) = true → v.add w = .error (.arrayOperand .plus)
  number_iff : (∃ x, v.add w = .ok (number x)) ↔
    (∃ x, v.number? = some x) ∧ ∃ y, w.number? = some y
  number : ∀ x y, v.number? = some x → w.number? = some y → v.add w = .ok (number (x + y))
  joined : ∀ u, (v.isArray || w.isArray) = false → firstUnread [v, w] = some u →
    ∃ t, Library.text.call "Append" [v, w] = .ok (some t) ∧ v.add w = .ok t

theorem addsOrJoins (v w : Value) : AddsOrJoins v w where
  error_iff := exists_add_eq_error_iff
  error := add_of_isArray
  number_iff := exists_add_eq_number_iff
  number _ _ := add_of_some
  joined _ h hu := ⟨_, rfl, add_of_firstUnread h hu⟩

theorem negate_of_some (hv : v.number? = some n) : v.negate = .ok (number (-n)) := by
  rw [negate, operand_of_some hv]
  rfl

theorem negate_eq_number_iff : v.negate = .ok (number (-n)) ↔ v.number? = some n := by
  constructor
  · intro h
    cases hv : v.number? with
    | none =>
      rw [negate, operand_of_none hv] at h
      cases h
    | some m =>
      rw [negate_of_some hv, Except.ok.injEq, number.injEq] at h
      rw [Number.neg_involutive.injective h]
  · exact negate_of_some

end Value

/-! ## Methods of the Math library -/

namespace NumberFunction

/-- How many numbers the function takes. -/
def arity : NumberFunction → ℕ
  | one _ => 1
  | two _ => 2

/-- The value of the function, if there are as many numbers as it takes. -/
def value? : NumberFunction → List Float → Option Float
  | one f, [x] => some (f x)
  | two f, [x, y] => some (f x y)
  | _, _ => none

theorem exists_value? {f : NumberFunction} {xs : List Float} (h : xs.length = f.arity) :
    ∃ y, f.value? xs = some y := by
  cases f with
  | one f =>
    obtain ⟨x, rfl⟩ := List.length_eq_one_iff.1 h
    exact ⟨f x, rfl⟩
  | two f =>
    obtain ⟨x, y, rfl⟩ := List.length_eq_two.1 h
    exact ⟨f x y, rfl⟩

theorem method_of_length_ne {f : NumberFunction} {args : List Value} (h : args.length ≠ f.arity) :
    f.method args = .error (.argumentCount f.arity args.length) := by
  cases f with
  | one f =>
    rcases args with _ | ⟨a, _ | ⟨b, args⟩⟩
    · rfl
    · exact absurd rfl h
    · rfl
  | two f =>
    rcases args with _ | ⟨a, _ | ⟨b, _ | ⟨c, args⟩⟩⟩
    · rfl
    · rfl
    · exact absurd rfl h
    · rfl

/-- The arguments are read one after the other, and then the function is applied. -/
theorem method_of_length_eq {f : NumberFunction} {args : List Value} (h : args.length = f.arity) :
    f.method args =
      (args.mapM Method.numeric).map fun xs ↦ (f.value? xs).map .number := by
  cases f with
  | one f =>
    obtain ⟨a, rfl⟩ := List.length_eq_one_iff.1 h
    rw [List.mapM_cons, List.mapM_nil]
    simp only [method, Method.onNumber, Method.unary]
    cases Method.numeric a <;> rfl
  | two f =>
    obtain ⟨a, b, rfl⟩ := List.length_eq_two.1 h
    rw [List.mapM_cons, List.mapM_cons, List.mapM_nil]
    simp only [method, Method.onNumbers, Method.binary]
    cases Method.numeric a with
    | error e => rfl
    | ok x => cases Method.numeric b <;> rfl

end NumberFunction

namespace Method

/-- The error about an argument that does not read as a number. -/
def unread (a : Value) : LibraryError :=
  .invalidArgument ("expected a number, got " ++ a.kind.name ++ " " ++ a.shown)

theorem numeric_eq_ok_iff {a : Value} {n : Float} : numeric a = .ok n ↔ a.number? = some n := by
  rw [numeric]
  cases a.number? with
  | none => simp
  | some m => simp

theorem numeric_of_none {a : Value} (h : a.number? = none) : numeric a = .error (unread a) := by
  rw [numeric, h, unread]

theorem mapM_numeric_of_firstUnread {args : List Value} {a : Value}
    (h : Value.firstUnread args = some a) : args.mapM numeric = .error (unread a) := by
  induction args with
  | nil => cases h
  | cons b args ih =>
    rw [List.mapM_cons]
    cases hb : b.number? with
    | none =>
      rw [Value.firstUnread_cons_of_none hb, Option.some_inj] at h
      rw [numeric_of_none hb, h]
      rfl
    | some x =>
      rw [Value.firstUnread_cons_of_some hb] at h
      rw [numeric_eq_ok_iff.2 hb, ih h]
      rfl

theorem exists_mapM_numeric {args : List Value} (h : Value.firstUnread args = none) :
    ∃ xs : List Float, args.map Value.number? = xs.map some ∧ args.mapM numeric = .ok xs := by
  induction args with
  | nil => exact ⟨[], rfl, rfl⟩
  | cons b args ih =>
    cases hb : b.number? with
    | none =>
      rw [Value.firstUnread_cons_of_none hb] at h
      cases h
    | some x =>
      rw [Value.firstUnread_cons_of_some hb] at h
      obtain ⟨xs, hread, hxs⟩ := ih h
      refine ⟨x :: xs, by simp [hb, hread], ?_⟩
      rw [List.mapM_cons, numeric_eq_ok_iff.2 hb, hxs]
      rfl

/-- What a method for numbers does with its arguments: it counts them, then reads them in order, and
then applies its function. -/
structure Computes (method : Method) (f : NumberFunction) (args : List Value) : Prop where
  argumentCount_iff :
    (∃ expected given, method args = .error (.argumentCount expected given)) ↔
      args.length ≠ f.arity
  argumentCount : args.length ≠ f.arity →
    method args = .error (.argumentCount f.arity args.length)
  invalidArgument : ∀ a, args.length = f.arity → Value.firstUnread args = some a →
    method args = .error (unread a)
  result : args.length = f.arity → Value.firstUnread args = none →
    ∃ xs y, args.map Value.number? = xs.map some ∧ f.value? xs = some y ∧
      method args = .ok (some (.number y))

theorem invalidArgument_of_firstUnread {f : NumberFunction} {args : List Value} {a : Value}
    (h : args.length = f.arity) (ha : Value.firstUnread args = some a) :
    f.method args = .error (unread a) := by
  rw [f.method_of_length_eq h, mapM_numeric_of_firstUnread ha]
  rfl

theorem exists_result {f : NumberFunction} {args : List Value} (h : args.length = f.arity)
    (hread : Value.firstUnread args = none) :
    ∃ xs y, args.map Value.number? = xs.map some ∧ f.value? xs = some y ∧
      f.method args = .ok (some (.number y)) := by
  obtain ⟨xs, hxs, hmapM⟩ := exists_mapM_numeric hread
  have hlength : xs.length = f.arity := by simpa [h] using (congrArg List.length hxs).symm
  obtain ⟨y, hy⟩ := f.exists_value? hlength
  refine ⟨xs, y, hxs, hy, ?_⟩
  rw [f.method_of_length_eq h, hmapM, Except.map, hy, Option.map_some]

theorem computes (f : NumberFunction) (args : List Value) : Computes f.method f args where
  argumentCount_iff := by
    constructor
    · rintro ⟨expected, given, herror⟩ hlength
      cases hread : Value.firstUnread args with
      | none =>
        obtain ⟨xs, y, -, -, hresult⟩ := exists_result hlength hread
        rw [hresult] at herror
        cases herror
      | some a =>
        rw [invalidArgument_of_firstUnread hlength hread] at herror
        cases herror
    · exact fun h ↦ ⟨_, _, f.method_of_length_ne h⟩
  argumentCount := f.method_of_length_ne
  invalidArgument _ := invalidArgument_of_firstUnread
  result := exists_result

end Method

namespace Library

variable {name : String} {f : NumberFunction} {args : List Value}

theorem call_math (hf : (name, f) ∈ mathFunctions) : math.call name = f.method := by
  simp only [mathFunctions, List.mem_cons, Prod.mk.injEq, List.not_mem_nil, or_false] at hf
  rcases hf with h | h | h | h | h | h | h | h <;> obtain ⟨rfl, rfl⟩ := h <;> rfl

theorem call_math_of_not_mem (h : name ∉ mathFunctions.map (·.1)) (args : List Value) :
    math.call name args = .error (.unknownMethod name) := by
  have hlookup : (mathFunctions.map fun e ↦ (e.1, e.2.method)).lookup name = none := by
    rw [List.lookup_eq_none_iff]
    rintro p hp
    obtain ⟨e, he, rfl⟩ := List.mem_map.1 hp
    exact bne_iff_ne.2 fun heq ↦ h (heq ▸ List.mem_map_of_mem he)
  rw [math, ofMethods]
  simp only [hlookup]

/-- Every argument of every method can be replaced by the number that it reads as. -/
theorem call_math_congr {v : Value} {n : Float} (hv : v.number? = some n) (name : String)
    (before after : List Value) :
    math.call name (before ++ v :: after) = math.call name (before ++ .number n :: after) := by
  by_cases hname : name ∈ mathFunctions.map (·.1)
  · obtain ⟨⟨name, f⟩, hf, rfl⟩ := List.mem_map.1 hname
    have hlength : (before ++ v :: after).length = (before ++ .number n :: after).length := by simp
    rw [call_math hf]
    by_cases harity : (before ++ v :: after).length = f.arity
    · rw [f.method_of_length_eq harity, f.method_of_length_eq (hlength.symm.trans harity)]
      simp only [List.mapM_append, List.mapM_cons, Method.numeric_eq_ok_iff.2 hv]
      rfl
    · rw [f.method_of_length_ne harity, f.method_of_length_ne (hlength ▸ harity), hlength]
  · rw [call_math_of_not_mem hname, call_math_of_not_mem hname]

/-- The larger of a number and of the value that is not a number shows how the first is read. -/
theorem call_max_nan (v : Value) : math.call "Max" [v, .number Number.nan] =
    (Method.numeric v).map fun x ↦ some (.number x) := by
  change Method.onNumbers Number.larger [v, .number Number.nan] = _
  rw [Method.onNumbers, Method.binary]
  cases Method.numeric v with
  | error e => rfl
  | ok x => exact congrArg (fun y ↦ Except.ok (some (Value.number y))) (Number.larger_nan x)

end Library

namespace Value

/-- **There is one reading as a number.** What a value reads as, what it is converted to, the
opposite of what it is negated to and what the methods of the Math library take it for are the same
number. So a value can be converted before it is used. Operators and methods succeed on values that
all have a reading, and otherwise report the first that has none, after arrays for an operator and
after a wrong number of arguments for a method. Addition joins what it cannot add. -/
theorem one_numeric_reading (v w : Value) (n : Float) (args : List Value) :
    [v.number? = some n, v.toNumber = number n, v.negate = .ok (number (-n)),
      Method.numeric v = .ok n,
      ∀ name before after, Library.math.call name (before ++ v :: after) =
        Library.math.call name (before ++ number n :: after)].TFAE ∧
    (∀ op, op ≠ .add → apply op v.toNumber w = apply op v w ∧
      apply op v w.toNumber = apply op v w ∧ Computes op v w) ∧
    v.toNumber.negate = v.negate ∧
    (∀ c ∈ [Comparison.lessThan, .greaterThan], compare c v.toNumber w = compare c v w ∧
      compare c v w.toNumber = compare c v w) ∧
    AddsOrJoins v w ∧
    (∀ name f, (name, f) ∈ Library.mathFunctions →
      Method.Computes (Library.math.call name) f args) ∧
    ∀ name, name ∉ Library.mathFunctions.map (·.1) →
      Library.math.call name args = .error (.unknownMethod name) := by
  refine ⟨?_, ?_, ?_, ?_, addsOrJoins v w, ?_, fun name h ↦ Library.call_math_of_not_mem h args⟩
  · tfae_have 2 ↔ 1 := toNumber_eq_number_iff
    tfae_have 3 ↔ 1 := negate_eq_number_iff
    tfae_have 4 ↔ 1 := Method.numeric_eq_ok_iff
    tfae_have 1 → 5 := Library.call_math_congr
    tfae_have 5 → 4 := by
      intro h
      -- one call is enough if its result is the reading itself
      have hmax := h "Max" [] [number Number.nan]
      rw [List.nil_append, List.nil_append, Library.call_max_nan, Library.call_max_nan] at hmax
      cases hv : Method.numeric v with
      | error e =>
        rw [hv] at hmax
        cases hmax
      | ok x =>
        rw [hv] at hmax
        cases hmax
        rfl
    tfae_finish
  · intro op hop
    have htoNumber := operands_toNumber op.token v w
    refine ⟨?_, ?_, computes hop v w⟩
    · rw [apply_eq hop, apply_eq hop, htoNumber.1]
    · rw [apply_eq hop, apply_eq hop, htoNumber.2]
  · rw [negate, negate, operand_toNumber]
  · have hreadings := readings?_toNumber v w
    simp [compare, less, greater, hreadings.1, hreadings.2]
  · intro name f hf
    rw [Library.call_math hf]
    exact Method.computes f args

/-- A string that reads as a number in front of a value that does not. -/
theorem one_numeric_reading_mixed :
    (∃ n, (string "1").number? = some n ∧ (string "1").negate = .ok (number (-n))) ∧
    Operator.subtract ≠ .add ∧
    apply .subtract (string "1") (boolean true) = .error (.booleanOperand .minus) ∧
    ("Remainder", .two Number.remainder) ∈ Library.mathFunctions ∧
    Library.math.call "Remainder" [string "1", boolean true] =
      .error (.invalidArgument "expected a number, got Boolean True") := by
  have hread : (string "1").number?.isSome = true := by decide +kernel
  obtain ⟨n, hn⟩ := Option.isSome_iff_exists.1 hread
  have hunread : firstUnread [string "1", boolean true] = some (boolean true) :=
    (firstUnread_cons_of_some hn _).trans (firstUnread_cons_of_none rfl _)
  have hmem : ("Remainder", .two Number.remainder) ∈ Library.mathFunctions := by
    simp [Library.mathFunctions]
  obtain ⟨htfae, hoperators, -, -, -, hmethods, -⟩ := one_numeric_reading (string "1")
    (boolean true) n [string "1", boolean true]
  have hsubtract := (hoperators .subtract (by decide)).2.2
  exact ⟨⟨n, hn, (htfae.out 0 2).1 hn⟩, by decide, hsubtract.unread _ rfl hunread, hmem,
    (hmethods _ _ hmem).invalidArgument _ rfl hunread⟩

end Value

end StackScript
