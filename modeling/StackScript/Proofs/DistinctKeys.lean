import StackScript.Library.Builtin
import StackScript.Machine.Bindings
import StackScript.Proofs.ByteOrder
import StackScript.Proofs.Entries
import StackScript.Proofs.Operations

/-!
# Distinct keys at every depth

The entries of an array are a list of pairs, and nothing in their type keeps a key from coming
twice. `Value.DistinctKeys` says that no key does, in the array itself and in every array inside it.
Here it is followed through everything that makes values: writing and erasing entries, storing under
a path of keys, the operators, and the methods of the built-in libraries.

Variables are kept in a list as well, and `Bindings.WellFormed` says what that list is meant to be:
each name once, in the order of their bytes. Writing compares names character by character, which is
the same order by `Text.bytes_lt_iff`.
-/

namespace StackScript

/-! ## Values -/

namespace Value

/-- Every array in the value, at any depth, has distinct keys. -/
inductive DistinctKeys : Value → Prop
  | number (n : Float) : DistinctKeys (.number n)
  | string (s : String) : DistinctKeys (.string s)
  | boolean (b : Bool) : DistinctKeys (.boolean b)
  | array {es : Entries Value} (distinct : es.keys.Nodup) (values : ∀ e ∈ es, DistinctKeys e.2) :
    DistinctKeys (.array es)

theorem distinctKeys_array_iff {es : Entries Value} :
    (array es).DistinctKeys ↔ es.keys.Nodup ∧ ∀ e ∈ es, e.2.DistinctKeys := by
  constructor
  · rintro ⟨⟩
    exact ⟨‹_›, ‹_›⟩
  · rintro ⟨hdistinct, hvalues⟩
    exact .array hdistinct hvalues

namespace DistinctKeys

variable {v w : Value} {es : Entries Value} {key : String}

theorem empty : Value.empty.DistinctKeys := .string ""

/-- What is missing counts as the empty string. -/
theorem getD {o : Option Value} (h : ∀ v, o = some v → v.DistinctKeys) :
    (o.getD Value.empty).DistinctKeys := by
  cases o with
  | none => exact empty
  | some v => exact h v rfl

/-- A value that is no array has no entries, so none with the same key. -/
theorem entries (h : v.DistinctKeys) : (Value.array v.entries).DistinctKeys := by
  cases v with
  | array es => exact h
  | number | string | boolean => exact .array List.nodup_nil fun e he ↦ by cases he

theorem get? (h : (Value.array es).DistinctKeys) (hget : es.get? key = some v) :
    v.DistinctKeys :=
  (distinctKeys_array_iff.1 h).2 (key, v) (Entries.mem_of_get?_eq_some hget)

theorem insert (h : (Value.array es).DistinctKeys) (key : String) (hv : v.DistinctKeys) :
    (Value.array (es.insert key v)).DistinctKeys := by
  rw [distinctKeys_array_iff] at h ⊢
  refine ⟨Entries.nodup_keys_insert h.1 key v, ?_⟩
  intro e he
  rcases Entries.mem_of_mem_insert he with he | rfl
  · exact h.2 e he
  · exact hv

theorem remove (h : (Value.array es).DistinctKeys) (key : String) :
    (Value.array (es.remove key).2).DistinctKeys := by
  rw [distinctKeys_array_iff] at h ⊢
  rw [Entries.remove_eq h.1]
  exact ⟨Entries.nodup_keys_erase h.1 key, fun e he ↦ h.2 e (List.mem_filter.1 he).1⟩

/-- Pairs may repeat a key; the entries that are made of them do not. -/
theorem ofPairs {ps : List (String × Value)} (h : ∀ p ∈ ps, p.2.DistinctKeys) :
    (Value.array (Entries.ofPairs ps)).DistinctKeys :=
  .array (Entries.nodup_keys_ofPairs ps) fun e he ↦ h e (Entries.mem_of_mem_ofPairs e he)

theorem at? (h : v.DistinctKeys) {path : List String} (hat : v.at? path = some w) :
    w.DistinctKeys := by
  induction path generalizing v with
  | nil =>
    rw [← Option.some.inj hat]
    exact h
  | cons key path ih =>
    rw [Value.at?] at hat
    obtain ⟨u, hu, hat⟩ := Option.bind_eq_some_iff.1 hat
    exact ih (h.entries.get? hu) hat

/-- Storing under a path writes one entry at each level on the way down. -/
theorem modifyAt {f : Value → Value} (hf : ∀ u, u.DistinctKeys → (f u).DistinctKeys)
    (h : v.DistinctKeys) (path : List String) : (v.modifyAt f path).DistinctKeys := by
  induction path generalizing v with
  | nil => exact hf v h
  | cons key path ih =>
    rw [Value.modifyAt]
    apply h.entries.insert
    apply ih
    exact getD fun u hu ↦ h.entries.get? hu

end DistinctKeys

/-! ### Operators

They make numbers and strings, never arrays. -/

theorem distinctKeys_of_map_number {α : Type} {x : Except Failure α} {f : α → Float} {u : Value}
    (h : (x.map fun a ↦ number (f a)) = .ok u) : u.DistinctKeys := by
  cases x with
  | error c => cases h
  | ok a =>
    rw [← Except.ok.inj h]
    exact .number _

theorem distinctKeys_of_apply {operator : Operator} {v w u : Value}
    (h : apply operator v w = .ok u) : u.DistinctKeys := by
  cases operator with
  | add =>
    rw [apply, add] at h
    split at h
    · cases h
    · split at h
      · rw [← Except.ok.inj h]
        exact .number _
      · rw [← Except.ok.inj h]
        exact .string _
  | subtract | multiply | divide => exact distinctKeys_of_map_number h

theorem distinctKeys_of_negate {v w : Value} (h : v.negate = .ok w) : w.DistinctKeys :=
  distinctKeys_of_map_number h

end Value

/-! ## Bindings -/

namespace Bindings

variable {b : Bindings} {name : String} {v : Value}

/-- The names of the variables, in the order in which they are kept. -/
def names (b : Bindings) : List String :=
  b.toList.map (·.1)

/-- Values have distinct keys at every depth, and names ascend strictly, so each comes once. -/
structure WellFormed (b : Bindings) : Prop where
  /-- Every array in a variable has distinct keys. -/
  values : ∀ e ∈ b.toList, e.2.DistinctKeys
  /-- The names are in strictly increasing order of their bytes. -/
  ascending : b.names.Pairwise fun x y ↦ Text.bytes x < Text.bytes y

theorem mem_of_mem_insertSorted {bs : List (String × Value)} {e : String × Value}
    (h : e ∈ insertSorted name v bs) : e = (name, v) ∨ e ∈ bs := by
  induction bs with
  | nil => exact .inl (List.mem_singleton.1 h)
  | cons c bs ih =>
    rw [insertSorted] at h
    split at h
    · exact List.mem_cons.1 h
    · split at h
      · exact (List.mem_cons.1 h).imp_right (List.mem_cons_of_mem c)
      · rcases List.mem_cons.1 h with rfl | h
        · exact .inr List.mem_cons_self
        · exact (ih h).imp_right (List.mem_cons_of_mem c)

theorem pairwise_insertSorted {bs : List (String × Value)}
    (h : (bs.map (·.1)).Pairwise (· < ·)) (name : String) (v : Value) :
    ((insertSorted name v bs).map (·.1)).Pairwise (· < ·) := by
  induction bs with
  | nil => exact List.pairwise_singleton _ _
  | cons c bs ih =>
    obtain ⟨x, w⟩ := c
    rw [List.map_cons, List.pairwise_cons] at h
    obtain ⟨hx, hbs⟩ := h
    rw [insertSorted]
    by_cases hlt : name < x
    · -- the name comes before all others
      rw [if_pos hlt, List.map_cons, List.map_cons, List.pairwise_cons, List.pairwise_cons]
      refine ⟨?_, hx, hbs⟩
      intro y hy
      rcases List.mem_cons.1 hy with rfl | hy
      · exact hlt
      · exact String.lt_trans hlt (hx y hy)
    · rw [if_neg hlt]
      by_cases heq : name = x
      · rw [if_pos heq, heq, List.map_cons, List.pairwise_cons]
        exact ⟨hx, hbs⟩
      · -- the name belongs further down, where only it can be new
        have hgt : x < name := String.not_le.1 fun hle ↦
          heq (String.le_antisymm hle (String.not_lt.1 hlt))
        rw [if_neg heq, List.map_cons, List.pairwise_cons]
        refine ⟨?_, ih hbs⟩
        intro y hy
        obtain ⟨e, he, rfl⟩ := List.mem_map.1 hy
        rcases mem_of_mem_insertSorted he with rfl | he
        · exact hgt
        · exact hx e.1 (List.mem_map_of_mem he)

namespace WellFormed

theorem empty : ({} : Bindings).WellFormed where
  values := fun e he ↦ by cases he
  ascending := .nil

theorem get? (h : b.WellFormed) (hget : b.get? name = some v) : v.DistinctKeys :=
  h.values (name, v) (Entries.mem_of_get?_eq_some hget)

theorem load (h : b.WellFormed) (name : String) (path : List String) :
    (b.load name path).DistinctKeys := by
  apply Value.DistinctKeys.getD
  intro w hw
  obtain ⟨v, hv, hat⟩ := Option.bind_eq_some_iff.1 hw
  exact (h.get? hv).at? hat

theorem insert (h : b.WellFormed) (name : String) (hv : v.DistinctKeys) :
    (b.insert name v).WellFormed where
  values := by
    intro e he
    rcases mem_of_mem_insertSorted he with rfl | he
    · exact hv
    · exact h.values e he
  ascending := by
    have hnames : b.names.Pairwise (· < ·) := h.ascending.imp Text.bytes_lt_iff.1
    exact (pairwise_insertSorted hnames name v).imp Text.bytes_lt_iff.2

theorem store (h : b.WellFormed) (name : String) (path : List String) (hv : v.DistinctKeys) :
    (b.store name path v).WellFormed := by
  apply h.insert
  apply Value.DistinctKeys.modifyAt fun _ _ ↦ hv
  exact .getD fun u hu ↦ h.get? hu

theorem nodup_names (h : b.WellFormed) : b.names.Nodup := by
  refine h.ascending.imp ?_
  rintro x _ hlt rfl
  exact List.lt_irrefl _ hlt

end WellFormed

end Bindings

/-! ## Libraries

A method may do with its arguments what it likes. The built-in ones only make two kinds of arrays:
one with numbers for keys, and one from which an entry was erased. -/

/-- Whenever its arguments have distinct keys, so has what the method gives back. -/
def Method.KeepsKeys (f : Method) : Prop :=
  ∀ arguments, (∀ a ∈ arguments, a.DistinctKeys) →
    ∀ v, f arguments = .ok (some v) → v.DistinctKeys

namespace Method

theorem keepsKeys_unary {f : Value → Except LibraryError (Option Value)}
    (h : ∀ a, a.DistinctKeys → ∀ v, f a = .ok (some v) → v.DistinctKeys) :
    KeepsKeys (unary f) := by
  intro arguments harguments v hv
  unfold unary at hv
  split at hv
  · exact h _ (harguments _ List.mem_cons_self) v hv
  · cases hv

theorem keepsKeys_binary {f : Value → Value → Except LibraryError (Option Value)}
    (h : ∀ a, a.DistinctKeys → ∀ b v, f a b = .ok (some v) → v.DistinctKeys) :
    KeepsKeys (binary f) := by
  intro arguments harguments v hv
  unfold binary at hv
  split at hv
  · exact h _ (harguments _ List.mem_cons_self) _ v hv
  · cases hv

theorem keepsKeys_unary_ok {g : Value → Value} (h : ∀ a, a.DistinctKeys → (g a).DistinctKeys) :
    KeepsKeys (unary fun a ↦ .ok (some (g a))) := by
  apply keepsKeys_unary
  intro a ha v hv
  rw [← Option.some.inj (Except.ok.inj hv)]
  exact h a ha

theorem keepsKeys_binary_ok {g : Value → Value → Value}
    (h : ∀ a, a.DistinctKeys → ∀ b, (g a b).DistinctKeys) :
    KeepsKeys (binary fun a b ↦ .ok (some (g a b))) := by
  apply keepsKeys_binary
  intro a ha b v hv
  rw [← Option.some.inj (Except.ok.inj hv)]
  exact h a ha b

theorem keepsKeys_onNumber (f : Float → Float) : KeepsKeys (onNumber f) := by
  apply keepsKeys_unary
  intro a _ v hv
  obtain ⟨x, -, hv⟩ := bind_eq_ok.1 hv
  rw [Option.some.inj (pure_eq_ok.1 hv)]
  exact .number _

theorem keepsKeys_onNumbers (f : Float → Float → Float) : KeepsKeys (onNumbers f) := by
  apply keepsKeys_binary
  intro a _ b v hv
  obtain ⟨x, -, hv⟩ := bind_eq_ok.1 hv
  obtain ⟨y, -, hv⟩ := bind_eq_ok.1 hv
  rw [Option.some.inj (pure_eq_ok.1 hv)]
  exact .number _

end Method

namespace Library

/-- All methods keep keys distinct. -/
def KeepsKeys (l : Library) : Prop :=
  ∀ method, Method.KeepsKeys (l.call method)

theorem keepsKeys_ofMethods {methods : List (String × Method)}
    (h : ∀ e ∈ methods, Method.KeepsKeys e.2) (name : String) :
    (ofMethods name methods).KeepsKeys := by
  intro method arguments harguments v hv
  rw [ofMethods] at hv
  dsimp only at hv
  split at hv
  · rename_i f hf
    exact h (method, f) (Entries.mem_of_get?_eq_some hf) arguments harguments v hv
  · cases hv

theorem keepsKeys_math : math.KeepsKeys := by
  apply keepsKeys_ofMethods
  intro e he
  obtain ⟨⟨name, f⟩, -, rfl⟩ := List.mem_map.1 he
  cases f with
  | one f => exact Method.keepsKeys_onNumber f
  | two f => exact Method.keepsKeys_onNumbers f

theorem keepsKeys_text : text.KeepsKeys := by
  apply keepsKeys_ofMethods
  rw [List.forall_mem_cons, List.forall_mem_cons, List.forall_mem_cons, List.forall_mem_singleton]
  refine ⟨?append, ?length, ?upper, ?lower⟩
  case append => exact Method.keepsKeys_binary_ok fun _ _ _ ↦ .string _
  case length => exact Method.keepsKeys_unary_ok fun _ _ ↦ .number _
  case upper => exact Method.keepsKeys_unary_ok fun _ _ ↦ .string _
  case lower => exact Method.keepsKeys_unary_ok fun _ _ ↦ .string _

/-- Different numbers have different texts, since a number is read back from its digits. -/
theorem toString_injective {a b : ℕ} (h : toString a = toString b) : a = b := by
  have hdigits : Nat.toDigits 10 a = Nat.toDigits 10 b := String.ofList_injective h
  rw [← Nat.ofDigitChars_toDigits (b := 10) (n := a) (by decide) (by decide), hdigits,
    Nat.ofDigitChars_toDigits (by decide) (by decide)]

theorem mem_keys_numbered {first : ℕ} {ks : List String} {key : String}
    (h : key ∈ (numbered first ks).keys) : ∃ n, first ≤ n ∧ key = toString n := by
  induction ks generalizing first with
  | nil => cases h
  | cons k ks ih =>
    rw [numbered, Entries.keys_cons] at h
    rcases List.mem_cons.1 h with rfl | h
    · exact ⟨first, Nat.le_refl first, rfl⟩
    · obtain ⟨n, hn, rfl⟩ := ih h
      exact ⟨n, Nat.le_of_succ_le hn, rfl⟩

theorem distinctKeys_numbered (first : ℕ) (ks : List String) :
    (Value.array (numbered first ks)).DistinctKeys := by
  rw [Value.distinctKeys_array_iff]
  induction ks generalizing first with
  | nil => exact ⟨List.nodup_nil, fun e he ↦ by cases he⟩
  | cons k ks ih =>
    obtain ⟨hdistinct, hvalues⟩ := ih (first + 1)
    rw [numbered, Entries.keys_cons, List.nodup_cons]
    refine ⟨⟨?_, hdistinct⟩, List.forall_mem_cons.2 ⟨.string k, hvalues⟩⟩
    -- the keys that follow are texts of larger numbers
    intro hmem
    obtain ⟨n, hn, htext⟩ := mem_keys_numbered hmem
    have := toString_injective htext
    omega

theorem keepsKeys_array : array.KeepsKeys := by
  apply keepsKeys_ofMethods
  rw [List.forall_mem_cons, List.forall_mem_cons, List.forall_mem_cons, List.forall_mem_singleton]
  refine ⟨?count, ?contains, ?indices, ?remove⟩
  case count => exact Method.keepsKeys_unary_ok fun _ _ ↦ .number _
  case contains => exact Method.keepsKeys_binary_ok fun _ _ _ ↦ .boolean _
  case indices =>
    exact Method.keepsKeys_unary_ok fun _ _ ↦
      .ofPairs (Value.distinctKeys_array_iff.1 (distinctKeys_numbered 1 _)).2
  case remove => exact Method.keepsKeys_binary_ok fun _ ha b ↦ ha.entries.remove b.text

end Library

/-- All libraries keep keys distinct. -/
def Registry.KeepsKeys (r : Registry) : Prop :=
  ∀ e ∈ r, e.2.KeepsKeys

namespace Registry

theorem KeepsKeys.registerAll {r : Registry} (h : r.KeepsKeys) {ls : List Library}
    (hls : ∀ l ∈ ls, l.KeepsKeys) : (r.registerAll ls).KeepsKeys := by
  refine List.foldlRecOn ls _ h ?_
  intro r hr l hl e he
  rcases Entries.mem_of_mem_insert he with he | rfl
  · exact hr e he
  · exact hls l hl

theorem keepsKeys_builtin : builtin.KeepsKeys := by
  refine KeepsKeys.registerAll (fun e he ↦ by cases he) ?_
  simp [Library.builtin, Library.keepsKeys_math, Library.keepsKeys_text, Library.keepsKeys_array]

end Registry

end StackScript
