import StackScript.Proofs.Entries
import StackScript.Proofs.StackDiscipline

/-!
# Elements of variables

A store walks down a path of keys and makes an array of every level on its way; a load walks down a
path and takes whatever is missing, or is no array, for the empty string. What a load finds after a
store is settled by how the two paths lie to each other. Either one of them leads on from the other,
or they part at some level, `Value.Parts`, and then the load does not notice the store.
-/

namespace StackScript

namespace Value

variable {p q : List String}

/-- The paths have different keys at some level that both of them reach. -/
def Parts (p q : List String) : Prop :=
  ∃ (i : ℕ) (k l : String), p[i]? = some k ∧ q[i]? = some l ∧ k ≠ l

theorem not_parts_nil_left (q : List String) : ¬Parts [] q := by
  rintro ⟨i, k, l, hk, -⟩
  simp at hk

theorem not_parts_nil_right (p : List String) : ¬Parts p [] := by
  rintro ⟨i, k, l, -, hl, -⟩
  simp at hl

theorem parts_cons_self {k : String} (h : Parts (k :: p) (k :: q)) : Parts p q := by
  obtain ⟨i, x, y, hx, hy, hne⟩ := h
  cases i with
  | zero =>
    rw [List.getElem?_cons_zero, Option.some.injEq] at hx hy
    exact absurd (hx.symm.trans hy) hne
  | succ i => exact ⟨i, x, y, hx, hy, hne⟩

theorem at?_cons (v : Value) (k : String) (q : List String) :
    v.at? (k :: q) = (v.entries.get? k).bind (·.at? q) := rfl

/-- Below the empty string lies nothing, so a missing value may be taken for it. -/
theorem getD_empty_at?_cons (o : Option Value) (k : String) (q : List String) :
    (o.getD empty).at? (k :: q) = o.bind (·.at? (k :: q)) := by
  cases o with
  | none => rfl
  | some v => rfl

/-- One step down into what was changed along `k :: p`. -/
theorem at?_cons_modifyAt_cons (f : Value → Value) (v : Value) (k l : String) (p q : List String) :
    (v.modifyAt f (k :: p)).at? (l :: q) =
      if l = k then (modifyAt f ((v.entries.get? k).getD empty) p).at? q else v.at? (l :: q) := by
  rw [modifyAt, at?_cons, entries, Entries.get?_insert]
  by_cases hl : l = k
  · rw [if_pos hl, if_pos hl, Option.bind_some]
  · rw [if_neg hl, if_neg hl, at?_cons]

theorem exists_at?_modifyAt_eq (f : Value → Value) (v : Value) (p r : List String) :
    ∃ u, (v.modifyAt f p).at? (p ++ r) = (f u).at? r := by
  induction p generalizing v with
  | nil => exact ⟨v, rfl⟩
  | cons k p ih =>
    rw [List.cons_append, at?_cons_modifyAt_cons, if_pos rfl]
    exact ih _

/-- A change is not noticed where the paths have parted. -/
theorem at?_modifyAt_of_parts (f : Value → Value) (v : Value) (h : Parts p q) :
    (v.modifyAt f p).at? q = v.at? q := by
  induction p generalizing v q with
  | nil => exact absurd h (not_parts_nil_left q)
  | cons k p ih =>
    cases q with
    | nil => exact absurd h (not_parts_nil_right _)
    | cons l q =>
      rw [at?_cons_modifyAt_cons]
      by_cases hl : l = k
      · subst hl
        have htail := parts_cons_self h
        -- the level below may be a fresh one, but `q` goes on into it, and finds nothing
        cases q with
        | nil => exact absurd htail (not_parts_nil_right p)
        | cons x q => rw [if_pos rfl, ih _ htail, getD_empty_at?_cons, at?_cons]
      · rw [if_neg hl]

theorem getD_empty_at? (o : Option Value) (p : List String) :
    ((o.getD empty).at? p).getD empty = (o.bind (·.at? p)).getD empty := by
  cases p with
  | nil => cases o <;> rfl
  | cons k p => rw [getD_empty_at?_cons]

/-- At each level the entry under the key of that level is written, and nothing else. -/
theorem exists_at?_modifyAt (f : Value → Value) (v : Value) (k : String) (q r : List String) :
    ∃ w, (v.modifyAt f (q ++ k :: r)).at? q =
      some (.array (((v.at? q).getD empty).entries.insert k w)) := by
  induction q generalizing v with
  | nil => exact ⟨_, rfl⟩
  | cons l q ih =>
    obtain ⟨w, hw⟩ := ih ((v.entries.get? l).getD empty)
    refine ⟨w, ?_⟩
    rw [List.cons_append, at?_cons_modifyAt_cons, if_pos rfl, hw, getD_empty_at?, at?_cons]

end Value

namespace Bindings

variable {name x : String} {p q : List String}

theorem get?_insert (b : Bindings) (name : String) (v : Value) (x : String) :
    (b.insert name v).get? x = if x = name then some v else b.get? x := by
  obtain ⟨bs⟩ := b
  change Entries.get? (insertSorted name v bs) x = if x = name then some v else Entries.get? bs x
  induction bs with
  | nil => rw [insertSorted, Entries.get?_cons]
  | cons e bs ih =>
    obtain ⟨y, w⟩ := e
    rw [insertSorted]
    split
    · rw [Entries.get?_cons]
    · split
      · rename_i heq
        subst heq
        simp only [Entries.get?_cons]
        split <;> rfl
      · rename_i hne
        rw [Entries.get?_cons, ih, Entries.get?_cons]
        by_cases hx : x = y
        · rw [if_pos hx, if_neg (hx ▸ Ne.symm hne), if_pos hx]
        · rw [if_neg hx, if_neg hx]

/-- A load from the variable that was stored to looks into the changed value. -/
theorem load_store_self (b : Bindings) (name : String) (p q : List String) (v : Value) :
    (b.store name p v).load name q =
      ((((b.get? name).getD .empty).modifyAt (fun _ ↦ v) p).at? q).getD .empty := by
  rw [load, store, get?_insert, if_pos rfl, Option.bind_some]

theorem load_store_append (b : Bindings) (name : String) (p r : List String) (v : Value) :
    (b.store name p v).load name (p ++ r) = (v.at? r).getD .empty := by
  obtain ⟨u, hu⟩ := Value.exists_at?_modifyAt_eq (fun _ ↦ v) ((b.get? name).getD .empty) p r
  rw [load_store_self, hu]

theorem load_store_of_parts (b : Bindings) (name : String) (v : Value) (h : Value.Parts p q) :
    (b.store name p v).load name q = b.load name q := by
  rw [load_store_self, Value.at?_modifyAt_of_parts _ _ h, load]
  cases q with
  | nil => exact absurd h (Value.not_parts_nil_right p)
  | cons k q => rw [Value.getD_empty_at?_cons]

theorem exists_load_store_eq_array (b : Bindings) (name k : String) (q r : List String)
    (v : Value) : ∃ es, (b.store name (q ++ k :: r) v).load name q = .array es := by
  obtain ⟨w, hw⟩ := Value.exists_at?_modifyAt (fun _ ↦ v) ((b.get? name).getD .empty) k q r
  exact ⟨_, by rw [load_store_self, hw, Option.getD_some]⟩

theorem load_store_of_ne (b : Bindings) (p q : List String) (v : Value) (h : x ≠ name) :
    (b.store name p v).load x q = b.load x q := by
  rw [load, store, get?_insert, if_neg h, load]

end Bindings

namespace Machine

/-- Values that can be indices: anything but arrays. -/
def Indices (vs : List Value) : Prop :=
  ∀ v ∈ vs, v.isArray = false

/-- While the variables are bound as in `b`, an element load through the indices puts `w` in their
place. -/
def Loads (m : Machine) (b : Bindings) (name : String) (indices : List Value) (w : Value) : Prop :=
  ∀ (s : State) (below : Stack Value), s.bindings = b →
    s.stack.items = indices.reverse ++ below.items → below.depth < m.limits.stackSize →
      m.exec (.loadElement name indices.length) s = .ok { s with stack := below.push w }

variable {m : Machine} {s : State} {below : Stack Value} {indices p q : List Value}

theorem keysOf_of_indices (h : Indices indices) :
    State.keysOf indices = .ok (indices.map Value.text) := by
  induction indices with
  | nil => rfl
  | cons v vs ih =>
    rw [State.keysOf, if_neg (by simp [h v List.mem_cons_self]),
      ih fun w hw ↦ h w (List.mem_cons_of_mem v hw)]
    rfl

theorem loads_load (m : Machine) (b : Bindings) (name : String) (h : Indices indices) :
    m.Loads b name indices (b.load name (indices.map Value.text)) := by
  rintro s below rfl hitems hroom
  obtain ⟨henough, hoperands, hdrop⟩ := State.operands_of_items hitems
  refine exec_of_result m henough ?_ hdrop hroom
  change m.result? _ _ (s.operands indices.length) = _
  rw [hoperands, result?, keysOf_of_indices h]
  rfl

theorem exec_storeElement {name : String} {v : Value} (h : Indices p)
    (hitems : s.stack.items = v :: (p.reverse ++ below.items)) :
    m.exec (.storeElement name p.length) s =
      .ok { s with stack := below, bindings := s.bindings.store name (p.map Value.text) v } := by
  have hpop : s.pop (.storeElement name p.length) = .ok (v, s.took 1) :=
    State.pop_eq_ok.2 ⟨by simp [Stack.top?, hitems], rfl⟩
  have hrest : (s.took 1).stack.items = p.reverse ++ below.items := by simp [hitems]
  obtain ⟨henough, hoperands, hdrop⟩ := State.operands_of_items hrest
  rw [exec, hpop, ok_bind]
  dsimp only
  rw [State.popMany_of_le _ henough, ok_bind, hoperands, keysOf_of_indices h]
  change Except.ok { s with stack := ((s.took 1).stack.drop p.length), bindings := _ } = _
  rw [hdrop]
  rfl

/-- **Load after store.** Let a value lie on top of indices. An element store takes them all. Then
whatever leads on from the stored path is looked up in the value; whatever parts from it is as it
was; every level above it is an array; and no other variable has changed. Indices count by their
texts. -/
theorem loads_after_store (m : Machine) (s : State) (below : Stack Value) (name : String)
    (p : List Value) (v : Value) (hp : Indices p)
    (hitems : s.stack.items = v :: (p.reverse ++ below.items)) :
    ∃ b, m.exec (.storeElement name p.length) s = .ok { s with stack := below, bindings := b } ∧
      ∀ q, Indices q →
        (∀ r, q.map Value.text = p.map Value.text ++ r →
          m.Loads b name q ((v.at? r).getD .empty)) ∧
        (Value.Parts (p.map Value.text) (q.map Value.text) →
          ∃ w, m.Loads s.bindings name q w ∧ m.Loads b name q w) ∧
        (∀ k r, p.map Value.text = q.map Value.text ++ k :: r →
          ∃ es, m.Loads b name q (.array es)) ∧
        ∀ x, x ≠ name → ∃ w, m.Loads s.bindings x q w ∧ m.Loads b x q w := by
  refine ⟨_, exec_storeElement hp hitems, fun q hq ↦ ⟨?_, ?_, ?_, ?_⟩⟩
  · intro r hr
    rw [← Bindings.load_store_append s.bindings name (p.map Value.text) r v, ← hr]
    exact loads_load m _ name hq
  · intro hparts
    refine ⟨_, loads_load m _ name hq, ?_⟩
    rw [← Bindings.load_store_of_parts s.bindings name v hparts]
    exact loads_load m _ name hq
  · intro k r hr
    obtain ⟨es, hes⟩ := Bindings.exists_load_store_eq_array s.bindings name k (q.map Value.text) r v
    refine ⟨es, ?_⟩
    rw [← hes, ← hr]
    exact loads_load m _ name hq
  · intro x hx
    refine ⟨_, loads_load m _ x hq, ?_⟩
    rw [← Bindings.load_store_of_ne s.bindings (p.map Value.text) (q.map Value.text) v hx]
    exact loads_load m _ x hq

/-- The variable `a` holds a string under `k` and a boolean under `l`. On the stack lies an array
that is to be stored under `k` and `x` in it. -/
def throughString : State where
  bindings := ⟨[("a", .array [("k", .string "old"), ("l", .boolean true)])]⟩
  stack := .ofItems [.array [("y", .number 1)], .string "x", .string "k"]

/-- The string under `k` gives way to an array, in which the new one is found, and the boolean under
`l` stays. -/
theorem loads_after_store_throughString :
    Indices [.string "k", .string "x"] ∧
    ∃ b, roomForTwo.exec (.storeElement "a" 2) throughString =
        .ok { throughString with stack := .empty, bindings := b } ∧
      roomForTwo.Loads b "a" [.string "k", .string "x", .string "y"] (.number 1) ∧
      (∃ w, roomForTwo.Loads throughString.bindings "a" [.string "l"] w ∧
        roomForTwo.Loads b "a" [.string "l"] w) ∧
      (∃ es, roomForTwo.Loads b "a" [.string "k"] (.array es)) ∧
      ∃ w, roomForTwo.Loads throughString.bindings "b" [] w ∧ roomForTwo.Loads b "b" [] w := by
  have hp : Indices [.string "k", .string "x"] := by simp [Indices, Value.isArray]
  obtain ⟨b, hexec, hloads⟩ := loads_after_store roomForTwo throughString .empty "a"
    [.string "k", .string "x"] (.array [("y", .number 1)]) hp rfl
  -- one path for each way to lie to the path of the store, and another variable
  obtain ⟨hbeyond, -⟩ :=
    hloads [.string "k", .string "x", .string "y"] (by simp [Indices, Value.isArray])
  obtain ⟨-, hbeside, -⟩ := hloads [.string "l"] (by simp [Indices, Value.isArray])
  obtain ⟨-, -, habove, -⟩ := hloads [.string "k"] (by simp [Indices, Value.isArray])
  obtain ⟨-, -, -, hother⟩ := hloads [] (by simp [Indices])
  exact ⟨hp, b, hexec, hbeyond ["y"] rfl, hbeside ⟨0, "k", "l", rfl, rfl, by decide⟩,
    habove "x" [] rfl, hother "b" (by decide)⟩

end Machine

end StackScript
