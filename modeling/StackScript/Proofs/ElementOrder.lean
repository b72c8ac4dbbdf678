import StackScript.Proofs.Elements

/-!
# Element stores and the order of entries

A store changes one entry at each level along its path. The entry keeps its place if the key was
there and is the last one if it was not, and a level that was no array starts with it. This is
`Value.Rewritten`, and a store does it at every level, `Bindings.exists_rewritten`.

As a key keeps its place, nothing is left of a store below a path or at it once the path is stored
to, not even in the order of entries, `Bindings.store_store`.
-/

namespace StackScript

namespace Value

variable {k : String} {w : Value}

/-- What becomes of a level when `w` is put under the key `k` in it. -/
inductive Rewritten (k : String) (w : Value) : Option Value → List (String × Value) → Prop
  /-- The key was there. -/
  | replaced {before after : List (String × Value)} {old : Value}
      (hfirst : k ∉ Entries.keys before) :
      Rewritten k w (some (.array (before ++ (k, old) :: after))) (before ++ (k, w) :: after)
  /-- The key was not there. -/
  | appended {es : List (String × Value)} (hnew : k ∉ Entries.keys es) :
      Rewritten k w (some (.array es)) (es ++ [(k, w)])
  /-- The level was missing or no array. -/
  | started {level : Option Value} (hlevel : ∀ es, level ≠ some (.array es)) :
      Rewritten k w level [(k, w)]

theorem rewritten_insert (k : String) (w : Value) (level : Option Value) :
    Rewritten k w level ((level.getD empty).entries.insert k w) := by
  cases level with
  | none => exact .started fun es h ↦ by cases h
  | some v =>
    cases v with
    | array es =>
      by_cases hk : k ∈ Entries.keys es
      · obtain ⟨before, old, after, hfirst, hes, hinsert⟩ := Entries.exists_insert_eq_of_mem hk w
        change Rewritten k w (some (.array es)) (Entries.insert es k w)
        rw [hinsert, hes]
        exact .replaced hfirst
      · change Rewritten k w (some (.array es)) (Entries.insert es k w)
        rw [Entries.insert_of_not_mem hk]
        exact .appended hk
    | number | string | boolean => exact .started fun es h ↦ by cases h

theorem at?_append (v : Value) (p q : List String) : v.at? (p ++ q) = (v.at? p).bind (·.at? q) := by
  induction p generalizing v with
  | nil => rfl
  | cons k p ih =>
    rw [List.cons_append, at?_cons, at?_cons, Option.bind_assoc]
    exact congrArg _ (funext ih)

/-- A change along a path is lost in a later one above it. -/
theorem modifyAt_modifyAt (f : Value → Value) (v w : Value) (q r : List String) :
    (v.modifyAt f (q ++ r)).modifyAt (fun _ ↦ w) q = v.modifyAt (fun _ ↦ w) q := by
  induction q generalizing v with
  | nil => rfl
  | cons k q ih =>
    -- the first change has left an array with the key `k` in it, whatever was there
    rw [List.cons_append, modifyAt, modifyAt, modifyAt, entries, Entries.get?_insert, if_pos rfl,
      Option.getD_some, ih, Entries.insert_insert]

end Value

namespace Bindings

theorem insertSorted_insertSorted (name : String) (v w : Value) (bs : List (String × Value)) :
    insertSorted name w (insertSorted name v bs) = insertSorted name w bs := by
  have hself : ∀ rest, insertSorted name w ((name, v) :: rest) = (name, w) :: rest := by
    intro rest
    rw [insertSorted, if_neg (String.lt_irrefl name), if_pos rfl]
  induction bs with
  | nil => exact hself []
  | cons e bs ih =>
    obtain ⟨x, old⟩ := e
    rw [insertSorted, insertSorted]
    by_cases hlt : name < x
    · rw [if_pos hlt, if_pos hlt, hself]
    · rw [if_neg hlt, if_neg hlt]
      by_cases hx : name = x
      · rw [if_pos hx, if_pos hx, hself]
      · rw [if_neg hx, if_neg hx, insertSorted, if_neg hlt, if_neg hx, ih]

/-- The second of two stores wins if it is not below the first. -/
theorem store_store (b : Bindings) (name : String) (q r : List String) (u v : Value) :
    (b.store name (q ++ r) u).store name q v = b.store name q v := by
  rw [store, store, get?_insert, if_pos rfl, Option.getD_some, Value.modifyAt_modifyAt, store]
  exact congrArg Bindings.mk (insertSorted_insertSorted name _ _ b.toList)

/-- The value under a path of keys in a variable, if there is one. -/
def find? (b : Bindings) (name : String) (path : List String) : Option Value :=
  (b.get? name).bind (·.at? path)

theorem find?_store (b : Bindings) (name : String) (p q : List String) (v : Value) :
    (b.store name p v).find? name q =
      (((b.get? name).getD .empty).modifyAt (fun _ ↦ v) p).at? q := by
  rw [find?, store, get?_insert, if_pos rfl, Option.bind_some]

theorem find?_store_self (b : Bindings) (name : String) (p : List String) (v : Value) :
    (b.store name p v).find? name p = some v := by
  obtain ⟨u, hu⟩ := Value.exists_at?_modifyAt_eq (fun _ ↦ v) ((b.get? name).getD .empty) p []
  rw [List.append_nil] at hu
  rw [find?_store, hu]
  rfl

theorem exists_rewritten (b : Bindings) (name k : String) (q r : List String) (v : Value) :
    ∃ es w, (b.store name (q ++ k :: r) v).find? name q = some (.array es) ∧
      (b.store name (q ++ k :: r) v).find? name (q ++ [k]) = some w ∧
      Value.Rewritten k w (b.find? name q) es := by
  obtain ⟨w, hw⟩ := Value.exists_at?_modifyAt (fun _ ↦ v) ((b.get? name).getD .empty) k q r
  rw [Value.getD_empty_at?] at hw
  refine ⟨_, w, (b.find?_store name _ q v).trans hw, ?_,
    Value.rewritten_insert k w (b.find? name q)⟩
  rw [find?_store, Value.at?_append, hw, Option.bind_some, Value.at?_cons]
  change (Entries.get? (Entries.insert _ k w) k).bind _ = some w
  rw [Entries.get?_insert, if_pos rfl]
  rfl

end Bindings

namespace Machine

/-- While the variables are bound as in `b`, an element store of `v` through the indices takes both
off the stack and leaves the variables bound as in `b'`. -/
def Stores (m : Machine) (b : Bindings) (name : String) (indices : List Value) (v : Value)
    (b' : Bindings) : Prop :=
  ∀ (s : State) (below : Stack Value), s.bindings = b →
    s.stack.items = v :: (indices.reverse ++ below.items) →
      m.exec (.storeElement name indices.length) s = .ok { s with stack := below, bindings := b' }

theorem stores_store (m : Machine) (b : Bindings) (name : String) {indices : List Value}
    (h : Indices indices) (v : Value) :
    m.Stores b name indices v (b.store name (indices.map Value.text) v) := by
  rintro s below rfl hitems
  exact exec_storeElement h hitems

theorem exec_storeVariable {m : Machine} {s : State} {below : Stack Value} {name : String}
    {v : Value} (hitems : s.stack.items = v :: below.items) : m.exec (.storeVariable name) s =
      .ok { s with stack := below, bindings := s.bindings.insert name v } := by
  have hpop : s.pop (.storeVariable name) = .ok (v, s.took 1) :=
    State.pop_eq_ok.2 ⟨by simp [Stack.top?, hitems], rfl⟩
  have hbelow : (s.took 1).stack = below := Stack.ext (by simp [hitems])
  rw [exec, hpop, ok_bind, ← hbelow]
  rfl

/-- **Element stores and the order of entries.** At each level along the path a store rewrites the
entry under the key of that level. A store through fewer of the indices, or through the same ones,
then has the effect that it would have had without the first; through none of them, it is a store to
the variable. -/
theorem store_rewrites_levels (m : Machine) (b : Bindings) (name : String) (p : List Value)
    (v : Value) (hp : Indices p) :
    ∃ b', m.Stores b name p v b' ∧ (∀ x, x ≠ name → b'.get? x = b.get? x) ∧
      b'.find? name (p.map Value.text) = some v ∧
      (∀ q k r, p.map Value.text = q ++ k :: r →
        ∃ es w, b'.find? name q = some (.array es) ∧ b'.find? name (q ++ [k]) = some w ∧
          Value.Rewritten k w (b.find? name q) es) ∧
      (∀ q u, Indices q → q.map Value.text <+: p.map Value.text →
        ∃ c, m.Stores b name q u c ∧ m.Stores b' name q u c) ∧
      ∀ (s : State) (u : Value) (below : Stack Value), s.stack.items = u :: below.items →
        m.exec (.storeVariable name) s = m.exec (.storeElement name 0) s := by
  refine ⟨_, stores_store m b name hp v, fun x hx ↦ ?_, b.find?_store_self name _ v, ?_, ?_, ?_⟩
  · rw [Bindings.store, Bindings.get?_insert, if_neg hx]
  · intro q k r hpath
    rw [hpath]
    exact b.exists_rewritten name k q r v
  · rintro q u hq ⟨r, hr⟩
    refine ⟨_, stores_store m b name hq u, ?_⟩
    rw [← hr, ← b.store_store name _ r v u]
    exact stores_store m _ name hq u
  · intro s u below hitems
    have hnone : Indices [] := List.forall_mem_nil _
    exact (exec_storeVariable hitems).trans (exec_storeElement hnone hitems).symm

/-- A number is stored below the string under `k`, and then another one in place of both. -/
theorem store_rewrites_levels_throughString :
    Indices [.string "k", .string "x"] ∧ Indices [.string "k"] ∧
    ∃ b', roomForTwo.Stores throughString.bindings "a" [.string "k", .string "x"] (.number 1) b' ∧
      (∃ es w, b'.find? "a" [] = some (.array es) ∧ b'.find? "a" ["k"] = some w ∧
        Value.Rewritten "k" w (throughString.bindings.find? "a" []) es) ∧
      ∃ c, roomForTwo.Stores throughString.bindings "a" [.string "k"] (.number 2) c ∧
        roomForTwo.Stores b' "a" [.string "k"] (.number 2) c := by
  have hp : Indices [.string "k", .string "x"] := by simp [Indices, Value.isArray]
  have hq : Indices [.string "k"] := by simp [Indices, Value.isArray]
  obtain ⟨b', hstores, -, -, hlevels, hlost, -⟩ := store_rewrites_levels roomForTwo
    throughString.bindings "a" [.string "k", .string "x"] (.number 1) hp
  exact ⟨hp, hq, b', hstores, hlevels [] "k" ["x"] rfl,
    hlost [.string "k"] (.number 2) hq ⟨["x"], rfl⟩⟩

end Machine

end StackScript
