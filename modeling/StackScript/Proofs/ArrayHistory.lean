import Mathlib.Data.Finset.Card
import Mathlib.Data.Set.Card
import StackScript.Proofs.Elements
import StackScript.Value.Array

/-!
# Arrays remember the order of their history

An array is a map that lists its keys in the order in which they came. This is said here about any
sequence of operations, from the operations alone. What lies under a key is settled by the last
operation on it. The keys that have always been there come first, in the order of the beginning, and
then those that came later, by the time at which each of them was last missing.

One operation keeps the keys that it does not take away, in order, and adds at most one behind them,
`ArrayOperation.exists_keys_after`. That is all that the induction over a history needs to know,
`ArrayOperation.Ordered.concat`.
-/

namespace StackScript

namespace Entries

variable {α : Type} {es : Entries α}

theorem exchange_eq (es : Entries α) (key : String) (value : α) :
    es.exchange key value = (es.get? key, es.insert key value) := by
  induction es with
  | nil => rfl
  | cons e es ih =>
    obtain ⟨x, v⟩ := e
    rw [exchange, insert, get?_cons]
    by_cases hx : x = key
    · simp [hx]
    · simp [hx, Ne.symm hx, ih]

end Entries

namespace ArrayOperation

variable {es : Entries Value} {ops : List ArrayOperation} {op : ArrayOperation} {k : String}

/-! ## One operation -/

/-- The key whose value the operation may change. -/
def key? : ArrayOperation → Option String
  | insert key _ | remove key | child key _ => some key
  | get _ | contains _ | count => none

/-- What the operation makes of the value under its key: a child is the array that was there, or a
fresh one, with the next operation done to it. -/
def leaves : ArrayOperation → Option Value → Option Value
  | insert _ v, _ => some v
  | remove _, _ => none
  | child _ next, old => some (.array (next.after (old.getD .empty).entries))
  | get _, old | contains _, old | count, old => old

theorem after_insert (es : Entries Value) (key : String) (v : Value) :
    (insert key v).after es = es.insert key v := by
  simp [after, perform, Entries.exchange_eq]

theorem after_remove (h : es.keys.Nodup) (key : String) :
    (remove key).after es = es.erase key := by
  simp [after, perform, Entries.remove_eq h]

theorem after_child (es : Entries Value) (key : String) (next : ArrayOperation) :
    (child key next).after es =
      es.insert key (.array (next.after ((es.get? key).getD .empty).entries)) := rfl

/-- An operation reads, writes one entry or erases one. -/
theorem after_cases (h : es.keys.Nodup) (op : ArrayOperation) :
    (op.key? = none ∧ op.after es = es) ∨
    (∃ key v, op.key? = some key ∧ op.leaves (es.get? key) = some v ∧
      op.after es = es.insert key v) ∨
    ∃ key, op.key? = some key ∧ op.leaves (es.get? key) = none ∧ op.after es = es.erase key := by
  cases op with
  | get | contains | count => exact .inl ⟨rfl, rfl⟩
  | insert key v => exact .inr (.inl ⟨key, v, rfl, rfl, after_insert es key v⟩)
  | child key next => exact .inr (.inl ⟨key, _, rfl, rfl, after_child es key next⟩)
  | remove key => exact .inr (.inr ⟨key, rfl, rfl, after_remove h key⟩)

theorem get?_after (h : es.keys.Nodup) (op : ArrayOperation) (k : String) :
    (op.after es).get? k = if op.key? = some k then op.leaves (es.get? k) else es.get? k := by
  obtain ⟨hkey, hafter⟩ | ⟨key, v, hkey, hleaves, hafter⟩ | ⟨key, hkey, hleaves, hafter⟩ :=
    after_cases h op
  · simp [hkey, hafter]
  · rw [hkey, hafter, Entries.get?_insert]
    by_cases hk : k = key
    · simp [hk, hleaves]
    · simp [hk, Ne.symm hk]
  · rw [hkey, hafter, Entries.get?_erase]
    by_cases hk : k = key
    · simp [hk, hleaves]
    · simp [hk, Ne.symm hk]

theorem nodup_keys_after (h : es.keys.Nodup) (op : ArrayOperation) : (op.after es).keys.Nodup := by
  obtain ⟨-, hafter⟩ | ⟨key, v, -, -, hafter⟩ | ⟨key, -, -, hafter⟩ := after_cases h op <;>
    rw [hafter]
  · exact h
  · exact Entries.nodup_keys_insert h key v
  · exact Entries.nodup_keys_erase h key

def Present (es : Entries Value) (k : String) : Prop :=
  (es.get? k).isSome = true

instance (es : Entries Value) : DecidablePred (Present es) :=
  fun k ↦ inferInstanceAs (Decidable ((es.get? k).isSome = true))

theorem filter_present_self (es : Entries Value) : es.keys.filter (Present es) = es.keys :=
  List.filter_eq_self.2 fun _ hk ↦ decide_eq_true (Entries.mem_keys_iff.1 hk)

/-- What is left of the keys keeps its order, and a key that comes goes to the end. -/
theorem exists_keys_after (h : es.keys.Nodup) (op : ArrayOperation) : ∃ new : Option String,
    (op.after es).keys = es.keys.filter (Present (op.after es)) ++ new.toList ∧
      ∀ k ∈ new, ¬Present es k := by
  obtain ⟨-, hafter⟩ | ⟨key, v, -, -, hafter⟩ | ⟨key, -, -, hafter⟩ := after_cases h op <;>
    rw [hafter]
  · exact ⟨none, by simp [filter_present_self], by simp⟩
  · -- writing takes no key away
    have hstays : es.keys.filter (Present (es.insert key v)) = es.keys := by
      refine List.filter_eq_self.2 fun k hk ↦ ?_
      have := Entries.mem_keys_iff.1 hk
      by_cases hkey : k = key <;> simp [Present, Entries.get?_insert, hkey, this]
    by_cases hkey : key ∈ es.keys
    · exact ⟨none, by simp [hstays, Entries.keys_insert_of_mem hkey], by simp⟩
    · refine ⟨some key, ?_, ?_⟩
      · rw [hstays, Entries.insert_of_not_mem hkey]
        simp [Entries.keys]
      · simpa [Present, Entries.mem_keys_iff] using hkey
  · refine ⟨none, ?_, by simp⟩
    rw [Entries.keys_erase, Option.toList_none, List.append_nil]
    refine List.filter_congr fun k hk ↦ ?_
    have := Entries.mem_keys_iff.1 hk
    by_cases hkey : k = key <;> simp [Present, Entries.get?_erase, hkey, this]

/-! ## Histories -/

theorem afterAll_concat (ops : List ArrayOperation) (op : ArrayOperation) (es : Entries Value) :
    afterAll (ops ++ [op]) es = op.after (afterAll ops es) := by
  simp [afterAll]

theorem nodup_keys_afterAll (h : es.keys.Nodup) (ops : List ArrayOperation) :
    (afterAll ops es).keys.Nodup := by
  induction ops using List.reverseRecOn with
  | nil => exact h
  | append_singleton ops op ih =>
    rw [afterAll_concat]
    exact nodup_keys_after ih op

/-! ### Values -/

theorem get?_afterAll_of_forall_ne (h : es.keys.Nodup) (hops : ∀ op ∈ ops, op.key? ≠ some k) :
    (afterAll ops es).get? k = es.get? k := by
  induction ops using List.reverseRecOn with
  | nil => rfl
  | append_singleton ops op ih =>
    rw [List.forall_mem_append, List.forall_mem_singleton] at hops
    rw [afterAll_concat, get?_after (nodup_keys_afterAll h ops), if_neg hops.2, ih hops.1]

/-- The last operation on a key settles its value. -/
theorem get?_afterAll_of_last {before later : List ArrayOperation} (h : es.keys.Nodup)
    (hop : op.key? = some k) (hlater : ∀ o ∈ later, o.key? ≠ some k) :
    (afterAll (before ++ op :: later) es).get? k = op.leaves ((afterAll before es).get? k) := by
  have hsplit : afterAll (before ++ op :: later) es =
      afterAll later (op.after (afterAll before es)) := by
    simp [afterAll]
  have hbefore := nodup_keys_afterAll h before
  rw [hsplit, get?_afterAll_of_forall_ne (nodup_keys_after hbefore op) hlater,
    get?_after hbefore, if_pos hop]

/-! ### Order -/

/-- The entries after the first `t` operations. -/
def entriesAt (es : Entries Value) (ops : List ArrayOperation) (t : ℕ) : Entries Value :=
  afterAll (ops.take t) es

/-- The key was never missing. -/
def Kept (es : Entries Value) (ops : List ArrayOperation) (k : String) : Prop :=
  ∀ t ≤ ops.length, Present (entriesAt es ops t) k

/-- The key was missing after the first `t` operations, and has been there ever since. -/
def CameAt (es : Entries Value) (ops : List ArrayOperation) (k : String) (t : ℕ) : Prop :=
  t < ops.length ∧ ¬Present (entriesAt es ops t) k ∧
    ∀ u, t < u → u ≤ ops.length → Present (entriesAt es ops u) k

theorem entriesAt_length (es : Entries Value) (ops : List ArrayOperation) :
    entriesAt es ops ops.length = afterAll ops es := by
  rw [entriesAt, List.take_length]

theorem entriesAt_concat {t : ℕ} (ht : t ≤ ops.length) (op : ArrayOperation) :
    entriesAt es (ops ++ [op]) t = entriesAt es ops t := by
  rw [entriesAt, List.take_append_of_le_length ht, entriesAt]

theorem entriesAt_concat_length (es : Entries Value) (ops : List ArrayOperation)
    (op : ArrayOperation) :
    entriesAt es (ops ++ [op]) (ops.length + 1) = op.after (afterAll ops es) := by
  rw [← afterAll_concat, ← entriesAt_length, List.length_append, List.length_singleton]

theorem kept_concat_iff : Kept es (ops ++ [op]) k ↔
    Kept es ops k ∧ Present (op.after (afterAll ops es)) k := by
  rw [← entriesAt_concat_length]
  simp only [Kept, List.length_append, List.length_singleton]
  constructor
  · intro h
    refine ⟨fun t ht ↦ ?_, h _ le_rfl⟩
    rw [← entriesAt_concat ht op]
    exact h t (by omega)
  · rintro ⟨hkept, hlast⟩ t ht
    rcases Nat.le_succ_iff.1 ht with ht | rfl
    · rw [entriesAt_concat ht]
      exact hkept t ht
    · exact hlast

theorem cameAt_concat_iff {t : ℕ} : CameAt es (ops ++ [op]) k t ↔
    (CameAt es ops k t ∨ t = ops.length ∧ ¬Present (afterAll ops es) k) ∧
      Present (op.after (afterAll ops es)) k := by
  rw [← entriesAt_concat_length, ← entriesAt_length es ops]
  simp only [CameAt, List.length_append, List.length_singleton]
  constructor
  · rintro ⟨ht, hmissing, hsince⟩
    refine ⟨?_, hsince _ ht le_rfl⟩
    rw [entriesAt_concat (by omega)] at hmissing
    rcases Nat.lt_succ_iff_lt_or_eq.1 ht with ht | rfl
    · refine .inl ⟨ht, hmissing, fun u htu hu ↦ ?_⟩
      rw [← entriesAt_concat hu op]
      exact hsince u htu (by omega)
    · exact .inr ⟨rfl, hmissing⟩
  · -- the key has been there for longer, or the last operation brought it
    rintro ⟨⟨ht, hmissing, hsince⟩ | ⟨rfl, hmissing⟩, hlast⟩
    · refine ⟨by omega, by rwa [entriesAt_concat ht.le], fun u htu hu ↦ ?_⟩
      rcases Nat.le_succ_iff.1 hu with hu | rfl
      · rw [entriesAt_concat hu]
        exact hsince u htu hu
      · exact hlast
    · refine ⟨by omega, by rwa [entriesAt_concat le_rfl], fun u htu hu ↦ ?_⟩
      rwa [show u = ops.length + 1 by omega]

/-- The keys at the end of a history, in two parts: the old ones as they stood in the beginning, and
the new ones by the time at which they came. -/
structure Ordered (es : Entries Value) (ops : List ArrayOperation) (old new : List String) :
    Prop where
  keys : (afterAll ops es).keys = old ++ new
  sublist : old.Sublist es.keys
  mem_old : ∀ k, k ∈ old ↔ Kept es ops k
  mem_new : ∀ k, k ∈ new ↔ ∃ t, CameAt es ops k t
  sorted : new.Pairwise fun k l ↦ ∀ t u, CameAt es ops k t → CameAt es ops l u → t < u

theorem ordered_nil (es : Entries Value) : Ordered es [] es.keys [] where
  keys := (List.append_nil _).symm
  sublist := .refl _
  mem_old k := by simp [Kept, entriesAt, afterAll, Present, Entries.mem_keys_iff]
  mem_new k := by simp [CameAt]
  sorted := .nil

theorem CameAt.present {t : ℕ} (h : CameAt es ops k t) : Present (afterAll ops es) k := by
  rw [← entriesAt_length]
  exact h.2.2 _ h.1 le_rfl

theorem Ordered.concat {old new : List String} (h : Ordered es ops old new) (hes : es.keys.Nodup)
    (op : ArrayOperation) : ∃ old new, Ordered es (ops ++ [op]) old new := by
  obtain ⟨arrived, hkeys, hmissing⟩ := exists_keys_after (nodup_keys_afterAll hes ops) op
  have hpresent : ∀ k, Present (afterAll ops es) k ↔ k ∈ old ++ new := by
    intro k
    rw [← h.keys, Entries.mem_keys_iff, Present]
  have harrived : ∀ k, k ∈ arrived.toList ↔
      ¬Present (afterAll ops es) k ∧ Present (op.after (afterAll ops es)) k := by
    intro k
    have hmem : Present (op.after (afterAll ops es)) k ↔ _ := Entries.mem_keys_iff.symm
    rw [hkeys, List.mem_append, List.mem_filter] at hmem
    constructor
    · intro hk
      exact ⟨hmissing k (Option.mem_toList.1 hk), hmem.2 (.inr hk)⟩
    · rintro ⟨hnot, hk⟩
      exact (hmem.1 hk).resolve_left fun hold ↦ hnot (Entries.mem_keys_iff.1 hold.1)
  refine ⟨old.filter (Present (op.after (afterAll ops es))),
    new.filter (Present (op.after (afterAll ops es))) ++ arrived.toList, ?_, ?_, ?_, ?_, ?_⟩
  · rw [afterAll_concat, hkeys, h.keys, List.filter_append, List.append_assoc]
  · exact List.filter_sublist.trans h.sublist
  · intro k
    rw [List.mem_filter, h.mem_old, decide_eq_true_iff, kept_concat_iff]
  · intro k
    simp only [List.mem_append, List.mem_filter, h.mem_new, decide_eq_true_iff, harrived,
      cameAt_concat_iff]
    constructor
    · rintro (⟨⟨t, ht⟩, hlast⟩ | ⟨hnot, hlast⟩)
      · exact ⟨t, .inl ht, hlast⟩
      · exact ⟨ops.length, .inr ⟨rfl, hnot⟩, hlast⟩
    · rintro ⟨t, ht | ⟨-, hnot⟩, hlast⟩
      · exact .inl ⟨⟨t, ht⟩, hlast⟩
      · exact .inr ⟨hnot, hlast⟩
  · -- who was there before keeps its time, and who was not has the last one
    have hbefore : ∀ k ∈ new, ∀ t, CameAt es (ops ++ [op]) k t → CameAt es ops k t := by
      intro k hk t ht
      rw [cameAt_concat_iff] at ht
      exact ht.1.resolve_right fun hnot ↦
        hnot.2 ((hpresent k).2 (List.mem_append_right old hk))
    rw [List.pairwise_append]
    refine ⟨?_, by cases arrived <;> simp, ?_⟩
    · refine (h.sorted.imp_of_mem fun hk hl hsorted t u ht hu ↦ ?_).filter _
      exact hsorted t u (hbefore _ hk t ht) (hbefore _ hl u hu)
    · intro k hk l hl t u ht hu
      have hlt := (hbefore k (List.mem_filter.1 hk).1 t ht).1
      rw [cameAt_concat_iff] at hu
      have hlast := hu.1.resolve_left fun hu ↦ ((harrived l).1 hl).1 hu.present
      rwa [hlast.1]

theorem exists_ordered (h : es.keys.Nodup) (ops : List ArrayOperation) :
    ∃ old new, Ordered es ops old new := by
  induction ops using List.reverseRecOn with
  | nil => exact ⟨_, _, ordered_nil es⟩
  | append_singleton ops op ih =>
    obtain ⟨old, new, hordered⟩ := ih
    exact hordered.concat h op

/-! ## What an array is -/

theorem length_eq_ncard (h : es.keys.Nodup) : es.length = {k | Present es k}.ncard := by
  have hset : {k | Present es k} = (es.keys.toFinset : Set String) := by
    ext k
    simp [Present, Entries.mem_keys_iff]
  rw [hset, Set.ncard_coe_finset, List.toFinset_card_of_nodup h, Entries.keys, List.length_map]

/-- Going down along a path and writing there is how an element is stored. -/
theorem array_after_along_insert (u : Value) (path : List String) (key : String) (v : Value) :
    .array ((along path (insert key v)).after u.entries) =
      u.modifyAt (fun _ ↦ v) (path ++ [key]) := by
  induction path generalizing u with
  | nil => exact congrArg Value.array (after_insert u.entries key v)
  | cons k path ih =>
    rw [List.cons_append, Value.modifyAt, ← ih]
    rfl

/-- The first key is overwritten, the second removed and written again behind a third, and under the
third there is no array yet when one is gone down into. -/
def sampleHistory : List ArrayOperation :=
  [insert "a" (.string "x"), remove "b", insert "c" (.boolean true), insert "b" (.string "y"),
    child "c" (insert "d" (.string "z"))]

end ArrayOperation

end StackScript
