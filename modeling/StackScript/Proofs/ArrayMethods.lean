import StackScript.Proofs.DistinctKeys
import StackScript.Proofs.Elements
import StackScript.Proofs.WholeText

/-!
# Methods on arrays

The methods of the Array library go by the same keys and the same order as element loads do. An
index counts as its text everywhere, so that an array has an entry for an index, loses it and is
enumerated in terms of one list of keys.

An enumeration is an array again, under numbers from one on. These are written as naturals and
looked up as numbers, and both have the same digits below `2 ^ 53`, `Number.text_ofNat`. So a
program that counts visits every entry, `Library.getAllIndices_enumerates`.
-/

namespace StackScript

/-! ## Loads of one element -/

namespace Machine

theorem loads_entry (m : Machine) {b : Bindings} {name : String} {es : Entries Value}
    (hb : b.get? name = some (.array es)) (index : Value) (hindex : index.isArray = false) :
    m.Loads b name [index] ((es.get? index.text).getD .empty) := by
  have hloads := loads_load m b name (List.forall_mem_singleton.2 hindex : Indices [index])
  rw [Bindings.load, hb, Option.bind_some] at hloads
  simpa [Value.at?, Value.entries] using hloads

end Machine

namespace Library

/-! ## Numbered keys -/

theorem keys_numbered (first : ℕ) (ks : List String) :
    (numbered first ks).keys = (List.range' first ks.length).map toString := by
  induction ks generalizing first with
  | nil => rfl
  | cons k ks ih => simp [numbered, Entries.keys_cons, List.range'_succ, ih]

theorem map_snd_numbered (first : ℕ) (ks : List String) :
    (numbered first ks).map (·.2) = ks.map .string := by
  induction ks generalizing first with
  | nil => rfl
  | cons k ks ih => simp [numbered, ih]

theorem getElem?_numbered (first : ℕ) (ks : List String) (i : ℕ) :
    (numbered first ks)[i]? = ks[i]?.map fun k ↦ (toString (first + i), .string k) := by
  induction ks generalizing first i with
  | nil => simp [numbered]
  | cons k ks ih =>
    cases i with
    | zero => simp [numbered]
    | succ i => simp [numbered, ih, Nat.add_assoc, Nat.add_comm 1 i]

theorem nodup_keys_numbered (first : ℕ) (ks : List String) : (numbered first ks).keys.Nodup :=
  (Value.distinctKeys_array_iff.1 (distinctKeys_numbered first ks)).1

/-- No number is written over by another one. -/
theorem ofPairs_numbered (first : ℕ) (ks : List String) :
    Entries.ofPairs (numbered first ks) = numbered first ks :=
  Entries.ofPairs_of_nodup (nodup_keys_numbered first ks)

/-- Each number leads to its own key. -/
theorem get?_numbered {first i : ℕ} {ks : List String} {k : String} (h : ks[i]? = some k) :
    (numbered first ks).get? (toString (first + i)) = some (.string k) := by
  have hentry : (numbered first ks)[i]? = some (toString (first + i), .string k) := by
    rw [getElem?_numbered, h, Option.map_some]
  exact Entries.get?_of_mem (nodup_keys_numbered first ks) (List.mem_of_getElem? hentry)

theorem call_getAllIndices (es : Entries Value) :
    array.call "GetAllIndices" [.array es] = .ok (some (.array (numbered 1 es.keys))) := by
  change Except.ok (some (Value.array (Entries.ofPairs (numbered 1 es.keys)))) = _
  rw [ofPairs_numbered]

/-! ## Enumeration -/

/-- **Indices are enumerated.** An array with fewer than `2 ^ 53` entries is enumerated under the
texts of the numbers from one on, of which no two are the same. Through the number `i` the `i`-th
key is loaded from the enumeration, and through that key the `i`-th value from the array. -/
theorem getAllIndices_enumerates (es : Entries Value) (hdistinct : es.keys.Nodup)
    (hlength : es.length < 2 ^ 53) :
    ∃ r : Entries Value, array.call "GetAllIndices" [.array es] = .ok (some (.array r)) ∧
      r.length = es.length ∧ r.keys = (List.range' 1 es.length).map toString ∧
      Entries.ofPairs r = r ∧
      array.call "GetItemCount" [.array es] = .ok (some (.number (Float.ofNat es.length))) ∧
      (∀ i k v, es[i]? = some (k, v) → ∀ (m : Machine) (b : Bindings) (name : String),
        (b.get? name = some (.array r) →
          m.Loads b name [.number (Float.ofNat (i + 1))] (.string k)) ∧
        (b.get? name = some (.array es) → m.Loads b name [.string k] v)) ∧
      ∀ i < 2 ^ 53, Number.text (Float.ofNat i) = toString i := by
  have hkeys : es.keys.length = es.length := List.length_map _
  have hnumbered := keys_numbered 1 es.keys
  rw [hkeys] at hnumbered
  refine ⟨numbered 1 es.keys, call_getAllIndices es, ?_, hnumbered, ofPairs_numbered 1 _, rfl, ?_,
    fun i ↦ Number.text_ofNat⟩
  · simpa [Entries.keys] using congrArg List.length hnumbered
  · intro i k v hentry m b name
    have hi : i < es.length := (List.getElem?_eq_some_iff.1 hentry).1
    have hkey : es.keys[i]? = some k := by simp [Entries.keys, hentry]
    constructor
    · intro hr
      -- the index is written as a number here and was as a natural in the enumeration
      have htext : (Value.number (Float.ofNat (i + 1))).text = toString (1 + i) := by
        rw [Nat.add_comm 1 i]
        exact Number.text_ofNat (by omega)
      have hloads := m.loads_entry hr (.number (Float.ofNat (i + 1))) rfl
      rwa [htext, get?_numbered hkey, Option.getD_some] at hloads
    · intro ha
      have hloads := m.loads_entry ha (.string k) rfl
      have hvalue : es.get? k = some v :=
        Entries.get?_of_mem hdistinct (List.mem_of_getElem? hentry)
      rwa [show (Value.string k).text = k from rfl, hvalue, Option.getD_some] at hloads

/-- Two entries, of which the second has a number for a key that is not its own. -/
def twoEntries : Entries Value :=
  [("b", .number 7), ("1", .boolean true)]

/-- The second index is `1`, under which the boolean lies. -/
theorem getAllIndices_enumerates_twoEntries :
    twoEntries.keys.Nodup ∧ twoEntries.length < 2 ^ 53 ∧ ∃ r : Entries Value,
      array.call "GetAllIndices" [.array twoEntries] = .ok (some (.array r)) ∧
      Machine.roomForTwo.Loads ⟨[("r", .array r)]⟩ "r" [.number 2] (.string "1") ∧
      Machine.roomForTwo.Loads ⟨[("a", .array twoEntries)]⟩ "a" [.string "1"] (.boolean true) := by
  have hdistinct : twoEntries.keys.Nodup := by decide
  have hlength : twoEntries.length < 2 ^ 53 := by decide
  obtain ⟨r, hr, -, -, -, -, hloads, -⟩ := getAllIndices_enumerates twoEntries hdistinct hlength
  have hsecond := hloads 1 "1" (.boolean true) rfl Machine.roomForTwo
  exact ⟨hdistinct, hlength, r, hr, (hsecond ⟨[("r", .array r)]⟩ "r").1 rfl,
    (hsecond ⟨[("a", .array twoEntries)]⟩ "a").2 rfl⟩

/-! ## The methods among themselves -/

/-- A value that is no array has no entries, and nothing else of it counts. -/
theorem call_array_entries (method : String) (v : Value) (rest : List Value) :
    array.call method (v :: rest) = array.call method (.array v.entries :: rest) := by
  have hmethods : ∀ e ∈ [("GetItemCount", getItemCount), ("ContainsIndex", containsIndex),
      ("GetAllIndices", getAllIndices), ("RemoveValue", removeValue)],
      e.2 (v :: rest) = e.2 (.array v.entries :: rest) := by
    simp only [List.forall_mem_cons, getItemCount, containsIndex, getAllIndices, removeValue]
    rcases rest with _ | ⟨a, _ | ⟨b, rest⟩⟩ <;> simp [Method.unary, Method.binary, Value.entries]
  rw [array, ofMethods]
  dsimp only
  split
  · rename_i f hf
    exact hmethods (method, f) (Entries.mem_of_get?_eq_some hf)
  · rfl

theorem call_removeValue {es : Entries Value} (hdistinct : es.keys.Nodup) (k : Value) :
    array.call "RemoveValue" [.array es, k] = .ok (some (.array (es.erase k.text))) := by
  change Except.ok (some (Value.array (es.remove k.text).2)) = _
  rw [Entries.remove_eq hdistinct]

theorem mem_map_snd_numbered {s : String} (first : ℕ) (ks : List String) :
    Value.string s ∈ (numbered first ks).map (·.2) ↔ s ∈ ks := by
  rw [map_snd_numbered]
  simp

end Library

end StackScript
