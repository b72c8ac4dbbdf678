import StackScript.Entries

/-!
# Laws of ordered entries

What writing and removing do to look-ups, to the list of keys and to the entries themselves. Entries
that were put together by writing hold every key once, since writing keeps distinct keys distinct.
Then removing a key is erasing whatever lies under it.
-/

namespace StackScript.Entries

variable {α : Type} {es : Entries α} {key : String} {value : α}

/-! ## Look-ups -/

theorem get?_cons (x : String) (v : α) (es : Entries α) (key : String) :
    get? ((x, v) :: es) key = if key = x then some v else es.get? key := by
  rw [get?, List.lookup_cons]
  by_cases h : key = x
  · rw [if_pos h, beq_iff_eq.2 h]
  · rw [if_neg h, beq_false_of_ne h]
    rfl

theorem mem_of_get?_eq_some (h : es.get? key = some value) : (key, value) ∈ es := by
  obtain ⟨before, after, rfl, -⟩ := List.lookup_eq_some_iff.1 h
  exact List.mem_append_right _ List.mem_cons_self

/-- Writing changes what lies under one key. -/
theorem get?_insert (es : Entries α) (key : String) (value : α) (k : String) :
    (es.insert key value).get? k = if k = key then some value else es.get? k := by
  induction es with
  | nil => rw [insert, get?_cons]
  | cons e es ih =>
    obtain ⟨x, v⟩ := e
    rw [insert, get?_cons]
    by_cases hx : x = key
    · subst hx
      rw [if_pos rfl, get?_cons]
      by_cases hk : k = x
      · rw [if_pos hk, if_pos hk]
      · rw [if_neg hk, if_neg hk, if_neg hk]
    · rw [if_neg hx, get?_cons, ih]
      by_cases hk : k = x
      · rw [if_pos hk, if_pos hk, if_neg (hk ▸ hx)]
      · rw [if_neg hk, if_neg hk]

/-! ## Keys -/

theorem keys_cons (e : String × α) (es : Entries α) : keys (e :: es) = e.1 :: keys es := rfl

theorem insert_of_not_mem (h : key ∉ es.keys) (value : α) :
    es.insert key value = es ++ [(key, value)] := by
  induction es with
  | nil => rfl
  | cons e es ih =>
    rw [keys_cons, List.mem_cons, not_or] at h
    rw [insert, if_neg (Ne.symm h.1), ih h.2]
    rfl

/-- Writing to a key that is there leaves the list of keys as it is. -/
theorem keys_insert_of_mem (h : key ∈ es.keys) (value : α) :
    (es.insert key value).keys = es.keys := by
  induction es with
  | nil => cases h
  | cons e es ih =>
    rw [insert]
    by_cases hx : e.1 = key
    · rw [if_pos hx, keys_cons, keys_cons]
    · rw [keys_cons, List.mem_cons, eq_comm] at h
      rw [if_neg hx, keys_cons, keys_cons, ih (h.resolve_left hx)]

/-- Writing to a key that is there changes its first entry and leaves the others where they are. -/
theorem exists_insert_eq_of_mem (h : key ∈ es.keys) (value : α) : ∃ before old after,
    key ∉ keys before ∧ es = before ++ (key, old) :: after ∧
      es.insert key value = before ++ (key, value) :: after := by
  induction es with
  | nil => cases h
  | cons e es ih =>
    obtain ⟨x, old⟩ := e
    rw [insert]
    by_cases hx : x = key
    · subst hx
      exact ⟨[], old, es, List.not_mem_nil, rfl, if_pos rfl⟩
    · rw [keys_cons, List.mem_cons, eq_comm] at h
      obtain ⟨before, v, after, hbefore, rfl, hinsert⟩ := ih (h.resolve_left hx)
      refine ⟨(x, old) :: before, v, after, ?_, rfl, by rw [if_neg hx, hinsert]; rfl⟩
      rw [keys_cons, List.mem_cons, not_or]
      exact ⟨Ne.symm hx, hbefore⟩

/-- The second of two writes to one key wins. -/
theorem insert_insert (es : Entries α) (key : String) (v w : α) :
    (es.insert key v).insert key w = es.insert key w := by
  induction es with
  | nil => exact if_pos rfl
  | cons e es ih =>
    obtain ⟨x, old⟩ := e
    rw [insert, insert]
    by_cases hx : x = key
    · rw [if_pos hx, if_pos hx, insert, if_pos hx]
    · rw [if_neg hx, if_neg hx, insert, if_neg hx, ih]

theorem nodup_keys_insert (h : es.keys.Nodup) (key : String) (value : α) :
    (es.insert key value).keys.Nodup := by
  by_cases hmem : key ∈ es.keys
  · rw [keys_insert_of_mem hmem]
    exact h
  · rw [insert_of_not_mem hmem, keys, List.map_append, List.nodup_append]
    refine ⟨h, List.pairwise_singleton _ _, ?_⟩
    rintro x hx y hy rfl
    rw [List.mem_singleton.1 hy] at hx
    exact hmem hx

/-- The keys are those that are found. -/
theorem mem_keys_iff : key ∈ es.keys ↔ (es.get? key).isSome = true := by
  induction es with
  | nil => simp [keys, get?]
  | cons e es ih =>
    rw [keys_cons, List.mem_cons, get?_cons e.1 e.2, ih]
    by_cases hkey : key = e.1
    · simp [hkey]
    · simp [hkey]

theorem contains_iff : es.contains key = true ↔ key ∈ es.keys := by
  simp [contains, keys]

theorem contains_eq_isSome (es : Entries α) (key : String) :
    es.contains key = (es.get? key).isSome := by
  rw [Bool.eq_iff_iff, contains_iff, mem_keys_iff]

/-! ## Erasing -/

/-- The entries without those under a key. -/
def erase (es : Entries α) (key : String) : Entries α :=
  es.filter (·.1 ≠ key)

theorem keys_erase (es : Entries α) (key : String) :
    (es.erase key).keys = es.keys.filter (· ≠ key) := by
  rw [keys, keys, List.filter_map]
  rfl

/-- Erasing changes what lies under one key. -/
theorem get?_erase (es : Entries α) (key k : String) :
    (es.erase key).get? k = if k = key then none else es.get? k := by
  induction es with
  | nil => simp [erase, get?]
  | cons e es ih =>
    obtain ⟨x, v⟩ := e
    rw [erase, List.filter_cons]
    by_cases hx : x = key
    · rw [if_neg (by simp [hx]), get?_cons, hx]
      refine ih.trans ?_
      by_cases hk : k = key
      · rw [if_pos hk, if_pos hk]
      · rw [if_neg hk, if_neg hk, if_neg hk]
    · rw [if_pos (by simp [hx]), get?_cons, get?_cons]
      by_cases hk : k = x
      · rw [if_pos hk, if_neg (hk ▸ hx), if_pos hk]
      · rw [if_neg hk, if_neg hk]
        exact ih

theorem erase_of_not_mem (h : key ∉ es.keys) : es.erase key = es := by
  refine List.filter_eq_self.2 fun e he ↦ ?_
  have hne : e.1 ≠ key := by
    rintro rfl
    exact h (List.mem_map_of_mem he)
  simp [hne]

/-- With distinct keys there is only one entry to remove. -/
theorem remove_eq (h : es.keys.Nodup) (key : String) :
    es.remove key = (es.get? key, es.erase key) := by
  induction es with
  | nil => rfl
  | cons e es ih =>
    obtain ⟨x, v⟩ := e
    rw [keys_cons, List.nodup_cons] at h
    rw [remove, get?_cons]
    by_cases hx : x = key
    · subst hx
      have herase : erase ((x, v) :: es) x = erase es x := List.filter_cons_of_neg (by simp)
      rw [if_pos rfl, if_pos rfl, herase, erase_of_not_mem h.1]
    · have herase : erase ((x, v) :: es) key = (x, v) :: erase es key :=
        List.filter_cons_of_pos (by simp [hx])
      rw [if_neg hx, if_neg (Ne.symm hx), ih h.2, herase]

/-- With distinct keys erasing takes one entry out and leaves the others in order. -/
theorem exists_erase_eq_of_mem (hdistinct : es.keys.Nodup) (h : key ∈ es.keys) :
    ∃ before v after, es = before ++ (key, v) :: after ∧ es.erase key = before ++ after := by
  obtain ⟨e, he, rfl⟩ := List.mem_map.1 h
  obtain ⟨before, after, rfl⟩ := List.append_of_mem he
  refine ⟨before, e.2, after, rfl, ?_⟩
  rw [keys, List.map_append, List.map_cons, List.nodup_append, List.nodup_cons] at hdistinct
  obtain ⟨-, ⟨hafter, -⟩, hbefore⟩ := hdistinct
  have hfirst : e.1 ∉ keys before := fun hmem ↦ hbefore e.1 hmem e.1 List.mem_cons_self rfl
  have hself : erase (e :: after) e.1 = erase after e.1 := List.filter_cons_of_neg (by simp)
  rw [erase, List.filter_append]
  change erase before e.1 ++ erase (e :: after) e.1 = before ++ after
  rw [hself, erase_of_not_mem hfirst, erase_of_not_mem hafter]

theorem contains_erase_self (es : Entries α) (key : String) :
    (es.erase key).contains key = false := by
  rw [contains_eq_isSome, get?_erase, if_pos rfl]
  rfl

theorem length_erase (hdistinct : es.keys.Nodup) (key : String) :
    (es.erase key).length = if es.contains key then es.length - 1 else es.length := by
  by_cases h : key ∈ es.keys
  · obtain ⟨before, v, after, hes, herase⟩ := exists_erase_eq_of_mem hdistinct h
    have hlength : es.length = before.length + after.length + 1 := by simp [hes, Nat.add_assoc]
    rw [if_pos (contains_iff.2 h), herase, List.length_append, hlength, Nat.add_sub_cancel]
  · rw [if_neg (mt contains_iff.1 h), erase_of_not_mem h]

theorem erase_comm (es : Entries α) (k l : String) : (es.erase k).erase l = (es.erase l).erase k := by
  rw [erase, erase, erase, erase, List.filter_filter, List.filter_filter]
  simp only [Bool.and_comm]

theorem nodup_keys_erase (h : es.keys.Nodup) (key : String) : (es.erase key).keys.Nodup :=
  List.Nodup.sublist (List.filter_sublist.map _) h

/-! ## Entries -/

/-- With distinct keys every entry is found. -/
theorem get?_of_mem (h : es.keys.Nodup) {e : String × α} (he : e ∈ es) :
    es.get? e.1 = some e.2 := by
  induction es with
  | nil => cases he
  | cons f es ih =>
    rw [keys_cons, List.nodup_cons] at h
    rw [get?_cons f.1 f.2]
    rcases List.mem_cons.1 he with rfl | hmem
    · rw [if_pos rfl]
    · rw [if_neg, ih h.2 hmem]
      intro hkey
      exact h.1 (hkey ▸ List.mem_map_of_mem hmem)

theorem mem_of_mem_insert {e : String × α} (h : e ∈ es.insert key value) :
    e ∈ es ∨ e = (key, value) := by
  induction es with
  | nil => exact .inr (List.mem_singleton.1 h)
  | cons f es ih =>
    rw [insert] at h
    by_cases hx : f.1 = key
    · rw [if_pos hx, hx] at h
      rcases List.mem_cons.1 h with rfl | h
      · exact .inr rfl
      · exact .inl (List.mem_cons_of_mem f h)
    · rw [if_neg hx] at h
      rcases List.mem_cons.1 h with rfl | h
      · exact .inl List.mem_cons_self
      · exact (ih h).imp_left (List.mem_cons_of_mem f)

/-- What holds of no entries and is kept by writing each pair holds of the pairs written one after
the other. -/
theorem ofPairs_induction {P : Entries α → Prop} {ps : List (String × α)} (hnil : P [])
    (hinsert : ∀ es, P es → ∀ p ∈ ps, P (es.insert p.1 p.2)) : P (ofPairs ps) :=
  List.foldlRecOn ps _ hnil hinsert

theorem nodup_keys_ofPairs (ps : List (String × α)) : (ofPairs ps).keys.Nodup :=
  ofPairs_induction (P := fun es ↦ es.keys.Nodup) List.nodup_nil
    fun _ h p _ ↦ nodup_keys_insert h p.1 p.2

theorem mem_of_mem_ofPairs {ps : List (String × α)} : ∀ e ∈ ofPairs ps, e ∈ ps := by
  refine ofPairs_induction (P := fun es ↦ ∀ e ∈ es, e ∈ ps) (fun e he ↦ by cases he)
    fun es ih p hp e he ↦ ?_
  rcases mem_of_mem_insert he with he | rfl
  · exact ih e he
  · exact hp

/-- Pairs with distinct keys keep their order. -/
theorem ofPairs_of_nodup {ps : List (String × α)} (h : (keys ps).Nodup) : ofPairs ps = ps := by
  -- the entries so far have to be general: each round puts one more behind them
  have key : ∀ es : Entries α, (keys (es ++ ps)).Nodup →
      ps.foldl (fun es p ↦ insert es p.1 p.2) es = es ++ ps := by
    intro es hes
    clear h
    induction ps generalizing es with
    | nil => exact (List.append_nil es).symm
    | cons p ps ih =>
      have hsplit : es ++ p :: ps = es ++ [p] ++ ps := by
        rw [List.append_assoc, List.singleton_append]
      have hnew : p.1 ∉ keys es := by
        rw [keys, List.map_append, List.map_cons, List.nodup_append] at hes
        intro hmem
        exact hes.2.2 p.1 hmem p.1 List.mem_cons_self rfl
      rw [List.foldl_cons, insert_of_not_mem hnew, hsplit]
      exact ih (es ++ [p]) (hsplit ▸ hes)
  exact key [] h

end StackScript.Entries
