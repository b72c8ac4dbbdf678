import StackScript.Proofs.Json.Numbers

/-!
# Texts that represent values

A text represents a value for a reader if the reader gives the value back from it, provided that it
may enter as many levels as the text has. `Represents` is closed under everything texts are put
together with, so what a whole program needs is said once for each of its parts.
-/

namespace StackScript.Json

open Reader

variable {α β : Type}

/-- The text is read as the value by a reader that may enter as many levels as the text nests. -/
structure Represents (read : ℕ → Reader α) (text : String) (a : α) : Prop where
  /-- The text starts like a value. -/
  starts : Starts text.toList
  /-- The brackets of the text are closed. -/
  balanced : Balanced text.toList
  /-- The text is read as the value. -/
  reads : ∀ depth, nesting text.toList ≤ depth → (read depth).Reads text.toList a

/-! ## Single values -/

theorem represents_text (s : String) : Represents (fun _ ↦ Reader.text) (quote s) s where
  starts := ⟨'"', _, toList_quote s, rfl, by decide⟩
  balanced := (passed_quote s).balanced
  reads _ _ := reads_text s

theorem represents_boolean (b : Bool) : Represents (fun _ ↦ Reader.boolean) (boolean b) b where
  starts := by cases b <;> exact ⟨_, _, rfl, rfl, by decide⟩
  balanced := by
    cases b <;> exact (passed_of_flat (List.all_iff_forall_prop.1 (by decide))).balanced
  reads _ _ := reads_boolean b

theorem passed_natural (n : ℕ) : Passed (toString n).toList := by
  rw [Nat.toString_eq_ofList_toDigits, String.toList_ofList]
  exact passed_of_flat fun c hc ↦ (numeric_toDigits n c hc).flat

theorem represents_natural {n : ℕ} (hn : n < 2 ^ 64) :
    Represents (fun _ ↦ Reader.natural) (toString n) n where
  starts := by
    obtain ⟨c, cs, hdigits, hc⟩ := exists_toDigits_eq_cons n
    rw [Nat.toString_eq_ofList_toDigits, String.toList_ofList, hdigits]
    exact Numeric.starts (.inl hc) cs
  balanced := (passed_natural n).balanced
  reads _ _ := reads_natural hn

theorem represents_number {n : Float} (h : ReadsBack n) :
    Represents (fun _ ↦ Reader.float) (number n) n where
  starts := by
    cases hchars : (number n).toList with
    | nil =>
      rw [ReadsBack, hchars] at h
      cases h
    | cons c cs => exact (numeric_number n c (hchars ▸ List.mem_cons_self)).starts cs
  balanced := (passed_of_flat fun c hc ↦ (numeric_number n c hc).flat).balanced
  reads _ _ := stops_float.reads h

theorem Represents.map {read : ℕ → Reader α} {text : String} {a : α} (h : Represents read text a)
    (f : α → β) : Represents (fun depth ↦ do return f (← read depth)) text (f a) where
  starts := h.starts
  balanced := h.balanced
  reads depth hdepth rest hrest := by
    rw [bind_of_ok (h.reads depth hdepth rest hrest)]
    rfl

theorem Represents.into {read : ℕ → Reader β} {text : String} {b : β} (h : Represents read text b)
    (set : α → β → α) : Represents (fun depth ↦ (read depth).into set) text fun a ↦ set a b where
  starts := h.starts
  balanced := h.balanced
  reads depth hdepth := (h.reads depth hdepth).into set

/-! ## Lists and objects -/

theorem toList_list (texts : List String) :
    (Json.list texts).toList = '[' :: (series true (texts.map String.toList) ++ [']']) := by
  rw [Json.list, String.toList_append, String.toList_append, toList_intercalate_comma]
  rfl

theorem toList_member (key value : String) :
    (member key value).toList = keyed key value.toList := by
  rw [member, String.toList_append, String.toList_append, List.append_assoc]
  rfl

theorem toList_object (ms : List (String × String)) : (object ms).toList =
    '\x7b' :: (series true (ms.map fun m ↦ keyed m.1 m.2.toList) ++ ['\x7d']) := by
  have hmembers : (ms.map fun m ↦ member m.1 m.2).map String.toList =
      ms.map fun m ↦ keyed m.1 m.2.toList := by
    rw [List.map_map]
    exact List.map_congr_left fun m _ ↦ toList_member m.1 m.2
  rw [object, String.toList_append, String.toList_append, toList_intercalate_comma, hmembers]
  rfl

/-- A construct nests one level deeper than the deepest of its texts. -/
theorem nesting_construct_le_iff {o c : Char} (h : Brackets o c) {ts : List (List Char)}
    (hts : ∀ t ∈ ts, Balanced t) (n : ℕ) :
    nesting (o :: (series true ts ++ [c])) ≤ n + 1 ↔ ∀ t ∈ ts, nesting t ≤ n := by
  rw [nesting_enclosed h (balanced_series hts true), Nat.add_le_add_iff_right,
    nesting_series_le_iff hts]

/-- A reader that can enter a construct can enter its texts with one level less. -/
theorem exists_depth_of_nesting_construct_le {o c : Char} (h : Brackets o c)
    {ts : List (List Char)} (hts : ∀ t ∈ ts, Balanced t) {depth : ℕ}
    (hdepth : nesting (o :: (series true ts ++ [c])) ≤ depth) :
    ∃ inner, depth = inner + 1 ∧ ∀ t ∈ ts, nesting t ≤ inner := by
  have hpos : 0 < depth := by
    rw [nesting_enclosed h (balanced_series hts true)] at hdepth
    exact Nat.lt_of_lt_of_le (Nat.succ_pos _) hdepth
  obtain ⟨inner, rfl⟩ := Nat.exists_eq_succ_of_ne_zero (Nat.ne_of_gt hpos)
  exact ⟨inner, rfl, (nesting_construct_le_iff h hts inner).1 hdepth⟩

theorem shallow_list {n : ℕ} {texts : List String} (h : ∀ s ∈ texts, Shallow n s.toList) :
    Shallow (n + 1) (Json.list texts).toList := by
  have hbalanced : ∀ t ∈ texts.map String.toList, Balanced t :=
    List.forall_mem_map.2 fun s hs ↦ (h s hs).1
  rw [toList_list]
  refine ⟨(balanced_series hbalanced true).enclosed (.inl ⟨rfl, rfl⟩), ?_⟩
  rw [nesting_construct_le_iff (.inl ⟨rfl, rfl⟩) hbalanced]
  exact List.forall_mem_map.2 fun s hs ↦ (h s hs).2

theorem represents_list {read : ℕ → Reader α} (write : α → String) (as : List α)
    (h : ∀ a ∈ as, Represents read (write a) a) :
    Represents (fun depth ↦ Reader.list depth (read (depth - 1)))
      (Json.list (as.map write)) as := by
  have htext : (Json.list (as.map write)).toList =
      '[' :: (series true (as.map fun a ↦ (write a).toList) ++ [']']) := by
    rw [toList_list, List.map_map]
    rfl
  have hbrackets : Brackets '[' ']' := .inl ⟨rfl, rfl⟩
  have hbalanced : ∀ t ∈ as.map fun a ↦ (write a).toList, Balanced t :=
    List.forall_mem_map.2 fun a ha ↦ (h a ha).balanced
  constructor
  · exact ⟨_, _, htext, rfl, by decide⟩
  · rw [htext]
    exact (balanced_series hbalanced true).enclosed hbrackets
  · intro depth hdepth
    rw [htext] at hdepth ⊢
    obtain ⟨depth, rfl, hinner⟩ :=
      exists_depth_of_nesting_construct_le hbrackets hbalanced hdepth
    rw [List.forall_mem_map] at hinner
    exact reads_list (Nat.succ_ne_zero depth) fun a ha ↦
      ⟨(h a ha).starts, (h a ha).reads depth (hinner a ha)⟩

section Objects

variable {ms : List (String × String)}

theorem balanced_members (h : ∀ m ∈ ms, Balanced m.2.toList) :
    ∀ t ∈ ms.map fun m ↦ keyed m.1 m.2.toList, Balanced t :=
  List.forall_mem_map.2 fun m hm ↦ balanced_keyed m.1 (h m hm)

theorem starts_object (ms : List (String × String)) : Starts (object ms).toList :=
  ⟨_, _, toList_object ms, rfl, by decide⟩

theorem balanced_object (h : ∀ m ∈ ms, Balanced m.2.toList) : Balanced (object ms).toList := by
  rw [toList_object]
  exact (balanced_series (balanced_members h) true).enclosed (.inr ⟨rfl, rfl⟩)

theorem nesting_members_le_iff (ms : List (String × String)) (n : ℕ) :
    (∀ t ∈ ms.map fun m ↦ keyed m.1 m.2.toList, nesting t ≤ n) ↔
      ∀ m ∈ ms, nesting m.2.toList ≤ n := by
  rw [List.forall_mem_map]
  simp only [nesting_keyed]

/-- An object of texts that nest at most `n` levels nests at most one more. -/
theorem shallow_object {n : ℕ} (h : ∀ m ∈ ms, Shallow n m.2.toList) :
    Shallow (n + 1) (object ms).toList := by
  have hbalanced : ∀ m ∈ ms, Balanced m.2.toList := fun m hm ↦ (h m hm).1
  refine ⟨balanced_object hbalanced, ?_⟩
  rw [toList_object, nesting_construct_le_iff (.inr ⟨rfl, rfl⟩) (balanced_members hbalanced),
    nesting_members_le_iff]
  exact fun m hm ↦ (h m hm).2

theorem exists_depth_of_nesting_object_le (h : ∀ m ∈ ms, Balanced m.2.toList) {depth : ℕ}
    (hdepth : nesting (object ms).toList ≤ depth) :
    ∃ inner, depth = inner + 1 ∧ ∀ m ∈ ms, nesting m.2.toList ≤ inner := by
  rw [toList_object] at hdepth
  obtain ⟨inner, rfl, hinner⟩ :=
    exists_depth_of_nesting_construct_le (.inr ⟨rfl, rfl⟩) (balanced_members h) hdepth
  exact ⟨inner, rfl, (nesting_members_le_iff ms inner).1 hinner⟩

end Objects

theorem represents_map {read : ℕ → Reader (List (String × α))} {value : ℕ → Reader α}
    (hread : ∀ depth, read (depth + 1) = Reader.map (depth + 1) (value depth))
    {write : α → String} {ps : List (String × α)} (h : ∀ p ∈ ps, Represents value (write p.2) p.2) :
    Represents read (object (ps.map fun p ↦ (p.1, write p.2))) ps := by
  have hbalanced : ∀ m ∈ ps.map fun p ↦ (p.1, write p.2), Balanced m.2.toList :=
    List.forall_mem_map.2 fun p hp ↦ (h p hp).balanced
  refine ⟨starts_object _, balanced_object hbalanced, fun depth hdepth ↦ ?_⟩
  obtain ⟨depth, rfl, hinner⟩ := exists_depth_of_nesting_object_le hbalanced hdepth
  rw [List.forall_mem_map] at hinner
  rw [hread, toList_object, List.map_map]
  exact reads_map (fun a ↦ (write a).toList) (Nat.succ_ne_zero depth) fun p hp ↦
    (h p hp).reads depth (hinner p hp)

/-! ## Records and variants -/

/-- A field of a record with a text that represents what it does to the record. -/
structure Member (α : Type) where
  /-- The name of the field. -/
  name : String
  /-- Whether the field has to be there. -/
  required : Bool
  /-- Reads the value of the field. -/
  read : ℕ → Reader (α → α)
  /-- The text of the value. -/
  text : String
  /-- What the value does to the record. -/
  set : α → α
  /-- The text represents the value. -/
  represents : Represents read text set

namespace Member

/-- The member whose value is put into the record. -/
def of (name : String) (required : Bool) (set : α → β → α) {read : ℕ → Reader β} {text : String}
    {b : β} (h : Represents read text b) : Member α where
  name := name
  required := required
  read depth := (read depth).into set
  text := text
  set a := set a b
  represents := h.into set

/-- The field, as it is read with `depth` levels to go. -/
def field (depth : ℕ) (m : Member α) : Field α :=
  ⟨m.name, m.required, m.read depth⟩

/-- The field with its text. -/
def part (depth : ℕ) (m : Member α) : Part α :=
  ⟨m.field depth, m.text.toList, m.set⟩

end Member

theorem represents_record (noun : String) (start : α) (ms : List (Member α))
    (hnodup : (ms.map (·.name)).Nodup) :
    Represents (fun depth ↦ record noun start depth (ms.map (·.field (depth - 1))))
      (object (ms.map fun m ↦ (m.name, m.text))) (ms.foldl (fun a m ↦ m.set a) start) := by
  have hbalanced : ∀ m ∈ ms.map fun m ↦ (m.name, m.text), Balanced m.2.toList :=
    List.forall_mem_map.2 fun m _ ↦ m.represents.balanced
  refine ⟨starts_object _, balanced_object hbalanced, fun depth hdepth ↦ ?_⟩
  obtain ⟨depth, rfl, hinner⟩ := exists_depth_of_nesting_object_le hbalanced hdepth
  rw [List.forall_mem_map] at hinner
  have hparts := reads_record (ms.map (·.part depth))
    (List.forall_mem_map.2 fun m hm ↦ m.represents.reads depth (hinner m hm))
    (by rw [List.map_map]; exact hnodup) noun start (Nat.succ_ne_zero depth)
  rw [List.map_map, List.map_map, List.foldl_map] at hparts
  rw [toList_object, List.map_map]
  exact hparts

theorem represents_plain {read : ℕ → Reader α} (cases : ℕ → List (String × Case α))
    (hread : ∀ depth, read depth = variant depth (cases depth)) {name : String} {a : α}
    (hcase : ∀ depth, (cases depth).lookup name = some (.plain a)) :
    Represents read (quote name) a where
  starts := (represents_text name).starts
  balanced := (passed_quote name).balanced
  reads depth _ := hread depth ▸ reads_variant_plain (hcase depth) depth

theorem represents_carrying {read : ℕ → Reader α} (cases : ℕ → List (String × Case α))
    (hread : ∀ depth, read (depth + 1) = variant (depth + 1) (cases depth))
    {name shape : String} {payload : ℕ → Reader α}
    (hcase : ∀ depth, (cases depth).lookup name = some (.carrying shape (payload depth)))
    {text : String} {a : α} (h : Represents payload text a) :
    Represents read (carrying name text) a := by
  rw [carrying]
  have hbalanced : ∀ m ∈ [(name, text)], Balanced m.2.toList :=
    List.forall_mem_singleton.2 h.balanced
  refine ⟨starts_object _, balanced_object hbalanced, fun depth hdepth ↦ ?_⟩
  obtain ⟨depth, rfl, hinner⟩ := exists_depth_of_nesting_object_le hbalanced hdepth
  have hreads := reads_variant_carrying (hcase depth)
    (h.reads depth (hinner _ List.mem_cons_self)) (Nat.succ_ne_zero depth)
  rw [hread, toList_object, List.map_singleton, series, if_pos rfl, series, List.append_nil]
  exact hreads

/-! ## Whole texts -/

/-- A text that nests fewer than 128 levels is read as what it represents. -/
theorem Represents.parse {read : ℕ → Reader α} {text : String} {a : α}
    (h : Represents read text a) (hnesting : nesting text.toList < 128) :
    parse read text = .ok a := by
  have hread := h.reads maxDepth (Nat.le_of_lt_succ hnesting) [] (by rintro c ⟨⟩)
  rw [List.append_nil] at hread
  rw [Json.parse, bind_of_ok hread]
  rfl

end StackScript.Json
