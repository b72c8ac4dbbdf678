import StackScript.Proofs.Entries
import StackScript.Proofs.Json.Numbers
import StackScript.Proofs.NumberText
import StackScript.Proofs.StackDiscipline
import StackScript.Value.Comparison

/-!
# What the texts of arrays tell apart

Arrays are equal if they are shown alike, and they are shown without any escapes. As long as no key
holds a delimiter and no string a quote, the text has one reading only. `Value.Plain.legible`
carries that through nested arrays: it reads one value off the front of a text and leaves what
follows, so the induction never has to know where a value ends.

The same pieces settle what order does. Entries in another order are shown differently as long as no
key goes on where another one is followed by an equals sign, `Value.keys_eq_of_equals`; where one
does, they can be shown alike.
-/

namespace StackScript

namespace Value

/-- What holds of an array whenever it holds of everything in it holds of all values, if it holds of
those that are no arrays. -/
@[elab_as_elim]
theorem induction {P : Value → Prop} (number : ∀ n, P (.number n)) (string : ∀ s, P (.string s))
    (boolean : ∀ b, P (.boolean b)) (array : ∀ es, (∀ e ∈ es, P e.2) → P (.array es)) : ∀ v, P v
  | .number n => number n
  | .string s => string s
  | .boolean b => boolean b
  | .array es => array es fun e _ ↦ induction number string boolean array e.2
decreasing_by
  rename_i he
  have hentry := List.sizeOf_lt_of_mem he
  have hvalue : sizeOf e.2 < sizeOf e := by
    obtain ⟨k, v⟩ := e
    simp
  simp
  omega

/-! ## Alike values -/

mutual

/-- Whether two values are of one sort and equal all the way down, entry order included, where the
value that is not a number counts as equal to itself. -/
def alike : Value → Value → Bool
  | number m, number n => m == n || (m.isNaN && n.isNaN)
  | string s, string t => s == t
  | boolean a, boolean b => a == b
  | array es, array fs => alikeEntries es fs
  | _, _ => false

/-- Whether two arrays have the same keys in the same order, with alike values. -/
def alikeEntries : List (String × Value) → List (String × Value) → Bool
  | [], [] => true
  | (k, v) :: es, (l, w) :: fs => k == l && v.alike w && alikeEntries es fs
  | _, _ => false

end

variable {k l : String} {v w : Value} {es fs : List (String × Value)} {r t : List Char}

theorem alikeEntries_cons : alikeEntries ((k, v) :: es) ((l, w) :: fs) = true ↔
    k = l ∧ v.alike w = true ∧ alikeEntries es fs = true := by
  rw [alikeEntries, Bool.and_eq_true, Bool.and_eq_true, beq_iff_eq, and_assoc]

theorem identicalEntries_cons : identicalEntries ((k, v) :: es) ((l, w) :: fs) = true ↔
    k = l ∧ v.identical w = true ∧ identicalEntries es fs = true := by
  rw [identicalEntries, Bool.and_eq_true, Bool.and_eq_true, beq_iff_eq, and_assoc]

theorem alikeEntries_of_identicalEntries
    (hvalues : ∀ e ∈ es, ∀ {w}, e.2.identical w = true → e.2.alike w = true)
    (h : identicalEntries es fs = true) : alikeEntries es fs = true := by
  induction es generalizing fs with
  | nil =>
    cases fs with
    | nil => rfl
    | cons f fs => cases h
  | cons e es ih =>
    rw [List.forall_mem_cons] at hvalues
    cases fs with
    | nil => cases h
    | cons f fs =>
      obtain ⟨hkey, hvalue, hrest⟩ := identicalEntries_cons.1 h
      exact alikeEntries_cons.2 ⟨hkey, hvalues.1 hvalue, ih hvalues.2 hrest⟩

theorem alike_of_identical (v : Value) : ∀ {w}, v.identical w = true → v.alike w = true := by
  induction v using induction with
  | number m =>
    intro w h
    cases w with
    | number n => exact Bool.or_eq_true_iff.2 (.inl h)
    | _ => cases h
  | string s =>
    intro w h
    cases w with
    | string t => exact h
    | _ => cases h
  | boolean a =>
    intro w h
    cases w with
    | boolean b => exact h
    | _ => cases h
  | array es ih =>
    intro w h
    cases w with
    | array fs => exact alikeEntries_of_identicalEntries ih h
    | _ => cases h

theorem shownEntries_eq_of_alikeEntries
    (hvalues : ∀ e ∈ es, ∀ {w}, e.2.alike w = true → e.2.shown = w.shown)
    (h : alikeEntries es fs = true) : shownEntries es = shownEntries fs := by
  induction es generalizing fs with
  | nil =>
    cases fs with
    | nil => rfl
    | cons f fs => cases h
  | cons e es ih =>
    rw [List.forall_mem_cons] at hvalues
    cases fs with
    | nil => cases h
    | cons f fs =>
      obtain ⟨hkey, hvalue, hrest⟩ := alikeEntries_cons.1 h
      rw [shownEntries, shownEntries, hkey, hvalues.1 hvalue, ih hvalues.2 hrest]

/-- Alike values are shown alike. -/
theorem shown_eq_of_alike (v : Value) : ∀ {w}, v.alike w = true → v.shown = w.shown := by
  induction v using induction with
  | number m =>
    intro w h
    cases w with
    | number n =>
      rw [alike, Bool.or_eq_true, Bool.and_eq_true] at h
      exact (Number.text_eq_text_iff m n).2 h
    | _ => cases h
  | string s =>
    intro w h
    cases w with
    | string t => rw [beq_iff_eq.1 h]
    | _ => cases h
  | boolean a =>
    intro w h
    cases w with
    | boolean b => rw [beq_iff_eq.1 h]
    | _ => cases h
  | array es ih =>
    intro w h
    cases w with
    | array fs => rw [shown, shown, shownEntries_eq_of_alikeEntries ih h]
    | _ => cases h

/-! ## The text of an array -/

def entryText (e : String × Value) : List Char :=
  e.1.toList ++ '=' :: e.2.shown.toList

/-- What is shown after the first entry. -/
def restText (es : List (String × Value)) : List Char :=
  es.flatMap (fun e ↦ ',' :: ' ' :: entryText e) ++ [']']

@[simp] theorem restText_nil : restText [] = [']'] := rfl

@[simp] theorem restText_cons (e : String × Value) (es : List (String × Value)) :
    restText (e :: es) = ',' :: ' ' :: (entryText e ++ restText es) := by
  simp [restText]

theorem toList_shown_nil : (array []).shown.toList = ['[', ']'] := by
  simp [shown, shownEntries]

theorem toList_shown_cons (e : String × Value) (es : List (String × Value)) :
    (array (e :: es)).shown.toList = '[' :: (entryText e ++ restText es) := by
  have key : [',', ' '].intercalate ((shownEntries (e :: es)).map String.toList) ++ [']'] =
      entryText e ++ restText es := by
    induction es generalizing e with
    | nil => simp [shownEntries, entryText]
    | cons f es ih =>
      rw [restText_cons, ← ih f]
      simp [shownEntries, entryText, List.intercalate_cons_cons]
  rw [shown, String.toList_append, String.toList_append, String.toList_intercalate,
    List.append_assoc, ← key]
  rfl

/-! ## Delimiters -/

/-- The text is over or goes on with what can follow a value in an array. -/
def Ends (r : List Char) : Prop :=
  ∀ c ∈ r.head?, c = ',' ∨ c = ']'

theorem ends_nil : Ends [] := by
  intro c hc
  cases hc

theorem ends_restText (es : List (String × Value)) (r : List Char) : Ends (restText es ++ r) := by
  cases es with
  | nil => simp [Ends]
  | cons e es => simp [Ends]

/-- Texts without delimiters stop where a delimiter comes. -/
theorem append_inj_of_ends {a b : List Char} (ha : ∀ c ∈ a, ¬(c = ',' ∨ c = ']'))
    (hb : ∀ c ∈ b, ¬(c = ',' ∨ c = ']')) (hr : Ends r) (ht : Ends t) (h : a ++ r = b ++ t) :
    a = b ∧ r = t := by
  induction a generalizing b with
  | nil =>
    cases b with
    | nil => exact ⟨rfl, h⟩
    | cons c b =>
      have hhead : c ∈ r.head? := by rw [← List.nil_append r, h]; rfl
      exact absurd (hr c hhead) (hb c List.mem_cons_self)
  | cons c a ih =>
    cases b with
    | nil =>
      have hhead : c ∈ t.head? := by rw [← List.nil_append t, ← h]; rfl
      exact absurd (ht c hhead) (ha c List.mem_cons_self)
    | cons d b =>
      rw [List.cons_append, List.cons_append, List.cons.injEq] at h
      rw [List.forall_mem_cons] at ha hb
      obtain ⟨rfl, hrt⟩ := ih ha.2 hb.2 h.2
      exact ⟨by rw [h.1], hrt⟩

/-- What comes before a separator is settled by the text, unless one of the two goes on where the
other one has ended. -/
theorem append_cons_inj {a : Char} {k l x y : List Char} (hk : ¬k ++ [a] <+: l)
    (hl : ¬l ++ [a] <+: k) (h : k ++ a :: x = l ++ a :: y) : k = l ∧ x = y := by
  rcases List.append_eq_append_iff.1 h with ⟨b, rfl, hb⟩ | ⟨b, rfl, hb⟩
  · cases b with
    | nil => exact ⟨(List.append_nil k).symm, (List.cons.inj hb).2⟩
    | cons c b =>
      rw [List.cons_append, List.cons.injEq] at hb
      exact absurd ⟨b, by rw [hb.1]; simp⟩ hk
  · cases b with
    | nil => exact ⟨List.append_nil l, (List.cons.inj hb).2.symm⟩
    | cons c b =>
      rw [List.cons_append, List.cons.injEq] at hb
      exact absurd ⟨b, by rw [hb.1]; simp⟩ hl

theorem not_prefix_of_notMem {a : Char} {l : List Char} (h : a ∉ l) (k : List Char) :
    ¬k ++ [a] <+: l :=
  fun hle ↦ h (hle.subset (List.mem_append_right _ List.mem_cons_self))

theorem append_cons_inj_of_notMem {a : Char} {k l x y : List Char} (hk : a ∉ k) (hl : a ∉ l)
    (h : k ++ a :: x = l ++ a :: y) : k = l ∧ x = y :=
  append_cons_inj (not_prefix_of_notMem hl k) (not_prefix_of_notMem hk l) h

/-! ## Sorts -/

theorem notMem_of_numeric {c : Char} (h : Json.Numeric c ∨ c ∈ "NaNInfinity-".toList) :
    c ∉ [',', ']', '"', '[', 'T', 'F'] := by
  intro hc
  have hdigit : ∀ c ∈ [',', ']', '"', '[', 'T', 'F'], c.isDigit = false :=
    List.all_iff_forall_prop.1 (by decide)
  have hletter : ∀ c ∈ [',', ']', '"', '[', 'T', 'F'],
      c ∉ ['-', '+', '.', 'e', 'n', 'u', 'l'] ∧ c ∉ "NaNInfinity-".toList :=
    List.all_iff_forall_prop.1 (by decide)
  rcases h with (h | h) | h
  · rw [hdigit c hc] at h
    cases h
  · exact (hletter c hc).1 h
  · exact (hletter c hc).2 h

theorem numeric_text (n : Float) :
    ∀ c ∈ (Number.text n).toList, Json.Numeric c ∨ c ∈ "NaNInfinity-".toList := by
  rw [Number.text, Style.text]
  split
  · exact fun c hc ↦ .inr (List.all_iff_forall_prop.1 (by decide) c hc)
  · exact fun c hc ↦ .inr (List.all_iff_forall_prop.1 (by decide) c hc)
  · exact fun c hc ↦ .inr (List.all_iff_forall_prop.1 (by decide) c hc)
  · rw [String.toList_ofList]
    exact fun c hc ↦ .inl (Json.numeric_signed _ (Json.numeric_layout _ _) c hc)
  · rw [String.toList_ofList]
    exact fun c hc ↦ .inl (Json.numeric_signed _ (Json.numeric_layout _ _) c hc)

theorem text_ne_nil (n : Float) : (Number.text n).toList ≠ [] := by
  rw [Number.text, Style.text]
  split
  · decide
  · decide
  · decide
  · rw [String.toList_ofList]
    exact Style.signed_ne_nil _ (Style.layout_ne_nil _ _)
  · rw [String.toList_ofList]
    exact Style.signed_ne_nil _ (Style.layout_ne_nil _ _)

theorem boolean_text_injective : ∀ a b, Boolean.text a = Boolean.text b → a = b := by
  decide

/-- The sort of a value whose text starts with the character. -/
def kindOf (c : Char) : Kind :=
  if c = '"' then .string
  else if c = '[' then .array
  else if c = 'T' ∨ c = 'F' then .boolean
  else .number

theorem exists_toList_shown_eq_cons (v : Value) :
    ∃ c cs, v.shown.toList = c :: cs ∧ kindOf c = v.kind := by
  cases v with
  | number n =>
    obtain ⟨c, cs, hcs⟩ := List.exists_cons_of_ne_nil (text_ne_nil n)
    refine ⟨c, cs, hcs, ?_⟩
    have hc := notMem_of_numeric (numeric_text n c (by rw [hcs]; exact List.mem_cons_self))
    simp only [List.mem_cons, List.not_mem_nil, or_false, not_or] at hc
    simp [kindOf, hc, kind]
  | string s => exact ⟨'"', s.toList ++ ['"'], by simp [shown, quote], rfl⟩
  | boolean b =>
    cases b with
    | true => exact ⟨'T', ['r', 'u', 'e'], rfl, rfl⟩
    | false => exact ⟨'F', ['a', 'l', 's', 'e'], rfl, rfl⟩
  | array es =>
    cases es with
    | nil => exact ⟨'[', [']'], toList_shown_nil, rfl⟩
    | cons e es => exact ⟨'[', _, toList_shown_cons e es, rfl⟩

/-- The first character of a text tells the sort. -/
theorem kind_eq_of_shown (h : v.shown.toList ++ r = w.shown.toList ++ t) : v.kind = w.kind := by
  obtain ⟨c, cs, hv, hc⟩ := exists_toList_shown_eq_cons v
  obtain ⟨d, ds, hw, hd⟩ := exists_toList_shown_eq_cons w
  rw [hv, hw, List.cons_append, List.cons_append, List.cons.injEq] at h
  rw [← hc, ← hd, h.1]

/-! ## Plain values -/

/-- What separates the parts of a shown array. -/
def delimiters : List Char :=
  ['=', ',', '[', ']', '"']

/-- No key holds a delimiter and no string a quote, at any depth. -/
inductive Plain : Value → Prop
  | number (n : Float) : Plain (.number n)
  | string {s : String} (h : '"' ∉ s.toList) : Plain (.string s)
  | boolean (b : Bool) : Plain (.boolean b)
  | array {es : List (String × Value)} (hkeys : ∀ e ∈ es, ∀ c ∈ delimiters, c ∉ e.1.toList)
      (hvalues : ∀ e ∈ es, Plain e.2) : Plain (.array es)

/-- The value can be read off the front of a text, whatever follows it. -/
def Legible (v : Value) : Prop :=
  ∀ {w r t}, Plain w → Ends r → Ends t → v.shown.toList ++ r = w.shown.toList ++ t →
    v.alike w = true ∧ r = t

/-- One entry is read off the front of a text. -/
theorem alike_of_entryText {e f : String × Value} (he : '=' ∉ e.1.toList) (hf : '=' ∉ f.1.toList)
    (hvalue : Legible e.2) (hplain : Plain f.2) (hr : Ends r) (ht : Ends t)
    (h : entryText e ++ r = entryText f ++ t) : e.1 = f.1 ∧ e.2.alike f.2 = true ∧ r = t := by
  rw [entryText, entryText, List.append_assoc, List.append_assoc] at h
  obtain ⟨hkey, hrest⟩ := append_cons_inj_of_notMem he hf h
  exact ⟨String.toList_inj.1 hkey, hvalue hplain hr ht hrest⟩

/-- The entries after the first one are read one by one. -/
theorem alikeEntries_of_restText (hes : ∀ e ∈ es, '=' ∉ e.1.toList ∧ Legible e.2)
    (hfs : ∀ f ∈ fs, '=' ∉ f.1.toList ∧ Plain f.2) (h : restText es ++ r = restText fs ++ t) :
    alikeEntries es fs = true ∧ r = t := by
  induction es generalizing fs with
  | nil =>
    cases fs with
    | nil => simpa [alikeEntries] using h
    | cons f fs => simp at h
  | cons e es ih =>
    cases fs with
    | nil => simp at h
    | cons f fs =>
      rw [List.forall_mem_cons] at hes hfs
      simp only [restText_cons, List.cons_append, List.cons.injEq, true_and, List.append_assoc] at h
      obtain ⟨hkey, hvalue, hrest⟩ := alike_of_entryText hes.1.1 hfs.1.1 hes.1.2 hfs.1.2
        (ends_restText es r) (ends_restText fs t) h
      obtain ⟨hentries, hrt⟩ := ih hes.2 hfs.2 hrest
      exact ⟨alikeEntries_cons.2 ⟨hkey, hvalue, hentries⟩, hrt⟩

/-- The bracket that closes an array is not taken for a key. -/
theorem entryText_ne_bracket {e : String × Value} (h : ']' ∉ e.1.toList) :
    entryText e ++ r ≠ ']' :: t := by
  rw [entryText]
  cases hkey : e.1.toList with
  | nil => simp
  | cons c cs =>
    rw [hkey] at h
    rintro heq
    rw [List.cons_append, List.cons_append, List.cons.injEq] at heq
    exact h (heq.1 ▸ List.mem_cons_self)

theorem legible_array (hkeys : ∀ e ∈ es, ∀ c ∈ delimiters, c ∉ e.1.toList)
    (hvalues : ∀ e ∈ es, Legible e.2) : Legible (.array es) := by
  intro w r t hplain hr ht h
  have hkind := kind_eq_of_shown h
  cases hplain with
  | number | string | boolean => cases hkind
  | array hkeys' hvalues' =>
    rename_i fs
    have hequals : ∀ e ∈ es, '=' ∉ e.1.toList := fun e he ↦ hkeys e he '=' (by decide)
    have hequals' : ∀ f ∈ fs, '=' ∉ f.1.toList := fun f hf ↦ hkeys' f hf '=' (by decide)
    cases es with
    | nil =>
      cases fs with
      | nil => exact ⟨rfl, List.append_cancel_left h⟩
      | cons f fs =>
        rw [toList_shown_nil, toList_shown_cons] at h
        simp only [List.cons_append, List.cons.injEq, true_and, List.append_assoc] at h
        exact absurd h.symm
          (entryText_ne_bracket (hkeys' f List.mem_cons_self ']' (by decide)))
    | cons e es =>
      cases fs with
      | nil =>
        rw [toList_shown_nil, toList_shown_cons] at h
        simp only [List.cons_append, List.cons.injEq, true_and, List.append_assoc] at h
        exact absurd h (entryText_ne_bracket (hkeys e List.mem_cons_self ']' (by decide)))
      | cons f fs =>
        -- a comma in front of the first entry makes it one like the others
        refine alikeEntries_of_restText (fun e he ↦ ⟨hequals e he, hvalues e he⟩)
          (fun f hf ↦ ⟨hequals' f hf, hvalues' f hf⟩) ?_
        rw [toList_shown_cons, toList_shown_cons] at h
        simpa using h

/-- **Texts of plain values have one reading.** -/
theorem Plain.legible (h : Plain v) : Legible v := by
  induction h with
  | number n =>
    intro w r t hplain hr ht h
    have hkind := kind_eq_of_shown h
    have hends : ∀ n : Float, ∀ c ∈ (Number.text n).toList, ¬(c = ',' ∨ c = ']') := by
      rintro n c hc (rfl | rfl) <;> exact notMem_of_numeric (numeric_text n _ hc) (by decide)
    cases hplain with
    | string | boolean | array => cases hkind
    | number k =>
      obtain ⟨htext, hrt⟩ := append_inj_of_ends (hends n) (hends k) hr ht h
      refine ⟨?_, hrt⟩
      rw [alike, Bool.or_eq_true, Bool.and_eq_true]
      exact (Number.text_eq_text_iff n k).1 (String.toList_inj.1 htext)
  | string hs =>
    intro w r t hplain hr ht h
    have hkind := kind_eq_of_shown h
    cases hplain with
    | number | boolean | array => cases hkind
    | string hs' =>
      simp only [shown, quote, String.toList_append, List.append_assoc] at h
      obtain ⟨hst, hrt⟩ := append_cons_inj_of_notMem hs hs' (List.append_cancel_left h)
      exact ⟨beq_iff_eq.2 (String.toList_inj.1 hst), hrt⟩
  | boolean b =>
    intro w r t hplain hr ht h
    have hkind := kind_eq_of_shown h
    have hends : ∀ b, ∀ c ∈ (Boolean.text b).toList, ¬(c = ',' ∨ c = ']') := by
      intro b
      cases b <;> exact List.all_iff_forall_prop.1 (by decide)
    cases hplain with
    | number | string | array => cases hkind
    | boolean d =>
      obtain ⟨htext, hrt⟩ := append_inj_of_ends (hends b) (hends d) hr ht h
      exact ⟨beq_iff_eq.2 (boolean_text_injective b d (String.toList_inj.1 htext)), hrt⟩
  | array hkeys _ ih => exact legible_array hkeys ih

theorem equals_array_iff :
    (array es).equals (array fs) = true ↔ (array es).shown = (array fs).shown :=
  beq_iff_eq

theorem alikeEntries_of_equals (hes : Plain (.array es)) (hfs : Plain (.array fs))
    (h : (array es).equals (array fs) = true) : alikeEntries es fs = true := by
  refine (hes.legible hfs ends_nil ends_nil ?_).1
  rw [equals_array_iff.1 h]

theorem equals_of_alikeEntries (h : alikeEntries es fs = true) :
    (array es).equals (array fs) = true :=
  equals_array_iff.2 (shown_eq_of_alike (.array es) h)

/-- **Equality of arrays.** Identical arrays are equal, and every array is equal to itself. Arrays
without delimiters in their keys and without quotes in their strings are equal only if they have the
same keys in the same order and, under each, values of one sort that are equal in their turn. -/
theorem equals_array_iff_alike (es fs : List (String × Value)) :
    (identicalEntries es fs = true → (array es).equals (array fs) = true) ∧
    (array es).equals (array es) = true ∧
    (Plain (.array es) → Plain (.array fs) →
      ((array es).equals (array fs) = true ↔ alikeEntries es fs = true)) := by
  refine ⟨fun h ↦ ?_, equals_array_iff.2 rfl, fun hes hfs ↦ ⟨?_, equals_of_alikeEntries⟩⟩
  · have halike : (array es).alike (array fs) = true := alike_of_identical (.array es) h
    exact equals_of_alikeEntries halike
  · exact alikeEntries_of_equals hes hfs

/-- A number, a string that holds every delimiter but a quote, and an empty array in an array. -/
def mixed : List (String × Value) :=
  [("a", .number 1), ("b", .string "[c=1, d]"), ("", .array [("x y", .array [])])]

theorem plain_mixed : Plain (.array mixed) := by
  have hempty : Plain (.array []) := .array (List.forall_mem_nil _) (List.forall_mem_nil _)
  have hinner : Plain (.array [("x y", .array [])]) :=
    .array (by simp [delimiters]) (List.forall_mem_singleton.2 hempty)
  refine .array (by simp [mixed, delimiters]) ?_
  simp only [mixed, List.forall_mem_cons]
  exact ⟨.number 1, .string (by decide), hinner, List.forall_mem_nil _⟩

/-- The entries are identical to themselves, and no others when the last one is left out. -/
theorem equals_array_iff_alike_mixed :
    identicalEntries mixed mixed = true ∧ (array mixed).equals (array mixed) = true ∧
    Plain (.array mixed) ∧ ¬(array mixed).equals (array []) = true := by
  have hidentical : identicalEntries mixed mixed = true := by decide +kernel
  have hempty : Plain (.array []) := .array (List.forall_mem_nil _) (List.forall_mem_nil _)
  refine ⟨hidentical, (equals_array_iff_alike mixed mixed).1 hidentical, plain_mixed, fun h ↦ ?_⟩
  cases ((equals_array_iff_alike mixed []).2.2 plain_mixed hempty).1 h

/-! ## Order -/

/-- The same keys, and identical values under each. -/
def SameEntries (es fs : Entries Value) : Prop :=
  (∀ k, k ∈ es.keys ↔ k ∈ fs.keys) ∧
    ∀ k v w, es.get? k = some v → fs.get? k = some w → v.identical w = true

/-- No key goes on where another one is followed by an equals sign. -/
def Separate (keys : List String) : Prop :=
  ∀ k ∈ keys, ∀ l ∈ keys, ¬k.toList ++ ['='] <+: l.toList

/-- Putting entries in another order leaves the same entries, where each value is identical to
itself. -/
theorem sameEntries_of_perm (hes : (Entries.keys es).Nodup) (h : es.Perm fs)
    (hself : ∀ e ∈ es, e.2.identical e.2 = true) : SameEntries es fs := by
  refine ⟨fun k ↦ (h.map _).mem_iff, fun k v w hv hw ↦ ?_⟩
  have hmem := h.mem_iff.2 (Entries.mem_of_get?_eq_some hw)
  have hget : Entries.get? es k = some w := Entries.get?_of_mem hes hmem
  rw [hv, Option.some.injEq] at hget
  subst hget
  exact hself (k, v) hmem

theorem SameEntries.shown_eq (h : SameEntries es fs) (hes : (Entries.keys es).Nodup)
    (hfs : (Entries.keys fs).Nodup) {e f : String × Value} (he : e ∈ es) (hf : f ∈ fs)
    (hkey : e.1 = f.1) : e.2.shown = f.2.shown := by
  have hget := Entries.get?_of_mem hfs hf
  rw [← hkey] at hget
  exact shown_eq_of_alike e.2
    (alike_of_identical e.2 (h.2 e.1 e.2 f.2 (Entries.get?_of_mem hes he) hget))

/-- As long as the keys agree so do the values, so the first keys that differ are shown in the same
place. -/
theorem keys_eq_of_restText
    (hkeys : ∀ e ∈ es, ∀ f ∈ fs, ¬e.1.toList ++ ['='] <+: f.1.toList ∧
      ¬f.1.toList ++ ['='] <+: e.1.toList)
    (hvalues : ∀ e ∈ es, ∀ f ∈ fs, e.1 = f.1 → e.2.shown = f.2.shown)
    (h : restText es = restText fs) : Entries.keys es = Entries.keys fs := by
  induction es generalizing fs with
  | nil =>
    cases fs with
    | nil => rfl
    | cons f fs => simp at h
  | cons e es ih =>
    cases fs with
    | nil => simp at h
    | cons f fs =>
      have hhead := hkeys e List.mem_cons_self f List.mem_cons_self
      simp only [restText_cons, List.cons.injEq, true_and, entryText, List.append_assoc,
        List.cons_append] at h
      obtain ⟨hkey, hrest⟩ := append_cons_inj hhead.1 hhead.2 h
      have hkey' : e.1 = f.1 := String.toList_inj.1 hkey
      rw [hvalues e List.mem_cons_self f List.mem_cons_self hkey'] at hrest
      rw [Entries.keys_cons, Entries.keys_cons, hkey', ih
        (fun e he f hf ↦ hkeys e (List.mem_cons_of_mem _ he) f (List.mem_cons_of_mem _ hf))
        (fun e he f hf ↦ hvalues e (List.mem_cons_of_mem _ he) f (List.mem_cons_of_mem _ hf))
        (List.append_cancel_left hrest)]

theorem keys_eq_of_equals (hes : (Entries.keys es).Nodup) (hfs : (Entries.keys fs).Nodup)
    (hsame : SameEntries es fs) (hseparate : Separate (Entries.keys es))
    (h : (array es).equals (array fs) = true) : Entries.keys es = Entries.keys fs := by
  have hshown := congrArg String.toList (equals_array_iff.1 h)
  have hmem : ∀ f ∈ fs, f.1 ∈ Entries.keys es := fun f hf ↦ (hsame.1 f.1).2 (List.mem_map_of_mem hf)
  cases es with
  | nil =>
    cases fs with
    | nil => rfl
    | cons f fs => cases hmem f List.mem_cons_self
  | cons e es =>
    cases fs with
    | nil => cases (hsame.1 e.1).1 List.mem_cons_self
    | cons f fs =>
      rw [toList_shown_cons, toList_shown_cons] at hshown
      refine keys_eq_of_restText (fun e he f hf ↦ ?_) (fun e he f hf ↦ hsame.shown_eq hes hfs he hf)
        (by simpa using hshown)
      have hek := List.mem_map_of_mem (f := Prod.fst) he
      exact ⟨hseparate _ hek _ (hmem f hf), hseparate _ (hmem f hf) _ hek⟩

end Value

open Value

/-- Two values on top of a stack make room for whether they are equal. -/
theorem Machine.exec_compareEqual (m : Machine) (s : State) (below : Stack Value) {v w : Value}
    (hitems : s.stack.items = w :: v :: below.items) (hroom : below.depth < m.limits.stackSize) :
    m.exec .compareEqual s = .ok { s with stack := below.push (.boolean (v.equals w)) } := by
  have hreverse : s.stack.items = [v, w].reverse ++ below.items := hitems
  obtain ⟨henough, hoperands, hdrop⟩ := State.operands_of_items hreverse
  refine exec_of_result m henough ?_ hdrop hroom
  change m.result? _ _ (s.operands [v, w].length) = _
  rw [hoperands]
  rfl

namespace Value

/-- **Order counts.** Arrays that hold the same entries in different orders are not equal, if no key
goes on where another one is followed by an equals sign. -/
theorem reordered_not_equal (es fs : List (String × Value)) (hes : (Entries.keys es).Nodup)
    (hfs : (Entries.keys fs).Nodup) (hsame : SameEntries es fs)
    (horder : Entries.keys es ≠ Entries.keys fs) (hseparate : Separate (Entries.keys es)) :
    (array es).equals (array fs) = false ∧
    ∀ (m : Machine) (s : State) (below : Stack Value),
      s.stack.items = array fs :: array es :: below.items → below.depth < m.limits.stackSize →
        m.exec .compareEqual s = .ok { s with stack := below.push (.boolean false) } := by
  have hequals : (array es).equals (array fs) = false :=
    Bool.eq_false_iff.2 fun h ↦ horder (keys_eq_of_equals hes hfs hsame hseparate h)
  refine ⟨hequals, fun m s below hitems hroom ↦ ?_⟩
  rw [Machine.exec_compareEqual m s below hitems hroom, hequals]

/-- The string under the one key reads like the entry under the other. -/
def twoStrings : List (String × Value) :=
  [("a", .string "x"), ("b", .string "a=x")]

theorem reordered_not_equal_twoStrings :
    (Entries.keys twoStrings).Nodup ∧ SameEntries twoStrings twoStrings.reverse ∧
    Entries.keys twoStrings ≠ Entries.keys twoStrings.reverse ∧
    Separate (Entries.keys twoStrings) ∧
    (array twoStrings).equals (array twoStrings.reverse) = false := by
  have hnodup : (Entries.keys twoStrings).Nodup := by decide
  have hsame : SameEntries twoStrings twoStrings.reverse :=
    sameEntries_of_perm hnodup (List.reverse_perm _).symm
      (by simp [twoStrings, identical])
  have horder : Entries.keys twoStrings ≠ Entries.keys twoStrings.reverse := by decide
  have hseparate : Separate (Entries.keys twoStrings) := by
    simp [Separate, twoStrings, Entries.keys]
  exact ⟨hnodup, hsame, horder, hseparate,
    (reordered_not_equal twoStrings twoStrings.reverse hnodup (by decide) hsame horder
      hseparate).1⟩

/-- The second key goes on where the first one is followed by an equals sign. -/
def runningOver : List (String × Value) :=
  [("a", .number 1), ("a=1, a", .number 1)]

/-- **Order lost.** Without that condition the same entries can be shown alike in both orders, here
as `[a=1, a=1, a=1]`. -/
theorem reordered_equal_runningOver :
    (Entries.keys runningOver).Nodup ∧ SameEntries runningOver runningOver.reverse ∧
    Entries.keys runningOver ≠ Entries.keys runningOver.reverse ∧
    (array runningOver).equals (array runningOver.reverse) = true ∧
    Machine.roomForTwo.exec .compareEqual
        { stack := .ofItems [.array runningOver.reverse, .array runningOver] } =
      .ok { stack := .ofItems [.boolean true] } := by
  have hnodup : (Entries.keys runningOver).Nodup := by decide
  have hone : (number 1).identical (number 1) = true := by decide +kernel
  have hself : ∀ e ∈ runningOver, e.2.identical e.2 = true := by
    simp only [runningOver, List.forall_mem_cons]
    exact ⟨hone, hone, List.forall_mem_nil _⟩
  have hequals : (array runningOver).equals (array runningOver.reverse) = true := by decide +kernel
  have hexec := Machine.exec_compareEqual Machine.roomForTwo
    { stack := .ofItems [.array runningOver.reverse, .array runningOver] } .empty rfl (by decide)
  rw [hequals] at hexec
  exact ⟨hnodup, sameEntries_of_perm hnodup (List.reverse_perm _).symm hself, by decide, hequals,
    hexec⟩

end Value

end StackScript
