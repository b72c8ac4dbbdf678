import Mathlib.Data.Bool.AllAny
import StackScript.Json.Program
import StackScript.Proofs.Json.Reading

/-!
# How deep texts nest

Readers count the levels that they may still enter, so what they can read depends on how deep the
brackets of a text nest. `nesting` counts that on the text alone, looking past the brackets inside
strings. A text in which every bracket is closed is `Balanced`: a scan that comes across it goes on
behind it at the level at which it came. All written texts are balanced, and the nesting of a list
or an object is one more than the deepest of its members.
-/

namespace StackScript.Json

/-- Where a scan stands: outside of strings, inside of one, or inside behind a backslash. -/
inductive Region where
  | outside
  | quoted
  | escaped

/-- The deepest level of a text that starts at level `d`. -/
def levels : Region → ℕ → List Char → ℕ
  | _, d, [] => d
  | .escaped, d, _ :: cs => levels .quoted d cs
  | .quoted, d, c :: cs =>
    if c = '"' then levels .outside d cs
    else if c = '\\' then levels .escaped d cs
    else levels .quoted d cs
  | .outside, d, c :: cs =>
    if c = '"' then levels .quoted d cs
    else if c = '[' ∨ c = '\x7b' then levels .outside (d + 1) cs
    else if c = ']' ∨ c = '\x7d' then max d (levels .outside (d - 1) cs)
    else levels .outside d cs

/-- How many levels of lists and objects a text has. -/
def nesting (t : List Char) : ℕ :=
  levels .outside 0 t

theorem le_levels (r : Region) (d : ℕ) (t : List Char) : d ≤ levels r d t := by
  fun_induction levels r d t <;> omega

/-- A scan goes on behind the text at the level at which it came. -/
def Balanced (t : List Char) : Prop :=
  ∀ d rest, levels .outside d (t ++ rest) = max (d + nesting t) (levels .outside d rest)

theorem nesting_append {s : List Char} (hs : Balanced s) (t : List Char) :
    nesting (s ++ t) = max (nesting s) (nesting t) := by
  rw [nesting, hs, Nat.zero_add]
  rfl

theorem Balanced.append {s t : List Char} (hs : Balanced s) (ht : Balanced t) :
    Balanced (s ++ t) := by
  intro d rest
  rw [List.append_assoc, hs, ht, nesting_append hs]
  omega

theorem balanced_nil : Balanced [] := by
  intro d rest
  exact (Nat.max_eq_right (le_levels .outside d rest)).symm

/-! ## Brackets -/

/-- The two pairs of brackets. -/
def Brackets (o c : Char) : Prop :=
  o = '[' ∧ c = ']' ∨ o = '\x7b' ∧ c = '\x7d'

variable {o c : Char} {t : List Char}

theorem levels_enclosed (h : Brackets o c) (ht : Balanced t) (d : ℕ) (rest : List Char) :
    levels .outside d (o :: (t ++ c :: rest)) =
      max (d + (nesting t + 1)) (levels .outside d rest) := by
  have hopen : levels .outside d (o :: (t ++ c :: rest)) =
      levels .outside (d + 1) (t ++ c :: rest) := by
    obtain ⟨rfl, rfl⟩ | ⟨rfl, rfl⟩ := h <;> rfl
  have hclose : levels .outside (d + 1) (c :: rest) = max (d + 1) (levels .outside d rest) := by
    obtain ⟨rfl, rfl⟩ | ⟨rfl, rfl⟩ := h <;> rfl
  rw [hopen, ht, hclose]
  omega

theorem nesting_enclosed (h : Brackets o c) (ht : Balanced t) :
    nesting (o :: (t ++ [c])) = nesting t + 1 := by
  rw [nesting, levels_enclosed h ht, Nat.zero_add]
  exact Nat.max_eq_left (Nat.zero_le _)

theorem Balanced.enclosed (h : Brackets o c) (ht : Balanced t) : Balanced (o :: (t ++ [c])) := by
  intro d rest
  rw [nesting_enclosed h ht, List.cons_append, List.append_assoc, List.singleton_append,
    levels_enclosed h ht]

/-! ## Texts without brackets -/

/-- Neither a quote nor a bracket. -/
def Flat (c : Char) : Prop :=
  c ≠ '"' ∧ ¬(c = '[' ∨ c = '\x7b') ∧ ¬(c = ']' ∨ c = '\x7d')

instance : DecidablePred Flat :=
  fun _ ↦ inferInstanceAs (Decidable (_ ∧ _))

theorem flat_of_isDigit {c : Char} (hc : c.isDigit) : Flat c := by
  refine ⟨?_, ?_, ?_⟩
  · rintro rfl
    exact absurd hc (by decide)
  · rintro (rfl | rfl) <;> exact absurd hc (by decide)
  · rintro (rfl | rfl) <;> exact absurd hc (by decide)

/-- A scan passes over the text as if it were not there. -/
def Passed (t : List Char) : Prop :=
  ∀ d rest, levels .outside d (t ++ rest) = levels .outside d rest

theorem Passed.nesting_append (h : Passed t) (rest : List Char) :
    nesting (t ++ rest) = nesting rest :=
  h 0 rest

theorem Passed.nesting (h : Passed t) : nesting t = 0 := by
  have hnil := h.nesting_append []
  rwa [List.append_nil] at hnil

theorem Passed.balanced (h : Passed t) : Balanced t := by
  intro d rest
  rw [h, h.nesting]
  exact (Nat.max_eq_right (le_levels .outside d rest)).symm

/-- A balanced text of at most `n` levels. -/
def Shallow (n : ℕ) (t : List Char) : Prop :=
  Balanced t ∧ nesting t ≤ n

theorem Passed.shallow (h : Passed t) (n : ℕ) : Shallow n t :=
  ⟨h.balanced, h.nesting ▸ Nat.zero_le n⟩

theorem passed_of_flat (ht : ∀ c ∈ t, Flat c) : Passed t := by
  intro d rest
  induction t with
  | nil => rfl
  | cons c t ih =>
    obtain ⟨hquote, hopen, hclose⟩ := ht c List.mem_cons_self
    rw [List.cons_append, levels, if_neg hquote, if_neg hopen, if_neg hclose,
      ih fun b hb ↦ ht b (List.mem_cons_of_mem c hb)]

theorem passed_comma : Passed [','] :=
  passed_of_flat (List.all_iff_forall_prop.1 (by decide))

theorem passed_colon : Passed [':'] :=
  passed_of_flat (List.all_iff_forall_prop.1 (by decide))

theorem levels_escapeChar (c : Char) (d : ℕ) (rest : List Char) :
    levels .quoted d (escapeChar c ++ rest) = levels .quoted d rest := by
  have hhex : ∀ n < 0x20, hexDigit n ≠ '"' ∧ hexDigit n ≠ '\\' := by decide
  unfold escapeChar
  split
  all_goals try rfl
  -- what is left has no letter of its own, so it is neither a quote nor a backslash
  rename_i hquote hbackslash _ _ _ _ _
  split
  · rename_i hcontrol
    obtain ⟨h1, h2⟩ := hhex (c.toNat / 16) (by omega)
    obtain ⟨h3, h4⟩ := hhex (c.toNat % 16) (by omega)
    change levels .quoted d (hexDigit _ :: hexDigit _ :: rest) = _
    rw [levels, if_neg h1, if_neg h2, levels, if_neg h3, if_neg h4]
  · rw [List.singleton_append, levels, if_neg hquote, if_neg hbackslash]

/-- Brackets inside a string do not count. -/
theorem passed_quote (s : String) : Passed (quote s).toList := by
  intro d rest
  have key : ∀ cs : List Char,
      levels .quoted d (cs.flatMap escapeChar ++ '"' :: rest) = levels .outside d rest := by
    intro cs
    induction cs with
    | nil => rfl
    | cons c cs ih => rw [List.flatMap_cons, List.append_assoc, levels_escapeChar, ih]
  rw [Reader.toList_quote, List.cons_append, List.append_assoc]
  exact key s.toList

/-! ## Members -/

open Reader

theorem balanced_keyed (key : String) (ht : Balanced t) : Balanced (keyed key t) :=
  (passed_quote key).balanced.append (passed_colon.balanced.append ht)

theorem nesting_keyed (key : String) (t : List Char) : nesting (keyed key t) = nesting t := by
  rw [keyed, (passed_quote key).nesting_append]
  exact passed_colon.nesting_append t

theorem balanced_first (ht : Balanced t) (first : Bool) :
    Balanced (if first then t else ',' :: t) := by
  cases first with
  | true => exact ht
  | false => exact passed_comma.balanced.append ht

theorem nesting_first (t : List Char) (first : Bool) :
    nesting (if first then t else ',' :: t) = nesting t := by
  cases first with
  | true => rfl
  | false => exact passed_comma.nesting_append t

variable {ts : List (List Char)}

theorem balanced_series (hts : ∀ t ∈ ts, Balanced t) (first : Bool) :
    Balanced (series first ts) := by
  induction ts generalizing first with
  | nil => exact balanced_nil
  | cons t ts ih =>
    exact (balanced_first (hts t List.mem_cons_self) first).append
      (ih (fun u hu ↦ hts u (List.mem_cons_of_mem t hu)) false)

/-- A series nests as deep as the deepest of its texts. -/
theorem nesting_series_le_iff (hts : ∀ t ∈ ts, Balanced t) (first : Bool) (n : ℕ) :
    nesting (series first ts) ≤ n ↔ ∀ t ∈ ts, nesting t ≤ n := by
  induction ts generalizing first with
  | nil => exact iff_of_true (Nat.zero_le n) (List.forall_mem_nil _)
  | cons u ts ih =>
    rw [series, nesting_append (balanced_first (hts u List.mem_cons_self) first), nesting_first,
      List.forall_mem_cons, Nat.max_le, ih fun v hv ↦ hts v (List.mem_cons_of_mem u hv)]

end StackScript.Json
