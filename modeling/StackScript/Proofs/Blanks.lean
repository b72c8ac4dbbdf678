import Mathlib.Data.List.Basic
import Mathlib.Data.List.TakeWhile
import StackScript.Text.Blank

/-!
# Blanks around a text

A class of characters is a list of edges, and membership changes at each of them. So a class whose
edges are the ends of increasing ranges holds the characters of these ranges,
`Text.contains_edgesOf_iff`, and the blanks are the characters with the property White_Space,
`Text.isBlank_iff`. Trimming takes away blanks at the ends and nothing else, whichever blanks are
put there.
-/

namespace StackScript.Text

/-! ## Ranges of characters -/

theorem foldl_edges_of_lt {n : ℕ} {edges : List ℕ} (h : ∀ edge ∈ edges, n < edge) (inside : Bool) :
    edges.foldl (fun inside edge ↦ if edge ≤ n then !inside else inside) inside = inside := by
  induction edges with
  | nil => rfl
  | cons edge edges ih =>
    rw [List.foldl_cons, if_neg (Nat.not_le.2 (h edge List.mem_cons_self))]
    exact ih fun e he ↦ h e (List.mem_cons_of_mem edge he)

/-- The edges of ranges, which contain both of their ends. -/
def edgesOf (ranges : List (ℕ × ℕ)) : List ℕ :=
  ranges.flatMap fun r ↦ [r.1, r.2 + 1]

theorem lt_of_mem_edgesOf {n : ℕ} {ranges : List (ℕ × ℕ)}
    (h : ∀ r ∈ ranges, n < r.1 ∧ r.1 ≤ r.2) : ∀ edge ∈ edgesOf ranges, n < edge := by
  intro edge hedge
  obtain ⟨r, hr, hedge⟩ := List.mem_flatMap.1 hedge
  have := h r hr
  rcases List.mem_pair.1 hedge with rfl | rfl <;> omega

theorem contains_edgesOf_iff {ranges : List (ℕ × ℕ)} (hranges : ∀ r ∈ ranges, r.1 ≤ r.2)
    (hsorted : ranges.Pairwise fun r r' ↦ r.2 < r'.1) (c : Char) :
    (CharClass.mk (edgesOf ranges)).contains c = true ↔
      ∃ r ∈ ranges, r.1 ≤ c.toNat ∧ c.toNat ≤ r.2 := by
  induction ranges with
  | nil => exact iff_of_false Bool.false_ne_true (by simp)
  | cons r ranges ih =>
    obtain ⟨hr, hranges⟩ := List.forall_mem_cons.1 hranges
    obtain ⟨hfirst, hsorted⟩ := List.pairwise_cons.1 hsorted
    have ih := ih hranges hsorted
    rw [CharClass.contains] at ih ⊢
    rw [List.exists_mem_cons_iff]
    change (edgesOf ranges).foldl _ (if r.2 + 1 ≤ c.toNat then !(if r.1 ≤ c.toNat then _ else _)
      else if r.1 ≤ c.toNat then _ else _) = true ↔ _
    by_cases hlow : r.1 ≤ c.toNat
    · by_cases hhigh : c.toNat ≤ r.2
      · -- no edge of the later ranges has been reached
        rw [if_pos hlow, if_neg (by omega), foldl_edges_of_lt (lt_of_mem_edgesOf fun r' hr' ↦
          ⟨Nat.lt_of_le_of_lt hhigh (hfirst r' hr'), hranges r' hr'⟩)]
        exact iff_of_true rfl (.inl ⟨hlow, hhigh⟩)
      · rw [if_pos hlow, if_pos (by omega), Bool.not_not, ih]
        exact (or_iff_right fun h ↦ hhigh h.2).symm
    · rw [if_neg hlow, if_neg (by omega), ih]
      exact (or_iff_right fun h ↦ hlow h.1).symm

/-- The code points with the property White_Space. -/
def whiteSpace : List (ℕ × ℕ) :=
  [(0x9, 0xd), (0x20, 0x20), (0x85, 0x85), (0xa0, 0xa0), (0x1680, 0x1680), (0x2000, 0x200a),
    (0x2028, 0x2029), (0x202f, 0x202f), (0x205f, 0x205f), (0x3000, 0x3000)]

def WhiteSpace (c : Char) : Prop :=
  ∃ r ∈ whiteSpace, r.1 ≤ c.toNat ∧ c.toNat ≤ r.2

instance : DecidablePred WhiteSpace := fun _ ↦ inferInstanceAs (Decidable (∃ _ ∈ _, _))

theorem blank_eq : blank = ⟨edgesOf whiteSpace⟩ := rfl

theorem isBlank_iff (c : Char) : isBlank c = true ↔ WhiteSpace c := by
  rw [isBlank, blank_eq]
  exact contains_edgesOf_iff (by decide) (by decide) c

/-! ## Trimming -/

/-- The text is `cs` with blanks around it. -/
inductive Padded (cs : List Char) : List Char → Prop
  | intro {before after : List Char} (hbefore : ∀ c ∈ before, WhiteSpace c)
      (hafter : ∀ c ∈ after, WhiteSpace c) : Padded cs (before ++ cs ++ after)

variable {cs text before after : List Char}

/-- Blanks that are put around a text are taken away again, with those that it had. -/
theorem Padded.trim_eq (h : Padded cs text) : trim text = trim cs := by
  obtain ⟨hbefore, hafter⟩ := h
  simp only [← isBlank_iff] at hbefore hafter
  rw [trim, trim, List.append_assoc, List.dropWhile_append_of_pos hbefore, List.dropWhile_append]
  cases hcs : cs.dropWhile isBlank with
  | nil => simp [List.dropWhile_eq_nil_iff.2 hafter]
  | cons c rest =>
    rw [if_neg (by simp), List.reverse_append, List.dropWhile_append_of_pos fun c hc ↦
      hafter c (List.mem_reverse.1 hc)]

theorem trim_eq_self (h : ∀ c ∈ cs, ¬WhiteSpace c) : trim cs = cs := by
  simp only [← isBlank_iff] at h
  have hkeep : ∀ l : List Char, (∀ c ∈ l, ¬isBlank c = true) → l.dropWhile isBlank = l := by
    intro l hl
    exact List.dropWhile_eq_self_iff.2 fun hpos ↦ hl _ (List.getElem_mem hpos)
  rw [trim, hkeep cs h, hkeep cs.reverse fun c hc ↦ h c (List.mem_reverse.1 hc),
    List.reverse_reverse]

/-- Only blanks are taken away. -/
theorem padded_trim (cs : List Char) : Padded (trim cs) cs := by
  set rest := cs.dropWhile isBlank with hrest
  have hsplit : cs =
      cs.takeWhile isBlank ++ trim cs ++ (rest.reverse.takeWhile isBlank).reverse := by
    rw [trim, ← hrest, List.append_assoc, ← List.reverse_append, List.takeWhile_append_dropWhile,
      List.reverse_reverse, hrest, List.takeWhile_append_dropWhile]
  nth_rewrite 2 [hsplit]
  exact .intro (fun c hc ↦ (isBlank_iff c).1 (List.mem_takeWhile_imp hc))
    fun c hc ↦ (isBlank_iff c).1 (List.mem_takeWhile_imp (List.mem_reverse.1 hc))

/-! ## Characters between the blanks -/

section

variable {b a rest : List Char} {c : Char}

theorem exists_eq_append_left (hbefore : ∀ c ∈ before, WhiteSpace c) (hc : ¬WhiteSpace c)
    (h : b ++ c :: a = before ++ rest) : ∃ b', b = before ++ b' ∧ rest = b' ++ c :: a := by
  obtain ⟨x, rfl, hx⟩ | ⟨b', hb, hrest⟩ := List.append_eq_append_iff.1 h
  · cases x with
    | nil => exact ⟨[], by simp, hx.symm⟩
    | cons d x =>
      obtain rfl := (List.cons.inj hx).1
      exact absurd (hbefore c (List.mem_append_right _ List.mem_cons_self)) hc
  · exact ⟨b', hb, hrest⟩

theorem exists_eq_append_right (hafter : ∀ c ∈ after, WhiteSpace c) (hc : ¬WhiteSpace c)
    (h : b ++ c :: a = rest ++ after) : ∃ a', a = a' ++ after ∧ rest = b ++ c :: a' := by
  obtain ⟨x, rfl, hx⟩ | ⟨x, rfl, hx⟩ := List.append_eq_append_iff.1 h
  · cases x with
    | nil =>
      rw [List.nil_append] at hx
      exact absurd (hafter c (hx ▸ List.mem_cons_self)) hc
    | cons d x =>
      obtain ⟨rfl, rfl⟩ := List.cons.inj hx
      exact ⟨x, rfl, rfl⟩
  · exact absurd (hafter c (hx ▸ List.mem_append_right _ List.mem_cons_self)) hc

/-- A character that is no blank stands between the blanks. -/
theorem exists_eq_append_cons (hbefore : ∀ c ∈ before, WhiteSpace c)
    (hafter : ∀ c ∈ after, WhiteSpace c) (hc : ¬WhiteSpace c)
    (h : b ++ c :: a = before ++ cs ++ after) :
    ∃ b' a', cs = b' ++ c :: a' ∧ b = before ++ b' ∧ a = a' ++ after := by
  rw [List.append_assoc] at h
  obtain ⟨b', hb, hrest⟩ := exists_eq_append_left hbefore hc h
  obtain ⟨a', ha, hcs⟩ := exists_eq_append_right hafter hc hrest.symm
  exact ⟨b', a', hcs, hb, ha⟩

end

end StackScript.Text
