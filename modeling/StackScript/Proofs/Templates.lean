import Mathlib.Data.Nat.Notation
import StackScript.Diagnostic.Failure

/-!
# Slots of message templates

Taken apart from the arguments, what rendering goes over is a sequence of pieces, characters that
stand for themselves and slots. `Diagnostic.pieces` is that sequence. It looks ahead from each brace
and goes on right behind it if no slot closes, where rendering goes on behind the digits;
`Diagnostic.render_eq_flatMap_pieces` says that rendering fills the pieces in all the same. The slots
of a template are therefore all that its message takes from a diagnostic.
-/

namespace StackScript.Diagnostic

inductive Piece where
  /-- A character that stands for itself. -/
  | char (c : Char)
  /-- A slot, by the digits of its number. -/
  | slot (digits : List Char)

namespace Piece

def text (arguments : List String) : Piece → List Char
  | char c => [c]
  | slot digits => slotText arguments (Nat.ofDigitChars 10 digits 0)

/-- The number of a slot. -/
def number? : Piece → Option ℕ
  | char _ => none
  | slot digits => some (Nat.ofDigitChars 10 digits 0)

end Piece

/-- The text after an opening brace, split into the digits of a slot and what follows its closing
brace, if the brace opens a slot. -/
def slotAt? (cs : List Char) : Option (List Char × List Char) :=
  match cs.takeWhile Char.isDigit, cs.dropWhile Char.isDigit with
  | d :: ds, '\x7d' :: rest => some (d :: ds, rest)
  | _, _ => none

theorem length_lt_of_slotAt? {cs ds rest : List Char} (h : slotAt? cs = some (ds, rest)) :
    rest.length < cs.length := by
  have hsplit : cs.takeWhile Char.isDigit ++ cs.dropWhile Char.isDigit = cs :=
    List.takeWhile_append_dropWhile
  unfold slotAt? at h
  split at h
  · rename_i d ds' rest' ht hd
    rw [← hsplit, ht, hd]
    simp only [Option.some.injEq, Prod.mk.injEq] at h
    simp [← h.2]
    omega
  · contradiction

def pieces (template : List Char) : List Piece :=
  match template with
  | [] => []
  | c :: cs =>
    if c = '\x7b' then
      match h : slotAt? cs with
      | some (digits, rest) =>
        have : rest.length < cs.length := length_lt_of_slotAt? h
        .slot digits :: pieces rest
      | none => .char c :: pieces cs
    else
      .char c :: pieces cs
termination_by template.length

/-- The numbers of the slots of a template, in order. -/
def slots (template : List Char) : List ℕ :=
  (pieces template).filterMap Piece.number?

/-! ## Slots -/

/-- What stands between the braces of a slot. -/
structure IsNumeral (digits : List Char) : Prop where
  /-- There is a digit. -/
  ne_nil : digits ≠ []
  /-- There is nothing but digits. -/
  isDigit : ∀ c ∈ digits, c.isDigit = true

theorem takeWhile_slot {digits : List Char} (hdigits : IsNumeral digits) (rest : List Char) :
    (digits ++ '\x7d' :: rest).takeWhile Char.isDigit = digits := by
  rw [List.takeWhile_append_of_pos hdigits.isDigit, List.takeWhile_cons_of_neg (by decide),
    List.append_nil]

theorem dropWhile_slot {digits : List Char} (hdigits : IsNumeral digits) (rest : List Char) :
    (digits ++ '\x7d' :: rest).dropWhile Char.isDigit = '\x7d' :: rest := by
  rw [List.dropWhile_append_of_pos hdigits.isDigit, List.dropWhile_cons_of_neg (by decide)]

/-- The text behind an opening brace makes a slot of it. -/
def OpensSlot (cs : List Char) : Prop :=
  ∃ digits rest, IsNumeral digits ∧ cs = digits ++ '\x7d' :: rest

theorem slotAt?_eq_some_iff {cs digits rest : List Char} :
    slotAt? cs = some (digits, rest) ↔ IsNumeral digits ∧ cs = digits ++ '\x7d' :: rest := by
  constructor
  · intro h
    have hsplit := List.takeWhile_append_dropWhile (p := Char.isDigit) (l := cs)
    unfold slotAt? at h
    split at h
    · rename_i d ds rest' htake hdrop
      cases h
      refine ⟨⟨List.cons_ne_nil _ _, fun c hc ↦ ?_⟩, ?_⟩
      · exact List.all_eq_true.1 List.all_takeWhile c (htake ▸ hc)
      · rw [← hsplit, htake, hdrop]
    · cases h
  · rintro ⟨hdigits, rfl⟩
    obtain ⟨d, ds, rfl⟩ := List.exists_cons_of_ne_nil hdigits.ne_nil
    rw [slotAt?, takeWhile_slot hdigits, dropWhile_slot hdigits]
    rfl

theorem isNumeral_takeWhile {cs : List Char} (hne : cs.takeWhile Char.isDigit ≠ []) :
    IsNumeral (cs.takeWhile Char.isDigit) :=
  ⟨hne, fun c hc ↦ List.all_eq_true.1 List.all_takeWhile c hc⟩

theorem opensSlot_iff {cs : List Char} : OpensSlot cs ↔
    (cs.dropWhile Char.isDigit).head? = some '\x7d' ∧ cs.takeWhile Char.isDigit ≠ [] := by
  constructor
  · rintro ⟨digits, rest, hdigits, rfl⟩
    rw [takeWhile_slot hdigits, dropWhile_slot hdigits]
    exact ⟨rfl, hdigits.ne_nil⟩
  · rintro ⟨hclose, hne⟩
    obtain ⟨rest, hdrop⟩ := List.head?_eq_some_iff.1 hclose
    refine ⟨_, rest, isNumeral_takeWhile hne, ?_⟩
    rw [← hdrop, List.takeWhile_append_dropWhile]

theorem slotAt?_eq_none_iff {cs : List Char} : slotAt? cs = none ↔ ¬OpensSlot cs := by
  rw [Option.eq_none_iff_forall_ne_some]
  constructor
  · rintro h ⟨digits, rest, hslot⟩
    exact h (digits, rest) (slotAt?_eq_some_iff.2 hslot)
  · rintro h ⟨digits, rest⟩ hsome
    exact h ⟨digits, rest, slotAt?_eq_some_iff.1 hsome⟩

/-! ## Pieces -/

theorem pieces_slot {digits : List Char} (hdigits : IsNumeral digits) (rest : List Char) :
    pieces ('\x7b' :: (digits ++ '\x7d' :: rest)) = .slot digits :: pieces rest := by
  have hslot : slotAt? (digits ++ '\x7d' :: rest) = some (digits, rest) :=
    slotAt?_eq_some_iff.2 ⟨hdigits, rfl⟩
  rw [pieces, if_pos rfl]
  split
  · rename_i digits' rest' hslot'
    rw [hslot] at hslot'
    cases hslot'
    rfl
  · rename_i hnone
    rw [hslot] at hnone
    cases hnone

theorem pieces_char {c : Char} {rest : List Char} (hc : c = '\x7b' → ¬OpensSlot rest) :
    pieces (c :: rest) = .char c :: pieces rest := by
  rw [pieces]
  split
  · rename_i hbrace
    split
    · rename_i digits rest' hslot
      exact absurd ⟨digits, rest', slotAt?_eq_some_iff.1 hslot⟩ (hc hbrace)
    · rfl
  · rfl

theorem pieces_literal {cs : List Char} (hcs : '\x7b' ∉ cs) (rest : List Char) :
    pieces (cs ++ rest) = cs.map .char ++ pieces rest := by
  induction cs with
  | nil => rfl
  | cons c cs ih =>
    rw [List.mem_cons, not_or] at hcs
    rw [List.cons_append, pieces_char fun h ↦ absurd h.symm hcs.1, ih hcs.2, List.map_cons,
      List.cons_append]

/-! ## Rendering -/

theorem flatMap_text_char (arguments : List String) (cs : List Char) :
    (cs.map Piece.char).flatMap (Piece.text arguments) = cs := by
  rw [List.flatMap_map]
  exact List.flatMap_singleton' cs

/-- **Rendering fills the pieces in.** Rendering takes the digits behind a brace before it knows
whether they make a slot. Where they do not, they are pieces of their own and none of them is a
brace, so that nothing was passed over. -/
theorem render_eq_flatMap_pieces (arguments : List String) (template : List Char) :
    render arguments template = (pieces template).flatMap (·.text arguments) := by
  fun_induction render arguments template with
  | case1 => rw [pieces, List.flatMap_nil]
  | case2 c cs hc ih =>
    rw [pieces_char fun h ↦ absurd h hc, List.flatMap_cons, ih]
    rfl
  | case3 c cs hc digits rest hslot ih =>
    obtain rfl := Decidable.not_not.1 hc
    obtain ⟨tail, htail⟩ := List.head?_eq_some_iff.1 hslot.1
    have hcs : cs = digits ++ '\x7d' :: tail := by
      rw [← htail, List.takeWhile_append_dropWhile]
    rw [htail, List.tail_cons] at ih ⊢
    rw [hcs, pieces_slot (isNumeral_takeWhile hslot.2), List.flatMap_cons, ih]
    rfl
  | case4 c cs hc digits rest hnone ih =>
    have hbrace : '\x7b' ∉ digits := fun hmem ↦
      absurd (List.all_eq_true.1 List.all_takeWhile _ hmem) (by decide)
    have hcs : cs = digits ++ rest := List.takeWhile_append_dropWhile.symm
    rw [pieces_char fun _ ↦ mt opensSlot_iff.1 hnone, List.flatMap_cons, hcs,
      pieces_literal hbrace, List.flatMap_append, flatMap_text_char, ih]
    rfl

/-- How many slots the message of a kind has. -/
def Kind.arity : Kind → ℕ
  | .arrayIndex | .returnWithoutCall => 0
  | .libraryCallFailed => 2
  | _ => 1

theorem slots_template (k : Kind) : slots k.template.toList = List.range k.arity := by
  cases k <;> decide +kernel

end StackScript.Diagnostic

namespace StackScript.Failure

theorem length_arguments (f : Failure) : f.arguments.length = f.kind.arity := by
  cases f <;> rfl

/-- A failure has an argument for each slot of its message, and no other. -/
theorem slots_template_kind (f : Failure) :
    Diagnostic.slots f.kind.template.toList = List.range f.arguments.length := by
  rw [Diagnostic.slots_template, length_arguments]

end StackScript.Failure
