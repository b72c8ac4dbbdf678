import Mathlib.Data.Nat.Notation

/-!
# The order of texts and the order of their bytes

Texts are compared character by character. A text is also a sequence of bytes, its UTF-8 form, and
these may be compared byte by byte; the order is the same. UTF-8 was made so: the first byte of a
character grows with the number of its bytes, and the bytes of characters that take as many are the
digits of their numbers, the leading ones first.
-/

namespace StackScript.Text

/-- The bytes of a text in UTF-8. -/
def bytes (s : String) : List UInt8 :=
  s.toByteArray.data.toList

theorem bytes_eq_flatMap (s : String) : bytes s = s.toList.flatMap String.utf8EncodeChar := by
  rw [bytes, ← String.utf8Encode_toList, List.utf8Encode, List.data_toByteArray]

section Lexicographic

variable {a b : ℕ} {xs ys : List UInt8}

theorem ofNat_cons_lt_of_lt (hb : b < 256) (h : a < b) (xs ys : List UInt8) :
    UInt8.ofNat a :: xs < UInt8.ofNat b :: ys := by
  refine List.cons_lt_cons_iff.2 (.inl ?_)
  rw [UInt8.lt_iff_toNat_lt, UInt8.toNat_ofNat_of_lt' hb,
    UInt8.toNat_ofNat_of_lt' (Nat.lt_trans h hb)]
  exact h

theorem ofNat_cons_lt (hb : b < 256) (hle : a ≤ b) (h : a = b → xs < ys) :
    UInt8.ofNat a :: xs < UInt8.ofNat b :: ys := by
  rcases Nat.lt_or_eq_of_le hle with hlt | rfl
  · exact ofNat_cons_lt_of_lt hb hlt xs ys
  · exact List.cons_lt_cons_iff.2 (.inr ⟨rfl, h rfl⟩)

end Lexicographic

/-- A character that comes before another one does so in bytes, and whatever follows does not matter
to that. The cases follow the number of bytes of the one and then of the other. -/
theorem utf8EncodeChar_append_lt {c d : Char} (h : c < d) (xs ys : List UInt8) :
    String.utf8EncodeChar c ++ xs < String.utf8EncodeChar d ++ ys := by
  have hlt : c.val.toNat < d.val.toNat := h
  have hd : d.val.toNat < 0x110000 := by
    rcases d.valid with hd | hd
    · exact Nat.lt_trans hd (by decide)
    · exact hd.2
  unfold String.utf8EncodeChar
  generalize c.val.toNat = v at hlt
  generalize d.val.toNat = w at hlt hd
  dsimp only
  by_cases hv : v ≤ 0x7f
  · rw [if_pos hv]
    split
    · exact ofNat_cons_lt_of_lt (by omega) (by omega) _ _
    · split
      · exact ofNat_cons_lt_of_lt (by omega) (by omega) _ _
      · split <;> exact ofNat_cons_lt_of_lt (by omega) (by omega) _ _
  rw [if_neg hv, if_neg (show ¬w ≤ 0x7f by omega)]
  by_cases hv : v ≤ 0x7ff
  · rw [if_pos hv]
    split
    · refine ofNat_cons_lt (by omega) (by omega) fun _ ↦ ?_
      exact ofNat_cons_lt_of_lt (by omega) (by omega) _ _
    · split <;> exact ofNat_cons_lt_of_lt (by omega) (by omega) _ _
  rw [if_neg hv, if_neg (show ¬w ≤ 0x7ff by omega)]
  by_cases hv : v ≤ 0xffff
  · rw [if_pos hv]
    split
    · refine ofNat_cons_lt (by omega) (by omega) fun _ ↦ ?_
      refine ofNat_cons_lt (by omega) (by omega) fun _ ↦ ?_
      exact ofNat_cons_lt_of_lt (by omega) (by omega) _ _
    · exact ofNat_cons_lt_of_lt (by omega) (by omega) _ _
  rw [if_neg hv, if_neg (show ¬w ≤ 0xffff by omega)]
  refine ofNat_cons_lt (by omega) (by omega) fun _ ↦ ?_
  refine ofNat_cons_lt (by omega) (by omega) fun _ ↦ ?_
  refine ofNat_cons_lt (by omega) (by omega) fun _ ↦ ?_
  exact ofNat_cons_lt_of_lt (by omega) (by omega) _ _

theorem flatMap_utf8EncodeChar_lt {cs ds : List Char} (h : cs < ds) :
    cs.flatMap String.utf8EncodeChar < ds.flatMap String.utf8EncodeChar := by
  induction h with
  | @nil d ds =>
    rw [List.flatMap_nil, List.flatMap_cons]
    cases hd : String.utf8EncodeChar d with
    | nil => exact absurd hd String.utf8EncodeChar_ne_nil
    | cons b bs => exact List.nil_lt_cons _ _
  | @cons c cs ds h ih =>
    rw [List.flatMap_cons, List.flatMap_cons]
    exact List.append_left_lt ih
  | @rel c cs d ds h =>
    rw [List.flatMap_cons, List.flatMap_cons]
    exact utf8EncodeChar_append_lt h _ _

/-- Texts in order are in order of their bytes. -/
theorem bytes_lt_of_lt {s t : String} (h : s < t) : bytes s < bytes t := by
  rw [bytes_eq_flatMap, bytes_eq_flatMap]
  exact flatMap_utf8EncodeChar_lt h

/-- **The two orders are one.** Both are total, so that one of them is kept is enough. -/
theorem bytes_lt_iff {s t : String} : bytes s < bytes t ↔ s < t := by
  constructor
  · intro h
    apply String.not_le.1
    intro hle
    by_cases heq : s = t
    · rw [heq] at h
      exact List.lt_irrefl _ h
    · have hlt : t < s := String.not_le.1 fun hge ↦ heq (String.le_antisymm hge hle)
      exact List.lt_asymm h (bytes_lt_of_lt hlt)
  · exact bytes_lt_of_lt

end StackScript.Text
