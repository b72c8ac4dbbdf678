import StackScript.Proofs.Templates

/-!
# One pass over a template

A template can be read in one way only. A brace opens a slot exactly when digits and a closing brace
follow it; any other character, and any other brace, is read as itself. `Diagnostic.IsReading` says
this of a list of pieces without following the scan, and `Diagnostic.pieces_eq_iff` that the scan
finds these pieces.

The reading does not depend on the arguments, and written one after another its pieces are the
template again. So rendering loses nothing and looks at no argument a second time. As no slot goes
over an opening brace, a template may be cut in front of any of them, `Diagnostic.pieces_append`.
-/

namespace StackScript.Diagnostic

/-! ## Slots -/

theorem isNumeral_singleton {c : Char} (hc : c.isDigit = true) : IsNumeral [c] :=
  ⟨List.cons_ne_nil c [], List.forall_mem_singleton.2 hc⟩

/-- No slot goes over an opening brace. -/
theorem opensSlot_append_iff {cs rest : List Char} :
    OpensSlot (cs ++ '\x7b' :: rest) ↔ OpensSlot cs := by
  constructor
  · rintro ⟨digits, after, hdigits, heq⟩
    rcases List.append_eq_append_iff.1 heq with ⟨mid, rfl, hmid⟩ | ⟨mid, rfl, hmid⟩
    · -- the opening brace would have to be a digit or the closing brace
      rcases List.cons_eq_append_iff.1 hmid with ⟨rfl, hclose⟩ | ⟨mid', rfl, -⟩
      · exact absurd (List.cons.inj hclose).1 (by decide)
      · exact absurd (hdigits.isDigit '\x7b' (by simp)) (by decide)
    · rcases List.cons_eq_append_iff.1 hmid with ⟨rfl, hclose⟩ | ⟨mid', rfl, -⟩
      · exact absurd (List.cons.inj hclose).1 (by decide)
      · exact ⟨digits, mid', hdigits, rfl⟩
  · rintro ⟨digits, after, hdigits, rfl⟩
    exact ⟨digits, after ++ '\x7b' :: rest, hdigits, by simp⟩

/-! ## Readings -/

def Piece.written : Piece → List Char
  | char c => [c]
  | slot digits => '\x7b' :: (digits ++ ['\x7d'])

/-- The pieces are those that a template is read as. A brace is a piece of its own only where it
opens no slot. -/
inductive IsReading : List Char → List Piece → Prop
  /-- Nothing is left. -/
  | nil : IsReading [] []
  /-- A slot comes next. -/
  | slot {digits rest : List Char} {ps : List Piece} (hdigits : IsNumeral digits)
      (hrest : IsReading rest ps) :
      IsReading ('\x7b' :: (digits ++ '\x7d' :: rest)) (.slot digits :: ps)
  /-- A character comes next that stands for itself. -/
  | char {c : Char} {rest : List Char} {ps : List Piece} (hc : c = '\x7b' → ¬OpensSlot rest)
      (hrest : IsReading rest ps) : IsReading (c :: rest) (.char c :: ps)

theorem isReading_pieces (template : List Char) : IsReading template (pieces template) := by
  fun_induction pieces template with
  | case1 => exact .nil
  | case2 cs digits rest hslot hlt ih =>
    obtain ⟨hdigits, rfl⟩ := slotAt?_eq_some_iff.1 hslot
    exact .slot hdigits ih
  | case3 cs hnone ih => exact .char (fun _ ↦ slotAt?_eq_none_iff.1 hnone) ih
  | case4 c cs hc ih => exact .char (fun h ↦ absurd h hc) ih

/-- **Templates can be read in one way.** -/
theorem pieces_eq_iff {template : List Char} {ps : List Piece} :
    pieces template = ps ↔ IsReading template ps := by
  constructor
  · rintro rfl
    exact isReading_pieces template
  · intro h
    induction h with
    | nil => rw [pieces]
    | slot hdigits _ ih => rw [pieces_slot hdigits, ih]
    | char hc _ ih => rw [pieces_char hc, ih]

/-- Nothing of a template is lost when it is read, and nothing is read twice. -/
theorem IsReading.flatMap_written {template : List Char} {ps : List Piece}
    (h : IsReading template ps) : ps.flatMap Piece.written = template := by
  induction h with
  | nil => rfl
  | slot _ _ ih => simp [Piece.written, ih]
  | char _ _ ih => simp [Piece.written, ih]

/-- A template may be cut in front of an opening brace. -/
theorem pieces_append (before rest : List Char) :
    pieces (before ++ '\x7b' :: rest) = pieces before ++ pieces ('\x7b' :: rest) := by
  -- by induction on the reading of the first part, whose braces open no slot in the whole either
  have h := isReading_pieces before
  generalize pieces before = ps at h
  induction h with
  | nil => rfl
  | slot hdigits _ ih =>
    rw [List.cons_append, List.append_assoc, List.cons_append, pieces_slot hdigits, ih,
      List.cons_append]
  | char hc _ ih =>
    rw [List.cons_append, pieces_char fun h ↦ mt opensSlot_append_iff.1 (hc h), ih,
      List.cons_append]

/-! ## Rendering -/

/-- A part of a template as its author thinks of it. -/
inductive Segment where
  /-- Text that stands for itself. -/
  | literal (text : List Char) (hplain : '\x7b' ∉ text)
  /-- A slot. -/
  | slot (digits : List Char) (hdigits : IsNumeral digits)

namespace Segment

def written : Segment → List Char
  | literal text _ => text
  | slot digits _ => '\x7b' :: (digits ++ ['\x7d'])

def text (arguments : List String) : Segment → List Char
  | literal text _ => text
  | slot digits _ => slotText arguments (Nat.ofDigitChars 10 digits 0)

end Segment

theorem render_written (arguments : List String) (segments : List Segment) :
    render arguments (segments.flatMap Segment.written) =
      segments.flatMap (Segment.text arguments) := by
  rw [render_eq_flatMap_pieces]
  induction segments with
  | nil => rw [List.flatMap_nil, pieces, List.flatMap_nil, List.flatMap_nil]
  | cons segment segments ih =>
    cases segment with
    | literal text hplain =>
      rw [List.flatMap_cons, List.flatMap_cons, Segment.written, pieces_literal hplain,
        List.flatMap_append, ih, flatMap_text_char, Segment.text]
    | slot digits hdigits =>
      rw [List.flatMap_cons, List.flatMap_cons, Segment.written, List.cons_append,
        List.append_assoc, List.singleton_append, pieces_slot hdigits, List.flatMap_cons, ih]
      rfl

theorem slotText_of_lt {arguments : List String} {n : ℕ} {a : String} (hn : n < UInt64.size)
    (ha : arguments[n]? = some a) : slotText arguments n = a.toList := by
  rw [slotText, if_pos hn, ha]

theorem slotText_of_missing {arguments : List String} {n : ℕ}
    (h : arguments.length ≤ n ∨ UInt64.size ≤ n) : slotText arguments n = ['?'] := by
  rw [slotText]
  split
  · rename_i hn
    rw [List.getElem?_eq_none (h.resolve_right (Nat.not_le.2 hn))]
  · rfl

theorem render_append (arguments : List String) (before rest : List Char) :
    render arguments (before ++ '\x7b' :: rest) =
      render arguments before ++ render arguments ('\x7b' :: rest) := by
  rw [render_eq_flatMap_pieces, pieces_append, List.flatMap_append, ← render_eq_flatMap_pieces,
    ← render_eq_flatMap_pieces]

/-- **Rendering goes over a template once and loses nothing.** Segments become their texts one after
another, where a slot has the argument with its number, word for word, or a question mark if there
is none or the number is no word. Any template whatsoever is read in exactly one way, the pieces of
which make it up, and each piece becomes its text. So a brace that opens no slot is copied wherever
it stands, and what follows it is rendered as if there were no brace. -/
theorem rendering_one_pass_lossless (arguments : List String) :
    (∀ segments : List Segment, render arguments (segments.flatMap Segment.written) =
      segments.flatMap (Segment.text arguments)) ∧
    (∀ n a, n < UInt64.size → arguments[n]? = some a → slotText arguments n = a.toList) ∧
    (∀ n, arguments.length ≤ n ∨ UInt64.size ≤ n → slotText arguments n = ['?']) ∧
    (∀ template, ∃ ps, (∀ qs, IsReading template qs ↔ qs = ps) ∧
      ps.flatMap Piece.written = template ∧
      render arguments template = ps.flatMap (Piece.text arguments)) ∧
    ∀ before rest, ¬OpensSlot rest → render arguments (before ++ '\x7b' :: rest) =
      render arguments before ++ '\x7b' :: render arguments rest := by
  refine ⟨render_written arguments, fun n a ↦ slotText_of_lt, fun n ↦ slotText_of_missing, ?_, ?_⟩
  · intro template
    refine ⟨pieces template, fun qs ↦ ?_, (isReading_pieces template).flatMap_written,
      render_eq_flatMap_pieces arguments template⟩
    rw [← pieces_eq_iff, eq_comm]
  · intro before rest hrest
    rw [render_append, render_eq_flatMap_pieces arguments ('\x7b' :: rest),
      pieces_char fun _ ↦ hrest, List.flatMap_cons, ← render_eq_flatMap_pieces]
    rfl

def callFailed : List Segment :=
  [.literal "Call to '".toList (by decide), .slot ['0'] (isNumeral_singleton rfl),
    .literal "' failed: ".toList (by decide), .slot ['1'] (isNumeral_singleton rfl)]

/-- The argument looks like a slot, there is no second one, and the last brace is not closed. -/
theorem rendering_one_pass_lossless_callFailed :
    ["\x7b1\x7d"][0]? = some "\x7b1\x7d" ∧ ["\x7b1\x7d"].length ≤ 1 ∧ ¬OpensSlot ['1', '2'] ∧
    render ["\x7b1\x7d"] (callFailed.flatMap Segment.written ++ '\x7b' :: ['1', '2']) =
      "Call to '\x7b1\x7d' failed: ?\x7b12".toList := by
  have hopen : ¬OpensSlot ['1', '2'] := slotAt?_eq_none_iff.1 (by decide)
  obtain ⟨hsegments, hfound, hmissing, -, hbrace⟩ := rendering_one_pass_lossless ["\x7b1\x7d"]
  have hfirst : slotText ["\x7b1\x7d"] 0 = "\x7b1\x7d".toList := hfound 0 _ (by decide) rfl
  have hsecond : slotText ["\x7b1\x7d"] 1 = ['?'] := hmissing 1 (.inl (by decide))
  have hrest : render ["\x7b1\x7d"] ['1', '2'] = ['1', '2'] :=
    hsegments [.literal ['1', '2'] (by decide)]
  have htext : callFailed.flatMap (Segment.text ["\x7b1\x7d"]) = "Call to '".toList ++
      (slotText ["\x7b1\x7d"] 0 ++ ("' failed: ".toList ++ (slotText ["\x7b1\x7d"] 1 ++ []))) := rfl
  refine ⟨rfl, by decide, hopen, ?_⟩
  rw [hbrace _ _ hopen, hsegments, hrest, htext, hfirst, hsecond]
  decide

end StackScript.Diagnostic
