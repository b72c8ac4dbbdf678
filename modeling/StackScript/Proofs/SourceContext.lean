import Mathlib.Data.Nat.Notation
import StackScript.Source.Context

/-!
# The source around a place, complete and aligned

`Source.SplitsInto` says what the lines of a text are without scanning it, and a text has only one
list of lines, `Source.linesFrom_eq_iff`.

The lines around a place form a `Source.Window`. Its numbers go up, so the last one is the widest
and the width it sets has room for all others. Each printed line then begins with a margin of the
same length, in which there is no bar: a number and a blank, blanks, or dashes. That the bars stand
below one another, that no other line is the caret line and that the caret points at its column are
all read off the margins.
-/

namespace StackScript.Source

/-! ## Lines -/

/-- A text consists of lines. A carriage return belongs to the line end only directly before a line
feed, and the last line need not have an end. -/
inductive SplitsInto : List Char → List (List Char) → Prop
  /-- Nothing is left. -/
  | nil : SplitsInto [] []
  /-- The last line has no end. -/
  | last {line : List Char} (hne : line ≠ []) (hline : '\n' ∉ line) : SplitsInto line [line]
  /-- A line ends with a line feed. -/
  | feed {line rest : List Char} {ls : List (List Char)} (hline : '\n' ∉ line)
      (hbare : line.getLast? ≠ some '\r') (hrest : SplitsInto rest ls) :
      SplitsInto (line ++ '\n' :: rest) (line :: ls)
  /-- A line ends with a carriage return and a line feed. -/
  | returnFeed {line rest : List Char} {ls : List (List Char)} (hline : '\n' ∉ line)
      (hrest : SplitsInto rest ls) : SplitsInto (line ++ '\r' :: '\n' :: rest) (line :: ls)

theorem SplitsInto.newline_not_mem {cs : List Char} {ls : List (List Char)}
    (h : SplitsInto cs ls) : ∀ line ∈ ls, '\n' ∉ line := by
  induction h with
  | nil => exact List.forall_mem_nil _
  | last _ hline => exact List.forall_mem_singleton.2 hline
  | feed hline _ _ ih => exact List.forall_mem_cons.2 ⟨hline, ih⟩
  | returnFeed hline _ ih => exact List.forall_mem_cons.2 ⟨hline, ih⟩

theorem withoutReturn_concat (line : List Char) : withoutReturn (line ++ ['\r']) = line := by
  simp [withoutReturn]

theorem withoutReturn_of_bare {line : List Char} (h : line.getLast? ≠ some '\r') :
    withoutReturn line = line := by
  rw [withoutReturn]
  split
  · rename_i rest hreverse
    rw [List.getLast?_eq_head?_reverse, hreverse] at h
    exact absurd rfl h
  · rfl

theorem linesFrom_append {line : List Char} (hline : '\n' ∉ line) (start rest : List Char) :
    linesFrom start (line ++ rest) = linesFrom (line.reverse ++ start) rest := by
  induction line generalizing start with
  | nil => rfl
  | cons c line ih =>
    rw [List.mem_cons, not_or] at hline
    rw [List.cons_append, linesFrom, if_neg (Ne.symm hline.1), ih hline.2, List.reverse_cons,
      List.append_assoc, List.singleton_append]

/-- The line under way is kept with its last character first, so the text still to be split is its
reverse before what is left. -/
theorem splitsInto_linesFrom {start : List Char} (hstart : '\n' ∉ start) (cs : List Char) :
    SplitsInto (start.reverse ++ cs) (linesFrom start cs) := by
  induction cs generalizing start with
  | nil =>
    cases start with
    | nil => exact .nil
    | cons c start =>
      rw [List.append_nil]
      exact .last (by simp) (mt List.mem_reverse.1 hstart)
  | cons c cs ih =>
    rw [linesFrom]
    by_cases hc : c = '\n'
    · rw [if_pos hc, hc]
      have hrest : SplitsInto cs (linesFrom [] cs) := ih List.not_mem_nil
      by_cases hbare : start.reverse.getLast? = some '\r'
      · obtain ⟨line, hline⟩ := List.getLast?_eq_some_iff.1 hbare
        have hnot : '\n' ∉ line := fun h ↦ hstart (List.mem_reverse.1 (hline ▸ by simp [h]))
        rw [hline, withoutReturn_concat, List.append_assoc, List.singleton_append]
        exact .returnFeed hnot hrest
      · rw [withoutReturn_of_bare hbare]
        exact .feed (mt List.mem_reverse.1 hstart) hbare hrest
    · rw [if_neg hc]
      have hnext : '\n' ∉ c :: start := by simp [hstart, Ne.symm hc]
      simpa using ih hnext

theorem linesFrom_eq_iff {cs : List Char} {ls : List (List Char)} :
    linesFrom [] cs = ls ↔ SplitsInto cs ls := by
  constructor
  · rintro rfl
    exact splitsInto_linesFrom List.not_mem_nil cs
  · intro h
    induction h with
    | nil => rfl
    | @last line hne hline =>
      rw [← List.append_nil line, linesFrom_append hline, linesFrom]
      simp [hne]
    | feed hline hbare _ ih =>
      rw [linesFrom_append hline, linesFrom, if_pos rfl, ih, List.append_nil, List.reverse_reverse,
        withoutReturn_of_bare hbare]
    | @returnFeed line rest ls hline _ ih =>
      have hreturn : '\n' ∉ line ++ ['\r'] := by simp [hline]
      rw [← List.singleton_append, ← List.append_assoc, linesFrom_append hreturn, linesFrom,
        if_pos rfl, ih, List.append_nil, List.reverse_reverse, withoutReturn_concat]

theorem splitsInto_iff {text : String} {ls : List String} :
    SplitsInto text.toList (ls.map String.toList) ↔ ls = lines text := by
  rw [← linesFrom_eq_iff, lines]
  constructor
  · intro h
    simp [h]
  · rintro rfl
    simp

/-! ## Margins -/

theorem toList_pushn (s : String) (c : Char) (n : ℕ) :
    (s.pushn c n).toList = s.toList ++ List.replicate n c := by
  induction n with
  | zero => simp [String.pushn, Nat.repeat]
  | succ n ih =>
    rw [List.replicate_succ', ← List.append_assoc, ← ih]
    exact String.toList_push c

theorem toList_ruleLine (width : ℕ) :
    (ruleLine width).toList = List.replicate (width + 1) '-' ++ '|' :: ['-', '-'] := by
  rw [ruleLine, String.toList_append, toList_pushn]
  rfl

theorem toList_caretLine (width column : ℕ) : (caretLine width column).toList =
    List.replicate (width + 1) ' ' ++ '|' :: ' ' :: (List.replicate (column - 1) ' ' ++ ['^']) := by
  rw [caretLine, String.toList_append, String.toList_append, String.toList_append, toList_pushn,
    toList_pushn, List.replicate_succ']
  simp

theorem length_toString (k : ℕ) : (toString k).length = (Nat.toDigits 10 k).length := by
  rw [Nat.toString_eq_repr, ← String.length_toList, Nat.toList_repr]

/-- What stands before the bar of a numbered line: the number, behind blanks, and a blank. -/
def numberMargin (width k : ℕ) : List Char :=
  List.replicate (width - (Nat.toDigits 10 k).length) ' ' ++ Nat.toDigits 10 k ++ [' ']

theorem toList_numberedLine (width k : ℕ) (s : String) :
    (numberedLine width k s).toList = numberMargin width k ++ '|' :: ' ' :: s.toList := by
  rw [numberedLine, padLeft, String.toList_append, String.toList_append, String.toList_append,
    toList_pushn, length_toString, Nat.toString_eq_repr, Nat.toList_repr, numberMargin]
  simp

theorem length_numberMargin {width k : ℕ} (hfits : (Nat.toDigits 10 k).length ≤ width) :
    (numberMargin width k).length = width + 1 := by
  rw [numberMargin, List.length_append, List.length_append, List.length_replicate,
    List.length_singleton]
  omega

theorem not_mem_numberMargin {c : Char} (hblank : c ≠ ' ') (hdigit : c.isDigit = false)
    (width k : ℕ) : c ∉ numberMargin width k := by
  have hnumber : c ∉ Nat.toDigits 10 k := fun h ↦
    absurd (Nat.isDigit_of_mem_toDigits (by decide) (by decide) h) (Bool.eq_false_iff.1 hdigit)
  simp [numberMargin, hblank, hnumber]

theorem length_toDigits_mono {k m : ℕ} (h : k ≤ m) :
    (Nat.toDigits 10 k).length ≤ (Nat.toDigits 10 m).length := by
  have hiff := fun n ↦ Nat.length_toDigits_le_iff (b := 10) (n := n) (by decide)
    (Nat.length_toDigits_pos (b := 10) (n := m))
  exact (hiff k).2 (Nat.lt_of_le_of_lt h ((hiff m).1 (Nat.le_refl _)))

theorem idxOf?_append_cons {c : Char} {margin : List Char} (h : c ∉ margin) (rest : List Char) :
    (margin ++ c :: rest).idxOf? c = some margin.length := by
  rw [List.idxOf?_eq_some_iff]
  refine ⟨by simp, by simp, fun i hi heq ↦ h ?_⟩
  rw [List.getElem_append_left hi] at heq
  exact heq ▸ List.getElem_mem hi

theorem idxOf?_ruleLine (width : ℕ) : (ruleLine width).toList.idxOf? '|' = some (width + 1) := by
  rw [toList_ruleLine, idxOf?_append_cons (by simp), List.length_replicate]

theorem idxOf?_caretLine (width column : ℕ) :
    (caretLine width column).toList.idxOf? '|' = some (width + 1) := by
  rw [toList_caretLine, idxOf?_append_cons (by simp), List.length_replicate]

theorem idxOf?_numberedLine {width k : ℕ} (hfits : (Nat.toDigits 10 k).length ≤ width)
    (s : String) : (numberedLine width k s).toList.idxOf? '|' = some (width + 1) := by
  rw [toList_numberedLine, idxOf?_append_cons (not_mem_numberMargin (by decide) (by decide) _ _),
    length_numberMargin hfits]

/-! ## The caret -/

theorem idxOf?_caret (width column : ℕ) :
    (caretLine width column).toList.idxOf? '^' = some (width + 2 + max column 1) := by
  have hsplit : (caretLine width column).toList = (List.replicate (width + 1) ' ' ++
      '|' :: ' ' :: List.replicate (column - 1) ' ') ++ ['^'] := by
    rw [toList_caretLine]
    simp
  rw [hsplit, idxOf?_append_cons (by simp)]
  simp only [List.length_append, List.length_cons, List.length_replicate, Option.some.injEq]
  omega

theorem getElem?_numberedLine {width k : ℕ} (hfits : (Nat.toDigits 10 k).length ≤ width)
    (s : String) (i : ℕ) : (numberedLine width k s).toList[width + 3 + i]? = s.toList[i]? := by
  have hlength := length_numberMargin hfits
  rw [toList_numberedLine, List.getElem?_append_right (by omega), hlength,
    show width + 3 + i - (width + 1) = i + 2 by omega]
  rfl

theorem ruleLine_ne_caretLine (width column : ℕ) : ruleLine width ≠ caretLine width column := by
  intro h
  have hhead := congrArg (fun s : String ↦ s.toList.head?) h
  simp [toList_ruleLine, toList_caretLine, List.replicate_succ] at hhead

/-- A number has a digit where the caret line has blanks only. -/
theorem numberedLine_ne_caretLine {width k : ℕ} (hfits : (Nat.toDigits 10 k).length ≤ width)
    (s : String) (column : ℕ) : numberedLine width k s ≠ caretLine width column := by
  intro h
  have hlists := congrArg String.toList h
  rw [toList_numberedLine, toList_caretLine] at hlists
  -- both margins end before the same bar, so they are equal
  have hmargin := List.append_inj_left hlists (by simp [length_numberMargin hfits])
  obtain ⟨d, hd⟩ := List.exists_mem_of_ne_nil _ (Nat.toDigits_ne_nil (b := 10) (n := k))
  have hmem : d ∈ numberMargin width k := by simp [numberMargin, hd]
  rw [hmargin] at hmem
  rw [List.eq_of_mem_replicate hmem] at hd
  exact absurd (Nat.isDigit_of_mem_toDigits (by decide) (by decide) hd) (by decide)

/-! ## Windows -/

def row (width : ℕ) (e : String × ℕ) : String :=
  numberedLine width e.2 e.1

theorem body_append (width line column n : ℕ) (xs ys : List String) :
    body width line column n (xs ++ ys) =
      body width line column n xs ++ body width line column (n + xs.length) ys := by
  induction xs generalizing n with
  | nil => rfl
  | cons s xs ih =>
    rw [List.cons_append, body, body, ih, List.length_cons, List.cons_append, List.append_assoc,
      Nat.add_right_comm, Nat.add_assoc]

/-- Without the line of the place there is no caret. -/
theorem body_of_ne {line n : ℕ} {xs : List String} (h : ∀ k, n ≤ k → k < n + xs.length → k ≠ line)
    (width column : ℕ) : body width line column n xs = (xs.zipIdx n).map (row width) := by
  induction xs generalizing n with
  | nil => rfl
  | cons s xs ih =>
    have hn : n ≠ line := h n (Nat.le_refl n) (by simp)
    have hrest : ∀ k, n + 1 ≤ k → k < n + 1 + xs.length → k ≠ line := fun k hk hlt ↦
      h k (by omega) (by rw [List.length_cons]; omega)
    rw [body, if_neg hn, List.nil_append, ih hrest, List.zipIdx_cons, List.map_cons, row]

/-- The source lines around a line, each with its number. -/
structure Window (all : List String) (line : ℕ) where
  /-- The lines up to the line itself. -/
  above : List (String × ℕ)
  /-- The lines after it. -/
  below : List (String × ℕ)
  /-- The lines stand in order, and each once. -/
  increasing : ((above ++ below).map Prod.snd).Pairwise (· < ·)
  /-- No line within reach is missing, and there is no other. -/
  mem_iff : ∀ k, k ∈ (above ++ below).map Prod.snd ↔
    max 1 (line - 2) ≤ k ∧ k ≤ min all.length (line + 2)
  /-- Each line is the one with its number, counted from one. -/
  source : ∀ e ∈ above ++ below, 1 ≤ e.2 ∧ all[e.2 - 1]? = some e.1
  /-- The line itself comes last of those above. -/
  ends_at_line : above.getLast?.map Prod.snd = some line

/-- The lines within reach of a line. -/
def shown (all : List String) (line : ℕ) : List String :=
  (all.drop (max 1 (line - reach) - 1)).take
    (min all.length (line + reach) + 1 - max 1 (line - reach))

variable {all : List String} {line : ℕ}

theorem length_shown (hpos : 1 ≤ line) : (shown all line).length =
    min all.length (line + reach) + 1 - max 1 (line - reach) := by
  rw [shown, List.length_take, List.length_drop]
  omega

theorem getElem?_shown {k : ℕ} {s : String} (hk : max 1 (line - reach) ≤ k)
    (h : (shown all line)[k - max 1 (line - reach)]? = some s) : all[k - 1]? = some s := by
  rw [shown, List.getElem?_take] at h
  split at h
  · rwa [List.getElem?_drop, show max 1 (line - reach) - 1 + (k - max 1 (line - reach)) = k - 1 by
      omega] at h
  · cases h

/-- The shown lines, split at the line of the place. -/
theorem exists_shown_eq (hpos : 1 ≤ line) (hle : line ≤ all.length) :
    ∃ xs s ys, shown all line = xs ++ s :: ys ∧ xs.length = line - max 1 (line - reach) := by
  have hlt : line - max 1 (line - reach) < (shown all line).length := by
    rw [length_shown hpos, reach]
    omega
  have hsplit := (shown all line).take_append_drop (line - max 1 (line - reach))
  rw [List.drop_eq_getElem_cons hlt] at hsplit
  exact ⟨_, _, _, hsplit.symm, List.length_take_of_le (Nat.le_of_lt hlt)⟩

theorem body_split {n : ℕ} {xs : List String} (hn : n + xs.length = line) (s : String)
    (ys : List String) (width column : ℕ) :
    body width line column n (xs ++ s :: ys) = ((xs ++ [s]).zipIdx n).map (row width) ++
      caretLine width column :: (ys.zipIdx (line + 1)).map (row width) := by
  have habove : ∀ k, n ≤ k → k < n + xs.length → k ≠ line := fun k _ hlt ↦ by omega
  have hbelow : ∀ k, line + 1 ≤ k → k < line + 1 + ys.length → k ≠ line := fun k hk _ ↦ by omega
  rw [body_append, body_of_ne habove, hn, body, if_pos rfl, body_of_ne hbelow, List.zipIdx_append,
    hn, List.map_append, List.append_assoc]
  rfl

/-- The lines of the body are those of a window, with the caret between its halves. -/
theorem exists_window (hpos : 1 ≤ line) (hle : line ≤ all.length) :
    ∃ w : Window all line, ∀ width column,
      body width line column (max 1 (line - reach)) (shown all line) =
        w.above.map (row width) ++ caretLine width column :: w.below.map (row width) := by
  obtain ⟨xs, s, ys, hshown, hxs⟩ := exists_shown_eq hpos hle
  have hfirst : max 1 (line - reach) + xs.length = line := by
    rw [hxs, reach]
    omega
  have hnumbered : (xs ++ [s]).zipIdx (max 1 (line - reach)) ++ ys.zipIdx (line + 1) =
      (shown all line).zipIdx (max 1 (line - reach)) := by
    rw [hshown, List.zipIdx_append, List.zipIdx_append, List.zipIdx_cons, hfirst,
      List.append_assoc]
    rfl
  -- numbering the two halves apart is numbering all lines from the first one on, so that what a
  -- window asks for can be read off one list
  have hbody := body_split hfirst s ys
  rw [← hshown] at hbody
  refine ⟨⟨_, _, ?_, ?_, ?_, ?_⟩, hbody⟩
  · rw [hnumbered, List.zipIdx_map_snd]
    exact List.pairwise_lt_range'
  · intro k
    rw [hnumbered, List.zipIdx_map_snd, length_shown hpos, List.mem_range'_1, reach]
    omega
  · rintro ⟨t, k⟩ hmem
    rw [hnumbered, List.mem_zipIdx_iff_le_and_getElem?_sub] at hmem
    exact ⟨Nat.le_trans (Nat.le_max_left _ _) hmem.1, getElem?_shown hmem.1 hmem.2⟩
  · rw [List.zipIdx_append, hfirst]
    simp

/-! ## The printed lines -/

namespace Window

variable (w : Window all line)

/-- How wide the numbers are: as wide as the last one. -/
def width (_ : Window all line) : ℕ :=
  (Nat.toDigits 10 (min all.length (line + 2))).length

/-- What is printed for a window. -/
def printed (column : ℕ) : List String :=
  ruleLine w.width :: (w.above.map (row w.width) ++
    caretLine w.width column :: w.below.map (row w.width)) ++ [ruleLine w.width]

variable {w}

theorem length_toDigits_le {e : String × ℕ} (he : e ∈ w.above ++ w.below) :
    (Nat.toDigits 10 e.2).length ≤ w.width :=
  length_toDigits_mono ((w.mem_iff e.2).1 (List.mem_map_of_mem he)).2

theorem mem_printed_iff {column : ℕ} {p : String} : p ∈ w.printed column ↔
    p = ruleLine w.width ∨ p = caretLine w.width column ∨
      ∃ e ∈ w.above ++ w.below, row w.width e = p := by
  simp only [printed, List.cons_append, List.mem_cons, List.mem_append, List.mem_map,
    List.not_mem_nil, or_false]
  grind

variable (w)

theorem count_caretLine (column : ℕ) :
    (w.printed column).count (caretLine w.width column) = 1 := by
  have hrows : ∀ es : List (String × ℕ), es ⊆ w.above ++ w.below →
      (es.map (row w.width)).count (caretLine w.width column) = 0 := by
    intro es hes
    rw [List.count_eq_zero]
    intro hmem
    obtain ⟨e, he, heq⟩ := List.mem_map.1 hmem
    exact numberedLine_ne_caretLine (length_toDigits_le (hes he)) e.1 column heq
  have hrule := ruleLine_ne_caretLine w.width column
  rw [printed, List.cons_append, List.count_cons_of_ne hrule, List.count_append, List.count_append,
    List.count_cons_self, hrows _ (List.subset_append_left _ _),
    hrows _ (List.subset_append_right _ _), List.count_cons_of_ne hrule, List.count_nil]

theorem idxOf?_of_mem_printed {column : ℕ} {p : String} (hp : p ∈ w.printed column) :
    p.toList.idxOf? '|' = some (w.width + 1) := by
  rcases mem_printed_iff.1 hp with rfl | rfl | ⟨e, he, rfl⟩
  · exact idxOf?_ruleLine _
  · exact idxOf?_caretLine _ column
  · exact idxOf?_numberedLine (length_toDigits_le he) e.1

theorem newline_not_mem_of_mem_printed (hall : ∀ s ∈ all, '\n' ∉ s.toList) {column : ℕ} {p : String}
    (hp : p ∈ w.printed column) : '\n' ∉ p.toList := by
  rcases mem_printed_iff.1 hp with rfl | rfl | ⟨e, he, rfl⟩
  · simp [toList_ruleLine]
  · simp [toList_caretLine]
  · have htext : '\n' ∉ e.1.toList := hall e.1 (List.mem_of_getElem? (w.source e he).2)
    have hmargin := not_mem_numberMargin (c := '\n') (by decide) (by decide) w.width e.2
    simp [row, toList_numberedLine, htext, hmargin]

end Window

theorem context_eq_nil {text : String} (h : line = 0 ∨ (lines text).length < line) (column : ℕ) :
    context text line column = [] := by
  rw [context]
  exact if_pos h

theorem exists_context_eq {text : String} (hpos : 1 ≤ line) (hle : line ≤ (lines text).length)
    (column : ℕ) :
    ∃ w : Window (lines text) line, context text line column = w.printed column := by
  obtain ⟨w, hbody⟩ := exists_window hpos hle
  refine ⟨w, ?_⟩
  rw [Window.printed, ← hbody, Window.width, ← length_toString, context, if_neg (by omega)]
  rfl

/-- **The source around a place is complete and aligned.** A text has one list of lines. If the line
of the place is none of them, nothing is printed. Otherwise the lines of a window are printed
between two rules, and one caret line directly after the line of the place. All numbers fit into the
width of the last one, the bars of all printed lines stand below one another, and the caret stands
below the column; column zero counts as the first. -/
theorem context_complete_and_aligned (text : String) (line column : ℕ) :
    ∃ all : List String,
      (∀ ls : List String, SplitsInto text.toList (ls.map String.toList) ↔ ls = all) ∧
      (line = 0 ∨ all.length < line → context text line column = []) ∧
      (1 ≤ line → line ≤ all.length → ∃ w : Window all line,
        context text line column = w.printed column ∧
        (w.printed column).count (caretLine w.width column) = 1 ∧
        (∀ e ∈ w.above ++ w.below, (Nat.toDigits 10 e.2).length ≤ w.width ∧
          (row w.width e).toList = numberMargin w.width e.2 ++ '|' :: ' ' :: e.1.toList) ∧
        (∀ p ∈ w.printed column, p.toList.idxOf? '|' = some (w.width + 1) ∧ '\n' ∉ p.toList) ∧
        (caretLine w.width column).toList.idxOf? '^' = some (w.width + 2 + max column 1) ∧
        ∀ s, all[line - 1]? = some s →
          (row w.width (s, line)).toList[w.width + 2 + max column 1]? =
            s.toList[max column 1 - 1]?) := by
  refine ⟨lines text, fun ls ↦ splitsInto_iff, fun h ↦ context_eq_nil h column, ?_⟩
  intro hpos hle
  obtain ⟨w, hcontext⟩ := exists_context_eq hpos hle column
  have hlines : ∀ s ∈ lines text, '\n' ∉ s.toList := fun s hs ↦
    (splitsInto_iff.2 rfl).newline_not_mem s.toList (List.mem_map_of_mem hs)
  have hfits : (Nat.toDigits 10 line).length ≤ w.width :=
    length_toDigits_mono (Nat.le_min.2 ⟨hle, Nat.le_add_right line 2⟩)
  refine ⟨w, hcontext, w.count_caretLine column, fun e he ↦ ?_, fun p hp ↦ ?_,
    idxOf?_caret w.width column, fun s _ ↦ ?_⟩
  · exact ⟨Window.length_toDigits_le he, toList_numberedLine w.width e.2 e.1⟩
  · exact ⟨w.idxOf?_of_mem_printed hp, w.newline_not_mem_of_mem_printed hlines hp⟩
  · have hoffset : w.width + 2 + max column 1 = w.width + 3 + (max column 1 - 1) := by omega
    rw [hoffset]
    exact getElem?_numberedLine hfits s (max column 1 - 1)

/-- Ten lines, of which the first eight are empty. -/
def tenLines : String :=
  "\n\n\n\n\n\n\n\na = 1\r\nb"

/-- The numbers around the ninth line have one digit or two. -/
theorem context_complete_and_aligned_tenLines :
    (lines tenLines).length = 10 ∧ (lines tenLines)[8]? = some "a = 1" ∧
    ∃ w : Window (lines tenLines) 9, w.width = 2 ∧ context tenLines 9 5 = w.printed 5 ∧
      (caretLine w.width 5).toList.idxOf? '^' = some 9 ∧
      (row w.width ("a = 1", 9)).toList[9]? = some '1' := by
  have hlength : (lines tenLines).length = 10 := by decide
  have hline : (lines tenLines)[8]? = some "a = 1" := by decide
  obtain ⟨all, hall, -, hshown⟩ := context_complete_and_aligned tenLines 9 5
  obtain rfl : lines tenLines = all := (hall _).1 (splitsInto_iff.2 rfl)
  obtain ⟨w, hcontext, -, -, -, hcaret, hpoints⟩ := hshown (by decide) (by rw [hlength]; decide)
  have hwidth : w.width = 2 := by
    rw [Window.width, hlength]
    decide
  have hpoint := hpoints "a = 1" hline
  rw [hwidth] at hcaret hpoint
  refine ⟨hlength, hline, w, hwidth, hcontext, ?_, ?_⟩
  · rw [hwidth]
    exact hcaret
  · rw [hwidth]
    exact hpoint.trans (by decide)

end StackScript.Source
