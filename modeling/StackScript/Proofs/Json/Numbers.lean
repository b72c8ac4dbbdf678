import StackScript.Proofs.Json.Nesting
import StackScript.Proofs.WholeText

/-!
# Numbers in JSON texts

A number has no closing character: its reader finds the end by what comes next. `Reader.Stops` says
that a delimiter is as good an end as that of the text, so it is enough to read a number alone.
Naturals of 64 bits are read exactly, `Reader.reads_natural`.

Other numbers are rounded when they are read, and not always to the nearest one: `ReadsBack` singles
out those whose text gives them back. Whole numbers up to `10 ^ 14` are among them,
`readsBack_of_isWhole`.
-/

namespace StackScript.Json

namespace Reader

variable {α β : Type}

/-! ## Readers that stop at a delimiter

Only successes are compared. A flaw counts the characters that are left, so its place changes with
what follows the text. -/

/-- Reading the text goes the same way with a delimiter behind it. -/
def StopsAt (r : Reader α) (t : List Char) : Prop :=
  ∀ a t' rest, Delimited rest → r t = (.ok a, t') → r (t ++ rest) = (.ok a, t' ++ rest)

/-- The reader takes a delimiter for the end of the text. -/
def Stops (r : Reader α) : Prop :=
  ∀ t, StopsAt r t

theorem Stops.reads {r : Reader α} (h : Stops r) {t : List Char} {a : α} (hr : r t = (.ok a, [])) :
    Reads r t a :=
  fun rest hrest ↦ h t a [] rest hrest hr

theorem eq_ok_of_bind_eq_ok {r : Reader α} {f : α → Reader β} {cs rest : List Char} {b : β}
    (h : (r >>= f) cs = (.ok b, rest)) :
    ∃ a mid, r cs = (.ok a, mid) ∧ f a mid = (.ok b, rest) := by
  change Reader.bind r f cs = _ at h
  rw [Reader.bind] at h
  cases hr : r cs with
  | mk result mid =>
    rw [hr] at h
    cases result with
    | error e => cases h
    | ok a => exact ⟨a, mid, rfl, h⟩

theorem StopsAt.bind {r : Reader α} {f : α → Reader β} {t : List Char} (hr : StopsAt r t)
    (hf : ∀ a t', r t = (.ok a, t') → StopsAt (f a) t') : StopsAt (r >>= f) t := by
  intro b t' rest hrest h
  obtain ⟨a, mid, hra, hfa⟩ := eq_ok_of_bind_eq_ok h
  rw [bind_of_ok (hr a mid rest hrest hra)]
  exact hf a mid hra b t' rest hrest hfa

theorem Stops.bind {r : Reader α} {f : α → Reader β} (hr : Stops r) (hf : ∀ a, Stops (f a)) :
    Stops (r >>= f) :=
  fun t ↦ (hr t).bind fun a t' _ ↦ hf a t'

theorem stops_pure (a : α) : Stops (pure a : Reader α) := by
  intro t b t' rest _ h
  cases h
  rfl

/-- A reader that fails stops as well as any. -/
theorem stopsAt_of_error {r : Reader α} {t : List Char} (h : ∀ a t', r t ≠ (.ok a, t')) :
    StopsAt r t :=
  fun a t' _ _ hr ↦ absurd hr (h a t')

theorem Stops.placed {r : Reader α} (h : Stops r) : Stops (placed r) := by
  intro t a t' rest hrest hr
  refine placed_of_ok (h t a t' rest hrest ?_)
  rw [Reader.placed] at hr
  cases hrt : r t with
  | mk result mid =>
    rw [hrt] at hr
    cases result with
    | error e => cases hr
    | ok b => exact hr

theorem stopsAt_skip {f : Unit → Reader β} {c : Char} {t : List Char} (h : StopsAt (f ()) t) :
    StopsAt (skip >>= f) (c :: t) :=
  h

theorem stopsAt_peek {f : Option Char → Reader β} {c : Char} {t : List Char}
    (h : StopsAt (f (some c)) (c :: t)) : StopsAt (peek? >>= f) (c :: t) :=
  h

/-- At its end a text may go on with any character that the reader treats like the end. -/
theorem stopsAt_peek_nil {f : Option Char → Reader β} (h : Stops (f none))
    (hdelimiter : ∀ c, c = ',' ∨ c = ']' ∨ c = '\x7d' → f (some c) = f none) :
    StopsAt (peek? >>= f) [] := by
  intro a t' rest hrest hf
  have hhead : f rest.head? = f none := by
    cases rest with
    | nil => rfl
    | cons c rest => exact hdelimiter c (hrest c rfl)
  change f rest.head? rest = _
  rw [hhead]
  exact h [] a t' rest hrest hf

theorem not_isDigit_of_delimiter {c : Char} (hc : c = ',' ∨ c = ']' ∨ c = '\x7d') :
    c.isDigit = false := by
  obtain rfl | rfl | rfl := hc <;> decide

theorem dropWhile_isDigit_of_head? {rest : List Char}
    (h : ∀ c ∈ rest.head?, c.isDigit = false) : rest.dropWhile Char.isDigit = rest := by
  cases rest with
  | nil => rfl
  | cons c rest => exact List.dropWhile_cons_of_neg (by rw [h c rfl]; decide)

theorem dropWhile_isDigit_append (t : List Char) {rest : List Char} (h : Delimited rest) :
    (t ++ rest).dropWhile Char.isDigit = t.dropWhile Char.isDigit ++ rest := by
  rw [List.dropWhile_append]
  by_cases ht : (t.dropWhile Char.isDigit).isEmpty
  · rw [if_pos ht, List.isEmpty_iff.1 ht, List.nil_append]
    exact dropWhile_isDigit_of_head? fun c hc ↦ not_isDigit_of_delimiter (h c hc)
  · rw [if_neg ht]

theorem takeWhile_isDigit_append (t : List Char) {rest : List Char} (h : Delimited rest) :
    (t ++ rest).takeWhile Char.isDigit = t.takeWhile Char.isDigit := by
  have hsplit := List.takeWhile_append_dropWhile (p := Char.isDigit) (l := t ++ rest)
  rw [dropWhile_isDigit_append t h, ← List.append_assoc] at hsplit
  exact List.append_cancel_right ((List.append_cancel_right hsplit).trans
    List.takeWhile_append_dropWhile.symm)

theorem stops_skipWhile_isDigit : Stops (skipWhile Char.isDigit) := by
  intro t a t' rest hrest h
  cases h
  rw [skipWhile, dropWhile_isDigit_append t hrest]

end Reader

namespace Num

open Reader

theorem fill_of_head? (bound s count : ℕ) {rest : List Char}
    (h : ∀ c ∈ rest.head?, c.isDigit = false) : fill bound s count rest = ⟨s, count, rest⟩ := by
  cases rest with
  | nil => rfl
  | cons c rest =>
    have hc : ¬(c.isDigit ∧ s * 10 + digitValue c ≤ bound) := by
      rw [h c rfl]
      exact fun h ↦ Bool.false_ne_true h.1
    rw [fill, if_neg hc]

theorem fill_append (bound s count : ℕ) (t : List Char) {rest : List Char} (h : Delimited rest) :
    fill bound s count (t ++ rest) = ⟨(fill bound s count t).significand,
      (fill bound s count t).count, (fill bound s count t).rest ++ rest⟩ := by
  induction t generalizing s count with
  | nil => exact fill_of_head? bound s count fun c hc ↦ not_isDigit_of_delimiter (h c hc)
  | cons c t ih =>
    rw [List.cons_append, fill, fill]
    by_cases hc : c.isDigit ∧ s * 10 + digitValue c ≤ bound
    · rw [if_pos hc, if_pos hc, ih]
    · rw [if_neg hc, if_neg hc]
      rfl

theorem stops_fillFrom (bound s : ℕ) : Stops (fillFrom bound s) := by
  intro t a t' rest hrest h
  cases h
  rw [fillFrom, fill_append _ _ _ _ hrest]

theorem stops_digitNext : Stops digitNext := by
  intro t
  cases t with
  | nil =>
    refine stopsAt_peek_nil (stops_pure _) fun c hc ↦ ?_
    rw [Option.any_some, not_isDigit_of_delimiter hc]
    rfl
  | cons c t => exact stopsAt_peek (stops_pure _ _)

theorem stops_countDigits : Stops countDigits := by
  intro t a t' rest hrest h
  cases h
  rw [countDigits, dropWhile_isDigit_append t hrest, takeWhile_isDigit_append t hrest]

theorem stops_finish (negative : Bool) (s : ℕ) (e : ℤ) : Stops (finish negative s e) := by
  intro t
  rw [finish]
  cases scale (Float.ofNat s) e with
  | some x => exact stops_pure _ t
  | none => exact stopsAt_of_error nofun

/-- Behind the sign of an exponent, at its first digit. -/
theorem stops_exponentDigits (negative : Bool) (s : ℕ) (e : ℤ) (below : Prop) [Decidable below] :
    Stops (do
      let (n, _) ← fillFrom largestExponent 0
      if ← digitNext then
        if s ≠ 0 ∧ !below then
          next .numberOutOfRange
        else
          skipWhile Char.isDigit
          return float (signed negative 0)
      else
        finish negative s (if below then e - n else e + n)) := by
  refine (stops_fillFrom largestExponent 0).bind fun p ↦ stops_digitNext.bind fun more ↦ ?_
  split
  · split
    · exact fun t ↦ stopsAt_of_error nofun
    · exact stops_skipWhile_isDigit.bind fun _ ↦ stops_pure _
  · exact stops_finish negative s _

theorem stops_exponentPart (negative : Bool) (s : ℕ) (e : ℤ) :
    Stops (exponentPart negative s e) := by
  intro t
  cases t with
  | nil => exact stopsAt_of_error nofun
  | cons c t =>
    refine stopsAt_skip ?_
    cases t with
    | nil => exact stopsAt_of_error nofun
    | cons c t =>
      refine stopsAt_peek ?_
      dsimp only
      -- with a sign before the digits of the exponent, and without
      split
      · refine stopsAt_skip ?_
        cases t with
        | nil => exact stopsAt_of_error nofun
        | cons d t =>
          refine stopsAt_peek ?_
          dsimp only
          split
          · exact stops_exponentDigits negative s e _ _
          · exact stopsAt_of_error nofun
      · refine stopsAt_peek ?_
        dsimp only
        split
        · exact stops_exponentDigits negative s e _ _
        · exact stopsAt_of_error nofun

theorem stops_afterDigits (negative : Bool) (s : ℕ) (e : ℤ) : Stops (afterDigits negative s e) := by
  intro t
  have h : ∀ c : Option Char, Stops (if c = some 'e' ∨ c = some 'E' then exponentPart negative s e
      else finish negative s e) := by
    intro c
    split
    · exact stops_exponentPart negative s e
    · exact stops_finish negative s e
  cases t with
  | nil => exact stopsAt_peek_nil (h none) (by rintro c (rfl | rfl | rfl) <;> rfl)
  | cons c t => exact stopsAt_peek (h (some c) _)

theorem stops_fractionPart (negative : Bool) (s : ℕ) (e : ℤ) :
    Stops (fractionPart negative s e) := by
  intro t
  cases t with
  | nil => exact stopsAt_of_error nofun
  | cons c t =>
    refine stopsAt_skip ((stops_fillFrom largest s).bind
      (fun p ↦ stops_digitNext.bind fun more ↦ ?_) t)
    intro t
    split
    · cases t <;> exact stopsAt_of_error nofun
    · exact (stops_skipWhile_isDigit.bind fun _ ↦ stops_afterDigits negative _ _) t

theorem stops_afterWhole (negative : Bool) (s dropped : ℕ) :
    Stops (afterWhole negative s dropped) := by
  intro t
  have h : ∀ c : Option Char, Stops (if c = some '.' then fractionPart negative s dropped
      else if c = some 'e' ∨ c = some 'E' then exponentPart negative s dropped
      else if dropped = 0 then return integer negative s
      else finish negative s dropped) := by
    intro c
    split
    · exact stops_fractionPart negative s dropped
    split
    · exact stops_exponentPart negative s dropped
    split
    · exact stops_pure _
    · exact stops_finish negative s dropped
  cases t with
  | nil => exact stopsAt_peek_nil (h none) (by rintro c (rfl | rfl | rfl) <;> rfl)
  | cons c t => exact stopsAt_peek (h (some c) _)

theorem stops_unsigned (negative : Bool) : Stops (unsigned negative) := by
  intro t
  cases t with
  | nil => exact stopsAt_of_error nofun
  | cons c t =>
    refine stopsAt_peek ?_
    dsimp only
    split
    · refine stopsAt_skip (stops_digitNext.bind (fun more ↦ ?_) t)
      split
      · exact fun t ↦ stopsAt_of_error nofun
      · exact stops_afterWhole negative 0 0
    split
    · exact (stops_fillFrom largest 0).bind
        (fun p ↦ stops_countDigits.bind fun dropped ↦ stops_afterWhole negative _ _) _
    · exact stopsAt_of_error nofun

theorem stops_read : Stops read := by
  intro t
  cases t with
  | nil => exact stopsAt_of_error nofun
  | cons c t =>
    refine stopsAt_peek ?_
    split
    · exact stopsAt_skip (stops_unsigned true t)
    · exact stops_unsigned false _

end Num

namespace Reader

theorem valueStart_eq (t : List Char) : valueStart t = match t.dropWhile isSpace with
    | [] => next (.endOf .value) []
    | c :: cs => (.ok c, c :: cs) := by
  have htoken : token? t = (.ok (t.dropWhile isSpace).head?, t.dropWhile isSpace) := rfl
  rw [valueStart, bind_of_ok htoken]
  cases t.dropWhile isSpace <;> rfl

theorem stops_valueStart : Stops valueStart := by
  intro t a t' rest _ h
  rw [valueStart_eq] at h ⊢
  rw [List.dropWhile_append]
  cases hskip : t.dropWhile isSpace with
  | nil =>
    rw [hskip] at h
    cases h
  | cons c cs =>
    rw [hskip] at h
    cases h
    rfl

theorem bind_ne_ok {r : Reader α} {f : α → Reader β} (h : ∀ a cs b t', f a cs ≠ (.ok b, t'))
    (cs : List Char) (b : β) (t' : List Char) : (r >>= f) cs ≠ (.ok b, t') := by
  intro hok
  obtain ⟨a, mid, -, hf⟩ := eq_ok_of_bind_eq_ok hok
  exact h a mid b t' hf

theorem wrongType_ne_ok (expected : String) (cs : List Char) (a : α) (t' : List Char) :
    wrongType expected cs ≠ (.ok a, t') := by
  have hmismatch : ∀ (c : Cause) (cs : List Char) (a : α) (t' : List Char),
      mismatch c cs ≠ (.ok a, t') := fun _ _ _ _ ↦ nofun
  refine bind_ne_ok (fun c cs a t' ↦ ?_) cs a t'
  dsimp only
  split
  · exact bind_ne_ok (fun _ ↦ hmismatch _) _ _ _
  · exact bind_ne_ok (fun _ ↦ hmismatch _) _ _ _
  · exact bind_ne_ok (fun _ ↦ hmismatch _) _ _ _
  · exact bind_ne_ok (fun _ ↦ hmismatch _) _ _ _
  · exact hmismatch _ _ _ _
  · exact hmismatch _ _ _ _
  · split
    · exact bind_ne_ok (fun _ ↦ hmismatch _) _ _ _
    · exact fun h ↦ nomatch h

theorem stops_float : Stops float := by
  refine Stops.placed (stops_valueStart.bind fun c ↦ ?_)
  split
  · exact Num.stops_read.bind fun n ↦ stops_pure _
  · exact fun t ↦ stopsAt_of_error (wrongType_ne_ok _ t)

theorem stops_natural : Stops natural := by
  refine Stops.placed (stops_valueStart.bind fun c ↦ ?_)
  split
  · refine Num.stops_read.bind fun n ↦ ?_
    cases n with
    | natural n => exact stops_pure n
    | negative n => exact fun t ↦ stopsAt_of_error nofun
    | float x => exact fun t ↦ stopsAt_of_error nofun
  · exact fun t ↦ stopsAt_of_error (wrongType_ne_ok _ t)

end Reader

/-! ## Naturals -/

theorem le_ofDigitChars (ds : List Char) (s : ℕ) : s ≤ Nat.ofDigitChars 10 ds s := by
  rw [Nat.ofDigitChars_eq_ofDigitChars_zero]
  exact Nat.le_add_right_of_le (Nat.le_mul_of_pos_left s (Nat.pow_pos (by decide)))

theorem exists_toDigits_eq_cons (n : ℕ) : ∃ c cs, Nat.toDigits 10 n = c :: cs ∧ c.isDigit := by
  obtain ⟨c, cs, hdigits⟩ := List.exists_cons_of_ne_nil (Nat.toDigits_ne_nil (b := 10) (n := n))
  refine ⟨c, cs, hdigits, Nat.isDigit_of_mem_toDigits (b := 10) (n := n) (by decide) (by decide) ?_⟩
  exact hdigits ▸ List.mem_cons_self

theorem head?_toDigits_ne_zero {n : ℕ} (hn : n ≠ 0) : (Nat.toDigits 10 n).head? ≠ some '0' := by
  induction n using Nat.strongRecOn with
  | ind n ih =>
    by_cases hlt : n < 10
    · have key : ∀ m < 10, m ≠ 0 → (Nat.toDigits 10 m).head? ≠ some '0' := by decide
      exact key n hlt hn
    · have hhead := ih (n / 10) (by omega) (by omega)
      obtain ⟨c, cs, hdigits⟩ := List.exists_cons_of_ne_nil (Nat.toDigits_ne_nil (n := n / 10))
      rw [hdigits] at hhead
      rw [Nat.toDigits_of_base_le (by decide) (Nat.not_lt.1 hlt), hdigits]
      exact hhead

namespace Num

open Reader

/-- Digits are taken as long as the number that they write fits. -/
theorem fill_digits {ds : List Char} (hds : ∀ c ∈ ds, c.isDigit) {bound s : ℕ} (count : ℕ)
    (hbound : Nat.ofDigitChars 10 ds s ≤ bound) {rest : List Char}
    (hrest : ∀ c ∈ rest.head?, c.isDigit = false) :
    fill bound s count (ds ++ rest) = ⟨Nat.ofDigitChars 10 ds s, count + ds.length, rest⟩ := by
  induction ds generalizing s count with
  | nil => exact fill_of_head? bound s count hrest
  | cons c ds ih =>
    have hvalue : 10 * s + (c.toNat - '0'.toNat) = s * 10 + digitValue c := by
      rw [Nat.mul_comm]
      rfl
    rw [Nat.ofDigitChars_cons, hvalue] at hbound ⊢
    have hc : c.isDigit ∧ s * 10 + digitValue c ≤ bound :=
      ⟨hds c List.mem_cons_self, Nat.le_trans (le_ofDigitChars ds _) hbound⟩
    have hrest' := ih (fun d hd ↦ hds d (List.mem_cons_of_mem c hd)) (count + 1) hbound
    rw [List.cons_append, fill, if_pos hc, hrest', List.length_cons, Nat.add_assoc, Nat.add_comm 1]

/-- The whole digits of a number, up to the point or the end. -/
theorem unsigned_toDigits {n : ℕ} (hn : n ≤ largest) (negative : Bool) {rest : List Char}
    (hrest : ∀ c ∈ rest.head?, c.isDigit = false) :
    unsigned negative (Nat.toDigits 10 n ++ rest) = afterWhole negative n 0 rest := by
  have hnext : digitNext rest = (.ok false, rest) := by
    cases rest with
    | nil => rfl
    | cons c rest =>
      rw [digitNext, bind_of_ok (peek?_cons c rest), Option.any_some, hrest c rfl]
      rfl
  have hcount : countDigits rest = (.ok 0, rest) := by
    have hdrop := dropWhile_isDigit_of_head? hrest
    have htake := List.takeWhile_append_dropWhile (p := Char.isDigit) (l := rest)
    rw [hdrop, List.append_left_eq_self] at htake
    rw [countDigits, hdrop, htake]
    rfl
  have hvalue : Nat.ofDigitChars 10 (Nat.toDigits 10 n) 0 = n := Nat.ofDigitChars_ten_toDigits
  by_cases hn0 : n = 0
  · -- a zero stands alone: no digit may follow it
    rw [hn0, Nat.toDigits_zero, List.singleton_append, unsigned, bind_of_ok (peek?_cons '0' rest)]
    dsimp only
    rw [if_pos rfl, bind_of_ok (skip_cons '0' rest), bind_of_ok hnext]
    rfl
  · have hdigit : ∀ c ∈ Nat.toDigits 10 n, c.isDigit :=
      fun c hc ↦ Nat.isDigit_of_mem_toDigits (by decide) (by decide) hc
    have hfill : fillFrom largest 0 (Nat.toDigits 10 n ++ rest) =
        (.ok (n, (Nat.toDigits 10 n).length), rest) := by
      rw [fillFrom, fill_digits hdigit 0 (by rwa [hvalue]) hrest, hvalue, Nat.zero_add]
    have hhead := head?_toDigits_ne_zero hn0
    obtain ⟨c, cs, hdigits⟩ := List.exists_cons_of_ne_nil (Nat.toDigits_ne_nil (b := 10) (n := n))
    rw [hdigits, List.cons_append] at hfill ⊢
    rw [hdigits] at hdigit hhead
    have hc0 : c ≠ '0' := fun h ↦ hhead (congrArg some h)
    rw [unsigned, bind_of_ok (peek?_cons c _)]
    dsimp only
    rw [if_neg hc0, if_pos (hdigit c List.mem_cons_self), bind_of_ok hfill, bind_of_ok hcount]

end Num

namespace Reader

/-- A number that starts with a digit has no sign. -/
theorem read_toDigits (n : ℕ) (rest : List Char) :
    Num.read (Nat.toDigits 10 n ++ rest) = Num.unsigned false (Nat.toDigits 10 n ++ rest) := by
  obtain ⟨c, cs, hdigits, hc⟩ := exists_toDigits_eq_cons n
  have hsign : ¬some c = some '-' := by
    rintro ⟨⟩
    exact absurd hc (by decide)
  rw [hdigits, List.cons_append, Num.read, bind_of_ok (peek?_cons c _), if_neg hsign]

theorem isSpace_of_isDigit {c : Char} (hc : c.isDigit) : isSpace c = false := by
  simp only [isSpace, Bool.or_eq_false_iff, decide_eq_false_iff_not]
  refine ⟨⟨⟨?_, ?_⟩, ?_⟩, ?_⟩ <;> rintro rfl <;> exact absurd hc (by decide)

theorem valueStart_toDigits (n : ℕ) (rest : List Char) : ∃ c : Char, c.isDigit ∧
    valueStart (Nat.toDigits 10 n ++ rest) = (.ok c, Nat.toDigits 10 n ++ rest) := by
  obtain ⟨c, cs, hdigits, hc⟩ := exists_toDigits_eq_cons n
  rw [hdigits]
  exact ⟨c, hc, valueStart_cons (isSpace_of_isDigit hc)⟩

theorem reads_natural {n : ℕ} (hn : n < 2 ^ 64) : Reads natural (toString n).toList n := by
  have hn' : n ≤ Num.largest := Nat.le_pred_of_lt hn
  have hread : Num.read (Nat.toDigits 10 n ++ []) = (.ok (.natural n), []) := by
    rw [read_toDigits, Num.unsigned_toDigits hn' false (by rintro c ⟨⟩)]
    rfl
  obtain ⟨c, hc, hstart⟩ := valueStart_toDigits n []
  refine stops_natural.reads (placed_of_ok ?_)
  rw [Nat.toString_eq_ofList_toDigits, String.toList_ofList]
  rw [List.append_nil] at hread hstart
  rw [bind_of_ok hstart, if_pos (.inr hc), bind_of_ok hread]
  rfl

end Reader

/-! ## Numbers that read back -/

/-- The text of the number is read as the number. -/
def ReadsBack (n : Float) : Prop :=
  Reader.float (number n).toList = (.ok n, [])

instance (n : Float) : Decidable (ReadsBack n) :=
  match h : Reader.float (number n).toList with
  | (.ok x, []) => decidable_of_iff (x = n) (by simp [ReadsBack, h])
  | (.ok _, _ :: _) => isFalse (by simp [ReadsBack, h])
  | (.error _, _) => isFalse (by simp [ReadsBack, h])

/-- A whole number up to `10 ^ 14`, of either sign. -/
def IsWhole (n : Float) : Prop :=
  ∃ k : ℕ, k ≤ 10 ^ 14 ∧ (n = Float.ofNat k ∨ n = -Float.ofNat k)

open Number Float.Model.UnpackedFloat

theorem number_ofWhole (s : Sign) {k : ℕ} (hk : k ≤ 10 ^ 14) :
    (number (ofWhole s k)).toList =
      Style.signed (s == .negative) (Nat.toDigits 10 k ++ ['.', '0']) := by
  by_cases hk0 : k = 0
  · rw [hk0, number, Style.text, unpack_ofWhole s (by decide), whole_zero, String.toList_ofList]
    cases s <;> decide
  · have hlength : (Nat.toDigits 10 k).length ≤ 15 :=
      (Nat.length_toDigits_le_iff (by decide) (by decide)).2 (by omega)
    have hpos : 0 < (Nat.toDigits 10 k).length := Nat.length_toDigits_pos
    refine Style.text_ofWhole numberStyle s hk0 (by omega) ?_
    simp only [numberStyle, decide_eq_true_eq]
    omega

namespace Num

open Reader

theorem scale_tenths {k : ℕ} (hk : k * 10 < 2 ^ 53) :
    scale (Float.ofNat (k * 10)) (-1) = some (Float.ofNat k) := by
  have hten : powerOfTen 1 = Float.ofNat 10 :=
    ofScientific_eq_ofNat (m := 1) (e := 1) (by decide) (by decide) (by decide)
  rw [scale, if_pos (by decide), if_neg (by decide)]
  change some (_ / powerOfTen 1) = _
  rw [hten, ofNat_mul_div (by decide) (by omega) (by decide) hk]

/-- The zero behind the point is taken into the significand, and the division by ten is exact. -/
theorem fractionPart_zero (negative : Bool) {k : ℕ} (hk : k ≤ 10 ^ 14) :
    fractionPart negative k 0 ['.', '0'] =
      (.ok (.float (signed negative (Float.ofNat k))), []) := by
  have hlargest : k * 10 ≤ largest := Nat.le_trans (Nat.mul_le_mul_right 10 hk) (by decide)
  have hfill : fillFrom largest k ['0'] = (.ok (k * 10, 1), []) := by
    rw [fillFrom, fill, if_pos ⟨by decide, hlargest⟩]
    rfl
  rw [fractionPart, bind_of_ok (skip_cons '.' ['0']), bind_of_ok hfill]
  change finish negative (k * 10) (-1) [] = _
  rw [finish, scale_tenths (by omega)]
  rfl

theorem unsigned_whole (negative : Bool) {k : ℕ} (hk : k ≤ 10 ^ 14) :
    unsigned negative (Nat.toDigits 10 k ++ ['.', '0']) =
      (.ok (.float (signed negative (Float.ofNat k))), []) := by
  have hlargest : k ≤ largest := Nat.le_trans hk (by decide)
  rw [unsigned_toDigits hlargest negative (by rintro c ⟨⟩; decide)]
  exact fractionPart_zero negative hk

end Num

theorem float_whole {k : ℕ} (hk : k ≤ 10 ^ 14) :
    Reader.float (Nat.toDigits 10 k ++ ['.', '0']) = (.ok (Float.ofNat k), []) := by
  obtain ⟨c, hc, hstart⟩ := Reader.valueStart_toDigits k ['.', '0']
  refine Reader.placed_of_ok ?_
  rw [Reader.bind_of_ok hstart, if_pos (.inr hc), Reader.bind_of_ok
    ((Reader.read_toDigits k _).trans (Num.unsigned_whole false hk))]
  rfl

theorem float_negative_whole {k : ℕ} (hk : k ≤ 10 ^ 14) :
    Reader.float ('-' :: (Nat.toDigits 10 k ++ ['.', '0'])) = (.ok (-Float.ofNat k), []) := by
  have hread : Num.read ('-' :: (Nat.toDigits 10 k ++ ['.', '0'])) =
      (.ok (.float (-Float.ofNat k)), []) :=
    Num.unsigned_whole true hk
  refine Reader.placed_of_ok ?_
  rw [Reader.bind_of_ok (Reader.valueStart_cons rfl), if_pos (.inl rfl), Reader.bind_of_ok hread]
  rfl

/-- The text of a whole number up to `10 ^ 14` gives the number back. -/
theorem readsBack_of_isWhole {n : Float} (h : IsWhole n) : ReadsBack n := by
  obtain ⟨k, hk, rfl | rfl⟩ := h
  · have htext := number_ofWhole .positive hk
    rw [← ofNat_eq_ofWhole (by omega)] at htext
    rw [ReadsBack, htext]
    exact float_whole hk
  · have htext := number_ofWhole .negative hk
    rw [← neg_ofNat (by omega)] at htext
    rw [ReadsBack, htext]
    exact float_negative_whole hk

/-! ## The characters of numbers -/

/-- What the texts of numbers are made of; those that are no numbers are written as `null`. -/
def Numeric (c : Char) : Prop :=
  c.isDigit ∨ c ∈ ['-', '+', '.', 'e', 'n', 'u', 'l']

theorem numeric_toDigits (n : ℕ) : ∀ c ∈ Nat.toDigits 10 n, Numeric c :=
  fun _ hc ↦ .inl (Nat.isDigit_of_mem_toDigits (by decide) (by decide) hc)

theorem numeric_positional (keepsPoint : Bool) {digits : List Char}
    (h : ∀ c ∈ digits, Numeric c) (whole : ℤ) :
    ∀ c ∈ Style.positional keepsPoint digits whole, Numeric c := by
  have hzeros : ∀ n, ∀ c ∈ List.replicate n '0', Numeric c := by
    intro n c hc
    rw [List.eq_of_mem_replicate hc]
    exact .inl (by decide)
  have hpoint : Numeric '.' := .inr (by decide)
  have hzero : Numeric '0' := .inl (by decide)
  rw [Style.positional]
  split
  · simp only [List.forall_mem_cons, List.forall_mem_append]
    exact ⟨hzero, hpoint, hzeros _, h⟩
  split
  · simp only [List.forall_mem_cons, List.forall_mem_append]
    exact ⟨fun c hc ↦ h c (List.mem_of_mem_take hc), hpoint,
      fun c hc ↦ h c (List.mem_of_mem_drop hc)⟩
  · simp only [List.forall_mem_append]
    refine ⟨⟨h, hzeros _⟩, ?_⟩
    cases keepsPoint with
    | true => exact List.forall_mem_cons.2 ⟨hpoint, List.forall_mem_singleton.2 hzero⟩
    | false => exact List.forall_mem_nil _

theorem numeric_scientific {digits : List Char} (h : ∀ c ∈ digits, Numeric c) (e : ℤ) :
    ∀ c ∈ Style.scientific digits e, Numeric c := by
  have hexponent : ∀ c ∈ Style.exponentPart e, Numeric c := by
    rw [Style.exponentPart]
    simp only [List.forall_mem_cons]
    refine ⟨.inr (by decide), ?_, numeric_toDigits _⟩
    split
    · exact .inr (by decide)
    · exact .inr (by decide)
  fun_cases Style.scientific digits e with
  | case1 => exact hexponent
  | case2 d => exact List.forall_mem_cons.2 ⟨h d List.mem_cons_self, hexponent⟩
  | case3 d rest =>
    simp only [List.forall_mem_cons, List.forall_mem_append] at h ⊢
    exact ⟨h.1, .inr (by decide), h.2, hexponent⟩

theorem numeric_layout (style : Style) (d : Decimal) : ∀ c ∈ style.layout d, Numeric c := by
  rw [Style.layout]
  split
  · exact numeric_positional _ (numeric_toDigits _) _
  · exact numeric_scientific (numeric_toDigits _) _

theorem numeric_signed (negative : Bool) {cs : List Char} (h : ∀ c ∈ cs, Numeric c) :
    ∀ c ∈ Style.signed negative cs, Numeric c := by
  cases negative with
  | true => exact List.forall_mem_cons.2 ⟨.inr (by decide), h⟩
  | false => exact h

theorem numeric_number (n : Float) : ∀ c ∈ (number n).toList, Numeric c := by
  have hnull : ∀ c ∈ "null".toList, Numeric c :=
    fun c hc ↦ .inr (List.all_iff_forall_prop.1 (by decide) c hc)
  rw [number, Style.text]
  split
  · exact hnull
  · exact hnull
  · exact hnull
  · rw [String.toList_ofList]
    exact numeric_signed _ (numeric_layout _ _)
  · rw [String.toList_ofList]
    exact numeric_signed _ (numeric_layout _ _)

theorem Numeric.flat {c : Char} (h : Numeric c) : Flat c := by
  have key : ∀ c ∈ ['-', '+', '.', 'e', 'n', 'u', 'l'], Flat c :=
    List.all_iff_forall_prop.1 (by decide)
  exact h.elim flat_of_isDigit (key c)

theorem Numeric.starts {c : Char} (h : Numeric c) (cs : List Char) : Reader.Starts (c :: cs) := by
  have key : ∀ c ∈ ['-', '+', '.', 'e', 'n', 'u', 'l'], Reader.isSpace c = false ∧ c ≠ ']' :=
    List.all_iff_forall_prop.1 (by decide)
  refine ⟨c, cs, rfl, h.elim (fun hc ↦ ⟨Reader.isSpace_of_isDigit hc, ?_⟩) (key c)⟩
  rintro rfl
  exact absurd hc (by decide)

end StackScript.Json
