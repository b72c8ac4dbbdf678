import StackScript.Number.Text
import StackScript.Proofs.Blanks
import StackScript.Proofs.NearestReading

/-!
# The grammar of numerals

`Numeral.Writes` is the grammar: a sign, digits, a point with digits, and an exponent, of which only
one digit has to be there. The parts of a numeral begin with different characters, so that a reader
which takes the longest of each finds them, and reading is the grammar,
`Numeral.ofChars?_eq_some_iff`. The numeral reads as what its value has to be rounded to,
`Numeral.roundsTo`.

A text is read without the blanks around it. `Numeral.Flawed` collects what no numeral has inside.
The general reader takes words besides numerals, `Number.Spells`, and the tests that come before it
leave it the finite numbers, `Number.read?_eq`.
-/

namespace StackScript

namespace Numeral

/-! ## Grammar -/

def Digits (cs : List Char) : Prop :=
  ∀ c ∈ cs, c.isDigit = true

def IsSign (c : Char) : Prop :=
  c = '+' ∨ c = '-'

/-- The character begins an exponent. -/
def IsMark (c : Char) : Prop :=
  c = 'e' ∨ c = 'E'

/-- Texts of signs; `true` stands for a minus. -/
inductive SignText : List Char → Bool → Prop
  | absent : SignText [] false
  | plus : SignText ['+'] false
  | minus : SignText ['-'] true

/-- A point with the digits after it, of which there may be none. -/
inductive PointText : List Char → List Char → Prop
  | absent : PointText [] []
  | point {fraction : List Char} (hdigits : Digits fraction) : PointText ('.' :: fraction) fraction

/-- A mark, a sign and digits, of which there has to be one. -/
inductive ExponentText : List Char → ℤ → Prop
  | absent : ExponentText [] 0
  | marked {mark : Char} {sign digits : List Char} {negative : Bool}
      (hmark : IsMark mark) (hsign : SignText sign negative) (hdigits : Digits digits)
      (hne : digits ≠ []) :
      ExponentText (mark :: (sign ++ digits)) (signedDigits negative digits)

/-- **The grammar.** At least one digit stands before or after the point. -/
inductive Writes : List Char → Numeral → Prop
  | parts {sign point power : List Char} {n : Numeral} (hsign : SignText sign n.negative)
      (hwhole : Digits n.whole) (hpoint : PointText point n.fraction)
      (hne : n.whole ++ n.fraction ≠ []) (hpower : ExponentText power n.exponent) :
      Writes (sign ++ (n.whole ++ (point ++ power))) n

variable {cs sign whole fraction point power : List Char} {negative : Bool} {e : ℤ} {n : Numeral}

/-! ## What is read is written -/

theorem exists_signText (cs : List Char) :
    ∃ sign, SignText sign (splitSign cs).1 ∧ cs = sign ++ (splitSign cs).2 := by
  fun_cases splitSign cs with
  | case1 rest => exact ⟨['-'], .minus, rfl⟩
  | case2 rest => exact ⟨['+'], .plus, rfl⟩
  | case3 => exact ⟨[], .absent, rfl⟩

theorem exists_pointText (cs : List Char) :
    ∃ point, PointText point (splitFraction cs).1 ∧ cs = point ++ (splitFraction cs).2 := by
  fun_cases splitFraction cs with
  | case1 rest =>
    refine ⟨'.' :: rest.takeWhile Char.isDigit, .point fun c hc ↦ List.mem_takeWhile_imp hc, ?_⟩
    rw [List.cons_append, List.takeWhile_append_dropWhile]
  | case2 => exact ⟨[], .absent, rfl⟩

theorem exponentText_of_exponentOf? (h : exponentOf? cs = some e) : ExponentText cs e := by
  cases cs with
  | nil =>
    obtain rfl := Option.some.inj h
    exact .absent
  | cons mark rest =>
    obtain ⟨sign, hsign, hrest⟩ := exists_signText rest
    rw [exponentOf?] at h
    dsimp only at h
    split at h
    · rename_i hcond
      obtain ⟨hmark, hne, hdigits⟩ := hcond
      obtain rfl := Option.some.inj h
      nth_rewrite 1 [hrest]
      exact .marked hmark hsign (List.all_eq_true.1 hdigits) hne
    · cases h

theorem writes_of_ofChars? (h : ofChars? cs = some n) : Writes cs n := by
  rw [ofChars?] at h
  dsimp only at h
  split at h
  · cases h
  rename_i hne
  obtain ⟨exponent, hexponent, rfl⟩ := Option.map_eq_some_iff.1 h
  obtain ⟨sign, hsign, hcs⟩ := exists_signText cs
  obtain ⟨point, hpoint, hrest⟩ := exists_pointText ((splitSign cs).2.dropWhile Char.isDigit)
  have hparts := Writes.parts (n := ⟨_, _, _, _⟩) hsign
    (fun c hc ↦ List.mem_takeWhile_imp (l := (splitSign cs).2) hc) hpoint hne
    (exponentText_of_exponentOf? hexponent)
  rwa [← hrest, List.takeWhile_append_dropWhile, ← hcs] at hparts

/-! ## What is written is read -/

/-- The text does not begin with a sign. -/
def Unsigned (cs : List Char) : Prop :=
  ∀ c ∈ cs.head?, ¬IsSign c

theorem not_isSign_of_isDigit {c : Char} (hc : c.isDigit = true) : ¬IsSign c := by
  rintro (rfl | rfl) <;> revert hc <;> decide

theorem Digits.unsigned (h : Digits cs) : Unsigned cs :=
  fun c hc ↦ not_isSign_of_isDigit (h c (List.mem_of_mem_head? hc))

theorem Digits.unsigned_append (h : Digits whole) (hcs : Unsigned cs) : Unsigned (whole ++ cs) := by
  cases whole with
  | nil => exact hcs
  | cons c whole =>
    rintro c ⟨⟩
    exact not_isSign_of_isDigit (h c List.mem_cons_self)

theorem IsSign.not_isMark {c : Char} (h : IsSign c) : ¬IsMark c := by
  rintro (rfl | rfl) <;> rcases h with h | h <;> cases h

theorem ExponentText.unsigned (h : ExponentText power e) : Unsigned power := by
  cases h with
  | absent => rintro c ⟨⟩
  | marked hmark =>
    rintro c ⟨⟩ hsign
    exact hsign.not_isMark hmark

theorem PointText.unsigned_append (h : PointText point fraction) (hcs : Unsigned cs) :
    Unsigned (point ++ cs) := by
  cases h with
  | absent => exact hcs
  | point => rintro c ⟨⟩ (hc | hc) <;> cases hc

theorem SignText.splitSign_append (h : SignText sign negative) (hcs : Unsigned cs) :
    splitSign (sign ++ cs) = (negative, cs) := by
  cases h with
  | plus | minus => rfl
  | absent =>
    rw [List.nil_append]
    fun_cases splitSign cs with
    | case1 rest => exact absurd (.inr rfl) (hcs _ rfl)
    | case2 rest => exact absurd (.inl rfl) (hcs _ rfl)
    | case3 => rfl

theorem takeWhile_digits (hwhole : Digits whole) (hcs : cs.takeWhile Char.isDigit = []) :
    (whole ++ cs).takeWhile Char.isDigit = whole := by
  rw [List.takeWhile_append_of_pos hwhole, hcs, List.append_nil]

theorem dropWhile_digits (hwhole : Digits whole) (hcs : cs.takeWhile Char.isDigit = []) :
    (whole ++ cs).dropWhile Char.isDigit = cs := by
  have hsplit := List.takeWhile_append_dropWhile (p := Char.isDigit) (l := cs)
  rw [hcs, List.nil_append] at hsplit
  rw [List.dropWhile_append_of_pos hwhole, hsplit]

theorem ExponentText.takeWhile_eq (h : ExponentText power e) :
    power.takeWhile Char.isDigit = [] := by
  cases h with
  | absent => rfl
  | marked hmark => rcases hmark with rfl | rfl <;> rfl

theorem ExponentText.exponentOf?_eq (h : ExponentText power e) : exponentOf? power = some e := by
  cases h with
  | absent => rfl
  | marked hmark hsign hdigits hne =>
    rw [exponentOf?, hsign.splitSign_append hdigits.unsigned]
    exact if_pos ⟨hmark, hne, List.all_eq_true.2 hdigits⟩

theorem PointText.takeWhile_eq (h : PointText point fraction) (hpower : ExponentText power e) :
    (point ++ power).takeWhile Char.isDigit = [] := by
  cases h with
  | absent => exact hpower.takeWhile_eq
  | point => rfl

theorem PointText.splitFraction_append (h : PointText point fraction)
    (hpower : ExponentText power e) : splitFraction (point ++ power) = (fraction, power) := by
  cases h with
  | absent =>
    cases hpower with
    | absent => rfl
    | marked hmark => rcases hmark with rfl | rfl <;> rfl
  | point hdigits =>
    rw [List.cons_append, splitFraction, takeWhile_digits hdigits hpower.takeWhile_eq,
      dropWhile_digits hdigits hpower.takeWhile_eq]

/-- **Reading is the grammar.** -/
theorem ofChars?_eq_some_iff : ofChars? cs = some n ↔ Writes cs n := by
  refine ⟨writes_of_ofChars?, ?_⟩
  rintro ⟨hsign, hwhole, hpoint, hne, hpower⟩
  rw [ofChars?, hsign.splitSign_append (hwhole.unsigned_append
    (hpoint.unsigned_append hpower.unsigned))]
  dsimp only
  rw [takeWhile_digits hwhole (hpoint.takeWhile_eq hpower),
    dropWhile_digits hwhole (hpoint.takeWhile_eq hpower), hpoint.splitFraction_append hpower]
  dsimp only
  rw [if_neg hne, hpower.exponentOf?_eq]
  rfl

/-! ## Values -/

def value (n : Numeral) : ℚ :=
  (if n.negative then -1 else 1) * (Nat.ofDigitChars 10 n.whole 0 +
    Nat.ofDigitChars 10 n.fraction 0 / 10 ^ n.fraction.length) * 10 ^ n.exponent

/-- The digits after the point are those of a fraction. -/
theorem value_decimal (n : Numeral) : n.decimal.value = (Nat.ofDigitChars 10 n.whole 0 +
    Nat.ofDigitChars 10 n.fraction 0 / 10 ^ n.fraction.length) * 10 ^ n.exponent := by
  rw [Decimal.value, decimal, Nat.ofDigitChars_append, Nat.ofDigitChars_eq_ofDigitChars_zero,
    zpow_sub₀ (by norm_num), zpow_natCast]
  push_cast
  field_simp

/-- **Correct reading.** A numeral reads as what its value has to be rounded to. -/
theorem roundsTo (n : Numeral) : Number.RoundsTo n.value n.toFloat := by
  rw [value, mul_assoc, ← value_decimal, toFloat]
  cases n.negative with
  | false =>
    rw [if_neg Bool.false_ne_true, if_neg Bool.false_ne_true, one_mul]
    exact n.decimal.roundsTo
  | true =>
    rw [if_pos rfl, if_pos rfl, neg_one_mul]
    exact n.decimal.roundsTo.neg

theorem isFinite_toFloat_iff (n : Numeral) :
    n.toFloat.isFinite = true ↔ |n.value| < Number.overflow :=
  ⟨n.roundsTo.lt_overflow, fun hlt ↦ (n.roundsTo.nearest hlt).finite⟩

/-! ## What numerals have inside -/

def Admitted (c : Char) : Prop :=
  c.isDigit = true ∨ IsSign c ∨ c = '.' ∨ IsMark c

theorem Admitted.not_whiteSpace {c : Char} (h : Admitted c) : ¬Text.WhiteSpace c := by
  rcases h with hdigit | (rfl | rfl) | rfl | rfl | rfl
  · -- digits lie between the second range of blanks and the third
    intro hblank
    have hrange := Char.isDigit_iff_toNat.1 hdigit
    simp [Text.WhiteSpace, Text.whiteSpace] at hblank hrange
    omega
  all_goals decide

theorem Digits.admitted (h : Digits cs) : ∀ c ∈ cs, Admitted c :=
  fun c hc ↦ .inl (h c hc)

theorem SignText.isSign (h : SignText sign negative) : ∀ c ∈ sign, IsSign c := by
  cases h with
  | absent => exact List.forall_mem_nil _
  | plus => exact List.forall_mem_singleton.2 (.inl rfl)
  | minus => exact List.forall_mem_singleton.2 (.inr rfl)

theorem PointText.digits (h : PointText point fraction) : Digits fraction := by
  cases h with
  | absent => exact List.forall_mem_nil _
  | point hdigits => exact hdigits

theorem PointText.mem_iff {c : Char} (h : PointText point fraction) (hc : c ≠ '.') :
    c ∈ point ↔ c ∈ fraction := by
  cases h with
  | absent => rfl
  | point => exact List.mem_cons.trans (or_iff_right hc)

theorem PointText.admitted (h : PointText point fraction) : ∀ c ∈ point, Admitted c := by
  intro c hc
  by_cases hdot : c = '.'
  · exact .inr (.inr (.inl hdot))
  · exact .inl (h.digits c ((h.mem_iff hdot).1 hc))

theorem ExponentText.admitted (h : ExponentText power e) : ∀ c ∈ power, Admitted c := by
  cases h with
  | absent => exact List.forall_mem_nil _
  | marked hmark hsign hdigits =>
    exact List.forall_mem_cons.2 ⟨.inr (.inr (.inr hmark)),
      List.forall_mem_append.2 ⟨fun c hc ↦ .inr (.inl (hsign.isSign c hc)), hdigits.admitted⟩⟩

theorem Writes.admitted (h : Writes cs n) : ∀ c ∈ cs, Admitted c := by
  obtain ⟨hsign, hwhole, hpoint, -, hpower⟩ := h
  simp only [List.forall_mem_append]
  exact ⟨fun c hc ↦ .inr (.inl (hsign.isSign c hc)), hwhole.admitted, hpoint.admitted,
    hpower.admitted⟩

/-- A sign that is not the first character follows a mark. -/
def Follows (d c : Char) : Prop :=
  IsSign c → IsMark d

theorem Digits.isChain_append (h : Digits whole) (hcs : Unsigned cs)
    (hchain : cs.IsChain Follows) : (whole ++ cs).IsChain Follows := by
  induction whole with
  | nil => exact hchain
  | cons c whole ih =>
    obtain ⟨-, h⟩ := List.forall_mem_cons.1 h
    refine List.isChain_cons.2 ⟨fun d hd hsign ↦ ?_, ih h⟩
    exact absurd hsign (Digits.unsigned_append h hcs d hd)

theorem SignText.isChain_append (h : SignText sign negative) (hcs : Unsigned cs)
    (hchain : cs.IsChain Follows) : (sign ++ cs).IsChain Follows := by
  cases h with
  | absent => exact hchain
  | plus | minus => exact List.isChain_cons.2 ⟨fun c hc hsign ↦ absurd hsign (hcs c hc), hchain⟩

theorem PointText.isChain_append (h : PointText point fraction) (hcs : Unsigned cs)
    (hchain : cs.IsChain Follows) : (point ++ cs).IsChain Follows := by
  cases h with
  | absent => exact hchain
  | point hdigits =>
    exact List.isChain_cons.2 ⟨fun c hc hsign ↦ absurd hsign (hdigits.unsigned_append hcs c hc),
      hdigits.isChain_append hcs hchain⟩

theorem ExponentText.isChain (h : ExponentText power e) : power.IsChain Follows := by
  cases h with
  | absent => exact .nil
  | marked hmark hsign hdigits =>
    have hchain := hdigits.isChain_append (by rintro c ⟨⟩) .nil
    rw [List.append_nil] at hchain
    exact List.isChain_cons.2 ⟨fun _ _ _ ↦ hmark, hsign.isChain_append hdigits.unsigned hchain⟩

theorem Writes.isChain (h : Writes cs n) : cs.IsChain Follows := by
  obtain ⟨hsign, hwhole, hpoint, -, hpower⟩ := h
  have hrest := hpoint.unsigned_append hpower.unsigned
  exact hsign.isChain_append (hwhole.unsigned_append hrest)
    (hwhole.isChain_append hrest (hpoint.isChain_append hpower.unsigned hpower.isChain))

theorem PointText.exists_digit (h : PointText point fraction) (hwhole : Digits whole)
    (hne : whole ++ fraction ≠ []) : ∃ d ∈ whole ++ point, d.isDigit = true := by
  obtain ⟨d, hd⟩ := List.exists_mem_of_ne_nil _ hne
  have hdigit : d.isDigit = true := (List.mem_append.1 hd).elim (hwhole d) (h.digits d)
  have hdot : d ≠ '.' := by rintro rfl; revert hdigit; decide
  exact ⟨d, by rwa [List.mem_append, h.mem_iff hdot, ← List.mem_append], hdigit⟩

theorem Writes.exists_digit (h : Writes cs n) : ∃ d ∈ cs, d.isDigit = true := by
  obtain @⟨sign, point, power, n, -, hwhole, hpoint, hne, -⟩ := h
  obtain ⟨d, hd, hdigit⟩ := hpoint.exists_digit hwhole hne
  rw [← List.append_assoc n.whole]
  exact ⟨d, List.mem_append_right sign (List.mem_append_left power hd), hdigit⟩

theorem IsMark.not_isDigit {c : Char} (h : IsMark c) : ¬c.isDigit = true := by
  rcases h with rfl | rfl <;> decide

theorem IsMark.notMem_append {c : Char} (h : IsMark c) (hsign : SignText sign negative)
    (hwhole : Digits whole) : c ∉ sign ++ whole := by
  rw [List.mem_append, not_or]
  exact ⟨fun hc ↦ (hsign.isSign c hc).not_isMark h, fun hc ↦ h.not_isDigit (hwhole c hc)⟩

theorem IsMark.notMem_point {c : Char} (h : IsMark c) (hpoint : PointText point fraction) :
    c ∉ point := by
  have hdot : c ≠ '.' := by rcases h with rfl | rfl <;> decide
  rw [hpoint.mem_iff hdot]
  exact fun hc ↦ h.not_isDigit (hpoint.digits c hc)

/-- An exponent has digits before it and behind its mark. -/
theorem Writes.exists_digits {before after : List Char} {c : Char}
    (h : Writes (before ++ c :: after) n) (hc : IsMark c) :
    (∃ d ∈ before, d.isDigit = true) ∧ ∃ d ∈ after, d.isDigit = true := by
  generalize hcs : before ++ c :: after = cs at h
  obtain @⟨sign, point, power, n, hsign, hwhole, hpoint, hne, hpower⟩ := h
  have hfront : c ∉ sign ++ n.whole ++ point := by
    rw [List.mem_append, not_or]
    exact ⟨hc.notMem_append hsign hwhole, hc.notMem_point hpoint⟩
  rw [← List.append_assoc, ← List.append_assoc] at hcs
  generalize n.exponent = e at hpower
  cases hpower with
  | absent =>
    rw [List.append_nil] at hcs
    exact absurd (hcs ▸ List.mem_append_right _ List.mem_cons_self) hfront
  | marked hmark hsign' hdigits hne' =>
    -- neither what is before the mark nor what is behind it has a mark, so this one is meant
    rw [eq_comm, List.append_cons_inj_of_notMem hfront (hc.notMem_append hsign' hdigits)] at hcs
    obtain ⟨rfl, -, rfl⟩ := hcs
    constructor
    · obtain ⟨d, hd, hdigit⟩ := hpoint.exists_digit hwhole hne
      rw [List.append_assoc]
      exact ⟨d, List.mem_append_right _ hd, hdigit⟩
    · obtain ⟨d, hd⟩ := List.exists_mem_of_ne_nil _ hne'
      exact ⟨d, List.mem_append_right _ hd, hdigits d hd⟩

/-- What a text may have that is no numeral with blanks around it. -/
inductive Flawed : List Char → Prop
  /-- A character that no numeral has, as in `NaN`. -/
  | foreign {before after : List Char} {c : Char} (hadmitted : ¬Admitted c)
      (hblank : ¬Text.WhiteSpace c) : Flawed (before ++ c :: after)
  /-- A blank with other characters on both sides. -/
  | blank {before after : List Char} {c x y : Char} (hblank : Text.WhiteSpace c) (hx : x ∈ before)
      (hxblank : ¬Text.WhiteSpace x) (hy : y ∈ after) (hyblank : ¬Text.WhiteSpace y) :
      Flawed (before ++ c :: after)
  /-- A sign behind a character that does not begin an exponent. -/
  | sign {before after : List Char} {d c : Char} (hsign : IsSign c) (hmark : ¬IsMark d)
      (hblank : ¬Text.WhiteSpace d) : Flawed (before ++ d :: c :: after)
  /-- An exponent without digits before it or without digits of its own. -/
  | exponent {before after : List Char} {c : Char} (hmark : IsMark c)
      (hdigits : (∀ d ∈ before, ¬d.isDigit = true) ∨ ∀ d ∈ after, ¬d.isDigit = true) :
      Flawed (before ++ c :: after)

open Text in
theorem Writes.not_flawed {text : List Char} (h : Writes cs n) (hpadded : Padded cs text) :
    ¬Flawed text := by
  obtain @⟨before, after, hbefore, hafter⟩ := hpadded
  intro hflawed
  generalize htext : before ++ cs ++ after = text at hflawed
  cases hflawed with
  | foreign hadmitted hblank =>
    obtain ⟨b, a, rfl, -, -⟩ := exists_eq_append_cons hbefore hafter hblank htext.symm
    exact hadmitted (h.admitted _ (List.mem_append_right _ List.mem_cons_self))
  | @blank _ _ c x y hblank hx hxblank hy hyblank =>
    -- both characters belong to the numeral, and so does what is between them
    obtain ⟨b₁, b₂, rfl⟩ := List.append_of_mem hx
    obtain ⟨a₁, a₂, rfl⟩ := List.append_of_mem hy
    rw [List.append_assoc b₁, List.cons_append] at htext
    obtain ⟨b, a, rfl, -, ha⟩ := exists_eq_append_cons hbefore hafter hxblank htext.symm
    rw [← List.cons_append, ← List.append_assoc] at ha
    obtain ⟨a', -, rfl⟩ := exists_eq_append_right hafter hyblank ha
    exact (h.admitted c (by simp)).not_whiteSpace hblank
  | @sign _ _ d c hsign hmark hblank =>
    obtain ⟨b, a, rfl, -, ha⟩ := exists_eq_append_cons hbefore hafter hblank htext.symm
    have hcblank : ¬WhiteSpace c := Admitted.not_whiteSpace (.inr (.inl hsign))
    obtain ⟨a', -, rfl⟩ := exists_eq_append_right (b := []) hafter hcblank ha
    exact hmark ((List.isChain_append_cons_cons.1 h.isChain).2.1 hsign)
  | exponent hmark hdigits =>
    obtain ⟨b, a, rfl, rfl, rfl⟩ := exists_eq_append_cons hbefore hafter
      (Admitted.not_whiteSpace (.inr (.inr (.inr hmark)))) htext.symm
    obtain ⟨⟨d, hd, hdigit⟩, d', hd', hdigit'⟩ := h.exists_digits hmark
    rcases hdigits with hnone | hnone
    · exact hnone d (List.mem_append_right _ hd) hdigit
    · exact hnone d' (List.mem_append_left _ hd') hdigit'

end Numeral

/-! ## Words

The general reader knows words besides numerals. All of them have an `n`, which no numeral has. -/

namespace Number

open Numeral Text

variable {cs : List Char} {s : String} {x : Float}

theorem eq_of_toLower_eq {c : Char} (h : c.toLower = 'n') : c = 'n' ∨ c = 'N' := by
  rw [Char.toLower] at h
  split at h
  · have hval : c.val + ('a'.val - 'A'.val) = 'N'.val + ('a'.val - 'A'.val) := congrArg Char.val h
    exact .inr (Char.ext ((UInt32.add_left_inj _).1 hval))
  · exact .inl h

theorem mem_words (h : word? cs = some x) : (String.ofList (cs.map Char.toLower), x) ∈ words := by
  obtain ⟨before, after, hwords, -⟩ := List.lookup_eq_some_iff.1 h
  rw [hwords]
  exact List.mem_append_right _ List.mem_cons_self

theorem exists_mem_of_word? (h : word? cs = some x) : ∃ c ∈ cs, c = 'n' ∨ c = 'N' := by
  have hwords : ∀ w ∈ words, 'n' ∈ w.1.toList := by simp [words]
  have hn := hwords _ (mem_words h)
  rw [String.toList_ofList] at hn
  obtain ⟨c, hc, hlower⟩ := List.mem_map.1 hn
  exact ⟨c, hc, eq_of_toLower_eq hlower⟩

theorem unsigned_of_word? (h : word? cs = some x) : Unsigned cs := by
  have hwords : ∀ w ∈ words, w.1.toList.head? ≠ some '+' ∧ w.1.toList.head? ≠ some '-' := by
    simp [words]
  have hhead := hwords _ (mem_words h)
  rw [String.toList_ofList, List.head?_map] at hhead
  intro c hc hsign
  rw [hc] at hhead
  rcases hsign with rfl | rfl
  · exact hhead.1 rfl
  · exact hhead.2 rfl

theorem not_admitted {c : Char} (h : c = 'n' ∨ c = 'N') : ¬Admitted c := by
  rcases h with rfl | rfl <;> simp [Admitted, IsSign, IsMark]

theorem word?_eq_none (h : ∀ c ∈ cs, Admitted c) : word? cs = none := by
  refine Option.eq_none_iff_forall_ne_some.2 fun x hx ↦ ?_
  obtain ⟨c, hc, hn⟩ := exists_mem_of_word? hx
  exact not_admitted hn (h c hc)

/-- The grammar of the general reader. -/
inductive Spells : List Char → Float → Prop
  /-- A word, which may have a sign. -/
  | word {sign body : List Char} {negative : Bool} {x : Float} (hsign : SignText sign negative)
      (hword : word? body = some x) : Spells (sign ++ body) (if negative then -x else x)
  | numeral {cs : List Char} {n : Numeral} (h : Writes cs n) : Spells cs n.toFloat

theorem word?_splitSign {n : Numeral} (h : Writes cs n) : word? (splitSign cs).2 = none := by
  obtain ⟨sign, -, hcs⟩ := exists_signText cs
  have hadmitted := h.admitted
  rw [hcs] at hadmitted
  exact word?_eq_none fun c hc ↦ hadmitted c (List.mem_append_right _ hc)

/-- **The general reader is its grammar.** -/
theorem ofChars?_eq_some_iff_spells : ofChars? cs = some x ↔ Spells cs x := by
  constructor
  · intro h
    obtain ⟨sign, hsign, hcs⟩ := exists_signText cs
    rw [ofChars?] at h
    dsimp only at h
    split at h
    · rename_i hword
      obtain rfl := Option.some.inj h
      nth_rewrite 1 [hcs]
      exact .word hsign hword
    · obtain ⟨n, hn, rfl⟩ := Option.map_eq_some_iff.1 h
      exact .numeral (Numeral.ofChars?_eq_some_iff.1 hn)
  · intro h
    cases h with
    | word hsign hword =>
      rw [ofChars?, hsign.splitSign_append (unsigned_of_word? hword)]
      dsimp only
      rw [hword]
    | numeral hn =>
      rw [ofChars?]
      dsimp only
      rw [word?_splitSign hn, Numeral.ofChars?_eq_some_iff.2 hn]
      rfl

/-! ## Texts that are read as numbers -/

theorem allowed_iff {c : Char} : allowed c = true ↔ Admitted c := by
  simp only [allowed, Bool.or_eq_true, beq_iff_eq, Admitted, IsSign, IsMark]
  tauto

/-- Words name no finite numbers. -/
theorem not_isFinite_of_word? (h : word? cs = some x) (negative : Bool) :
    ¬(if negative then -x else x).isFinite = true := by
  have hwords : ∀ w ∈ words, ∀ negative : Bool,
      ¬(if negative then -w.2 else w.2).isFinite = true := by
    decide
  exact hwords _ (mem_words h) negative

theorem Spells.exists_writes (h : Spells cs x) (hfinite : x.isFinite = true) :
    ∃ n, Writes cs n ∧ x = n.toFloat := by
  cases h with
  | word hsign hword => exact absurd hfinite (not_isFinite_of_word? hword _)
  | numeral hn => exact ⟨_, hn, rfl⟩

/-- **The tests change nothing.** What fails one of them is no numeral, and the words that the
general reader takes name no finite number. -/
theorem read?_eq (s : String) :
    read? s = (ofChars? (trim s.toList)).filter Float.isFinite := by
  rw [read?]
  generalize trim s.toList = cs
  cases hread : (ofChars? cs).filter Float.isFinite with
  | none => simp
  | some x =>
    obtain ⟨hspells, hfinite⟩ := Option.filter_eq_some_iff.1 hread
    obtain ⟨n, hn, -⟩ := (ofChars?_eq_some_iff_spells.1 hspells).exists_writes hfinite
    obtain ⟨d, hd, hdigit⟩ := hn.exists_digit
    have hall : cs.all allowed = true :=
      List.all_eq_true.2 fun c hc ↦ allowed_iff.2 (hn.admitted c hc)
    have hany : cs.any Char.isDigit = true := List.any_eq_true.2 ⟨d, hd, hdigit⟩
    have hne : ¬cs.isEmpty = true := by
      rw [List.isEmpty_iff]
      exact List.ne_nil_of_mem hd
    rw [if_neg hne, hall, hany]
    rfl

theorem read?_eq_some_iff : read? s = some x ↔
    ∃ n, Writes (trim s.toList) n ∧ |n.value| < overflow ∧ x = n.toFloat := by
  rw [read?_eq, Option.filter_eq_some_iff, ofChars?_eq_some_iff_spells]
  simp only [← isFinite_toFloat_iff]
  constructor
  · rintro ⟨hspells, hfinite⟩
    obtain ⟨n, hn, rfl⟩ := hspells.exists_writes hfinite
    exact ⟨n, hn, hfinite, rfl⟩
  · rintro ⟨n, hn, hfinite, rfl⟩
    exact ⟨.numeral hn, hfinite⟩

theorem flawed_of_word? {before word after : List Char} (h : word? word = some x) :
    Flawed (before ++ word ++ after) := by
  obtain ⟨c, hc, hn⟩ := exists_mem_of_word? h
  obtain ⟨front, back, rfl⟩ := List.append_of_mem hc
  have hblank : ¬WhiteSpace c := by rcases hn with rfl | rfl <;> decide
  rw [← List.append_assoc before, List.append_assoc _ (c :: back), List.cons_append]
  exact .foreign (not_admitted hn) hblank

/-- **Exactly the numerals are read.** A text is read if it is a numeral with blanks around it whose
value is not rounded to infinity, and it is read as what the value is rounded to. Blanks around the
text do not matter, and a flaw inside it does. The tests that are made before the general reader is
asked neither lose nor admit anything. This reader takes words as well; a text with one of them
anywhere in it is refused. -/
theorem accepts_exactly_numerals :
    (∀ (s : String) (x : Float), read? s = some x ↔ ∃ core n, Padded core s.toList ∧
      Writes core n ∧ |n.value| < overflow ∧ x = n.toFloat) ∧
    (∀ n : Numeral, RoundsTo n.value n.toFloat) ∧
    (∀ s t : String, Padded s.toList t.toList → read? t = read? s) ∧
    (∀ s : String, Flawed s.toList → read? s = none) ∧
    (∀ s : String, read? s = (ofChars? (trim s.toList)).filter Float.isFinite) ∧
    (∀ (cs : List Char) (x : Float), ofChars? cs = some x ↔ Spells cs x) ∧
    ∀ (s : String) (before word after : List Char) (x : Float),
      word? word = some x → s.toList = before ++ word ++ after → read? s = none := by
  have hflaws : ∀ s : String, Flawed s.toList → read? s = none := by
    refine fun s hflawed ↦ Option.eq_none_iff_forall_ne_some.2 fun x hx ↦ ?_
    obtain ⟨n, hn, -⟩ := read?_eq_some_iff.1 hx
    exact hn.not_flawed (padded_trim s.toList) hflawed
  refine ⟨fun s x ↦ ?_, roundsTo, fun s t hpadded ↦ ?_, hflaws, read?_eq,
    fun cs x ↦ ofChars?_eq_some_iff_spells, fun s before word after x hword htext ↦ ?_⟩
  · rw [read?_eq_some_iff]
    constructor
    · rintro ⟨n, hn⟩
      exact ⟨_, n, padded_trim s.toList, hn⟩
    · rintro ⟨core, n, hpadded, hn, hx⟩
      have htrim : trim s.toList = core :=
        hpadded.trim_eq.trans (trim_eq_self fun c hc ↦ (hn.admitted c hc).not_whiteSpace)
      exact ⟨n, htrim.symm ▸ hn, hx⟩
  · rw [read?_eq, read?_eq, hpadded.trim_eq]
  · exact hflaws s (htext ▸ flawed_of_word? hword)

/-- Blanks of several kinds around a numeral, and one inside; a word in capitals. -/
theorem read?_padded_and_blank_inside :
    read? "\t +.5E1\u3000" = read? "+.5E1" ∧ read? "1 2" = none ∧
      (ofChars? "-INF".toList).isSome = true ∧ read? " -INF" = none := by
  obtain ⟨-, -, hblanks, hflaws, -, hspells, hwords⟩ := accepts_exactly_numerals
  have htext : "\t +.5E1\u3000".toList = ['\t', ' '] ++ "+.5E1".toList ++ ['\u3000'] := by decide
  have hpadded : Padded "+.5E1".toList "\t +.5E1\u3000".toList := by
    rw [htext]
    exact .intro (List.all_iff_forall_prop.1 (by decide)) (List.all_iff_forall_prop.1 (by decide))
  have hblank : Flawed (['1'] ++ ' ' :: ['2']) :=
    .blank (by decide) List.mem_cons_self (by decide) List.mem_cons_self (by decide)
  have hword : word? ['I', 'N', 'F'] = some (1 / 0) := by decide
  refine ⟨hblanks _ _ hpadded, hflaws _ hblank, ?_, hwords " -INF" [' ', '-'] _ [] _ hword rfl⟩
  exact Option.isSome_iff_exists.2 ⟨_, (hspells _ _).2 (.word .minus hword)⟩

end Number

end StackScript
