import Mathlib.Data.Nat.Notation
import StackScript.Json.Shape
import StackScript.Json.Writer

/-!
# What readers read

A text is put together from smaller ones, and each is read on its own: what stands behind it is a
comma, a closing bracket or the end. `Reader.Reads r text a` says that `r` takes exactly `text`,
before any such delimiter, and gives `a`. The lemmas here go up from single characters over strings
to lists, objects, records and variants.
-/

namespace StackScript.Json

/-- What may follow a value: nothing, or a character that ends a member of a list or an object. -/
def Delimited (rest : List Char) : Prop :=
  ∀ c ∈ rest.head?, c = ',' ∨ c = ']' ∨ c = '\x7d'

namespace Reader

variable {α β : Type} {cs rest : List Char}

/-- The reader takes the text, whatever delimiter follows it, and gives the value. -/
def Reads (r : Reader α) (text : List Char) (a : α) : Prop :=
  ∀ rest, Delimited rest → r (text ++ rest) = (.ok a, rest)

/-! ## Running readers -/

theorem bind_of_ok {r : Reader α} {a : α} (h : r cs = (.ok a, rest)) (f : α → Reader β) :
    (r >>= f) cs = f a rest := by
  change Reader.bind r f cs = _
  rw [Reader.bind, h]

theorem placed_of_ok {r : Reader α} {a : α} (h : r cs = (.ok a, rest)) :
    placed r cs = (.ok a, rest) := by
  rw [placed, h]

theorem closedBy_of_ok {body : Reader α} {finish : Reader Unit} {a : α} {last : List Char}
    (hbody : body cs = (.ok a, last)) (hfinish : finish last = (.ok (), rest)) :
    closedBy body finish cs = (.ok a, rest) := by
  rw [closedBy, hbody]
  dsimp only
  rw [hfinish]

theorem peek?_cons (c : Char) (cs : List Char) : peek? (c :: cs) = (.ok (some c), c :: cs) :=
  rfl

theorem skip_cons (c : Char) (cs : List Char) : skip (c :: cs) = (.ok (), cs) :=
  rfl

theorem token?_cons {c : Char} (hc : isSpace c = false) :
    token? (c :: cs) = (.ok (some c), c :: cs) := by
  have hskip : skipWhile isSpace (c :: cs) = (.ok (), c :: cs) := by
    rw [skipWhile, List.dropWhile_cons_of_neg (by rw [hc]; decide)]
  rw [token?, bind_of_ok hskip]
  rfl

theorem valueStart_cons {c : Char} (hc : isSpace c = false) :
    valueStart (c :: cs) = (.ok c, c :: cs) := by
  rw [valueStart, bind_of_ok (token?_cons hc)]
  rfl

/-! ## Strings -/

theorem hexNumber?_hexDigit : ∀ n < 0x20,
    hexNumber? '0' '0' (hexDigit (n / 16)) (hexDigit (n % 16)) = some n := by
  decide

theorem numberedChar_hexDigit {c : Char} (hc : c.toNat < 0x20) (rest : List Char) :
    numberedChar ('0' :: '0' :: hexDigit (c.toNat / 16) :: hexDigit (c.toNat % 16) :: rest) =
      (.ok c, rest) := by
  have hhex : hexEscape ('0' :: '0' :: hexDigit (c.toNat / 16) :: hexDigit (c.toNat % 16) :: rest) =
      (.ok c.toNat, rest) := by
    rw [hexEscape, hexNumber?_hexDigit c.toNat hc]
  rw [numberedChar, bind_of_ok hhex, if_neg (by omega), if_neg (by omega), Char.ofNat_toNat]
  rfl

/-- One round reads one character, however it is written. -/
theorem stringFrom_escapeChar (read : List Char) (round : Char) (rounds : List Char) (c : Char)
    (rest : List Char) :
    stringFrom read (round :: rounds) (escapeChar c ++ rest) =
      stringFrom (c :: read) rounds rest := by
  unfold escapeChar
  split
  -- the escapes with a letter of their own are read by computing
  all_goals try rfl
  split
  · rename_i hcontrol
    exact bind_of_ok (numberedChar_hexDigit hcontrol rest) _
  · rename_i hprinted
    rw [List.singleton_append, stringFrom, bind_of_ok (peek?_cons c rest)]
    simp only [hprinted]
    rfl

theorem stringFrom_flatMap_escapeChar (s read rounds : List Char)
    (hrounds : s.length < rounds.length) (rest : List Char) :
    stringFrom read rounds (s.flatMap escapeChar ++ '"' :: rest) =
      (.ok (String.ofList (read.reverse ++ s)), rest) := by
  induction s generalizing read rounds with
  | nil =>
    obtain ⟨round, rounds, rfl⟩ := List.exists_cons_of_length_pos hrounds
    rw [List.append_nil]
    rfl
  | cons c s ih =>
    obtain ⟨round, rounds, rfl⟩ := List.exists_cons_of_length_pos (Nat.zero_lt_of_lt hrounds)
    rw [List.flatMap_cons, List.append_assoc, stringFrom_escapeChar,
      ih _ _ (Nat.lt_of_succ_lt_succ hrounds), List.reverse_cons, List.append_assoc,
      List.singleton_append]

theorem escapeChar_ne_nil (c : Char) : escapeChar c ≠ [] := by
  unfold escapeChar
  split
  all_goals try exact List.cons_ne_nil _ _
  split <;> exact List.cons_ne_nil _ _

theorem length_le_flatMap_escapeChar (s : List Char) :
    s.length ≤ (s.flatMap escapeChar).length := by
  induction s with
  | nil => exact Nat.le_refl 0
  | cons c s ih =>
    have := List.length_pos_iff.2 (escapeChar_ne_nil c)
    rw [List.flatMap_cons, List.length_append, List.length_cons]
    omega

theorem toList_quote (s : String) :
    (quote s).toList = '"' :: (s.toList.flatMap escapeChar ++ ['"']) :=
  String.toList_ofList

/-- A written string is read whatever follows it. -/
theorem string_quote (s : String) (rest : List Char) :
    string ((quote s).toList ++ rest) = (.ok s, rest) := by
  have hbody : stringBody (s.toList.flatMap escapeChar ++ '"' :: rest) = (.ok s, rest) := by
    have hlength := length_le_flatMap_escapeChar s.toList
    have h := stringFrom_flatMap_escapeChar s.toList []
      (' ' :: (s.toList.flatMap escapeChar ++ '"' :: rest)) (by
        rw [List.length_cons, List.length_append]
        omega) rest
    rwa [List.reverse_nil, List.nil_append, String.ofList_toList] at h
  rw [toList_quote, List.cons_append, List.append_assoc]
  exact hbody

theorem reads_text (s : String) : Reads text (quote s).toList s := by
  intro rest _
  have hstring := string_quote s rest
  rw [toList_quote, List.cons_append] at hstring ⊢
  refine placed_of_ok ?_
  rw [bind_of_ok (valueStart_cons rfl)]
  exact hstring

theorem reads_boolean (b : Bool) : Reads boolean (Json.boolean b).toList b := by
  intro rest _
  cases b <;> rfl

/-! ## Lists and objects -/

/-- Texts one after the other, with a comma before each but the first of its construct. -/
def series (first : Bool) : List (List Char) → List Char
  | [] => []
  | t :: ts => (if first then t else ',' :: t) ++ series false ts

theorem toList_intercalate_comma (texts : List String) :
    (",".intercalate texts).toList = series true (texts.map String.toList) := by
  have key : ∀ (t : List Char) (ts : List (List Char)),
      [','].intercalate (t :: ts) = t ++ series false ts := by
    intro t ts
    induction ts generalizing t with
    | nil => rw [List.intercalate_singleton, series, List.append_nil]
    | cons u ts ih =>
      rw [List.intercalate_cons_cons, ih, series, if_neg (by decide)]
      simp
  rw [String.toList_intercalate]
  cases texts with
  | nil => rfl
  | cons t ts => exact key _ _

theorem length_le_length_series (ts : List (List Char)) : ts.length ≤ (series false ts).length := by
  induction ts with
  | nil => exact Nat.le_refl 0
  | cons t ts ih =>
    rw [series, if_neg (by decide), List.length_append, List.length_cons, List.length_cons]
    omega

/-- A bounded reader has rounds enough for the texts between two brackets. -/
theorem length_lt_rounds (ts : List (List Char)) (c : Char) (rest : List Char) :
    ts.length < (' ' :: (series true ts ++ c :: rest)).length := by
  cases ts with
  | nil => exact Nat.zero_lt_succ _
  | cons t ts =>
    have := length_le_length_series ts
    rw [series, List.length_cons, List.length_cons, List.length_append, List.length_append,
      List.length_cons]
    omega

theorem delimited_series {c : Char} (hc : c = ']' ∨ c = '\x7d') (ts : List (List Char))
    (rest : List Char) : Delimited (series false ts ++ c :: rest) := by
  cases ts with
  | nil =>
    intro d hd
    obtain rfl := Option.mem_some.1 hd
    exact .inr hc
  | cons t ts =>
    intro d hd
    exact .inl (Option.mem_some.1 hd).symm

theorem enter_cons {depth : ℕ} (hdepth : depth ≠ 0) (c : Char) (cs : List Char) :
    enter depth (c :: cs) = (.ok (), cs) := by
  rw [enter, if_neg hdepth]
  rfl

/-- Texts between two brackets are read by a reader that sees the opening one and then goes over the
texts, a round for each. -/
theorem reads_bracketed {o c : Char} {depth : ℕ} {f : Char → Reader α}
    {body : List Char → Reader α} {finish : Reader Unit} {ts : List (List Char)} {a : α}
    (hspace : isSpace o = false) (hdepth : depth ≠ 0)
    (hf : f o = do enter depth; closedBy (bounded body) finish)
    (hbody : ∀ rounds rest, ts.length < rounds.length →
      body rounds (series true ts ++ c :: rest) = (.ok a, c :: rest))
    (hfinish : ∀ rest, finish (c :: rest) = (.ok (), rest)) :
    Reads (placed (valueStart >>= f)) (o :: (series true ts ++ [c])) a := by
  intro rest _
  rw [List.cons_append, List.append_assoc, List.singleton_append]
  refine placed_of_ok ?_
  rw [bind_of_ok (valueStart_cons hspace), hf, bind_of_ok (enter_cons hdepth _ _)]
  exact closedBy_of_ok (hbody _ rest (length_lt_rounds ts c rest)) (hfinish rest)

/-- The text starts like a value. -/
def Starts (t : List Char) : Prop :=
  ∃ c cs, t = c :: cs ∧ isSpace c = false ∧ c ≠ ']'

theorem moreElements_series {t : List Char} (ht : Starts t) (first : Bool) (rest : List Char) :
    moreElements first ((if first then t else ',' :: t) ++ rest) = (.ok true, t ++ rest) := by
  obtain ⟨c, cs, rfl, hspace, hclose⟩ := ht
  cases first with
  | true =>
    rw [if_pos rfl, List.cons_append, moreElements, bind_of_ok (token?_cons hspace)]
    -- `hclose` rules out the case of the closing bracket
    simp only
    rfl
  | false =>
    have hcomma : isSpace ',' = false := by decide
    rw [if_neg (by decide), List.cons_append, List.cons_append, moreElements,
      bind_of_ok (token?_cons hcomma)]
    change (skip >>= fun _ ↦ token? >>= _) _ = _
    rw [bind_of_ok (skip_cons ',' _), bind_of_ok (token?_cons hspace)]
    simp only
    rfl

/-- The elements are read one a round, up to the closing bracket. -/
theorem elements_series {element : Reader α} {write : α → List Char} {as : List α}
    (has : ∀ a ∈ as, Starts (write a) ∧ Reads element (write a) a) (first : Bool)
    {rounds : List Char} (hrounds : as.length < rounds.length) (rest : List Char) :
    elements element first rounds (series first (as.map write) ++ ']' :: rest) =
      (.ok as, ']' :: rest) := by
  induction as generalizing first rounds with
  | nil =>
    obtain ⟨round, rounds, rfl⟩ := List.exists_cons_of_length_pos hrounds
    rfl
  | cons a as ih =>
    obtain ⟨round, rounds, rfl⟩ := List.exists_cons_of_length_pos (Nat.zero_lt_of_lt hrounds)
    obtain ⟨hstarts, hreads⟩ := has a List.mem_cons_self
    have hrest := ih (fun b hb ↦ has b (List.mem_cons_of_mem a hb)) false
      (Nat.lt_of_succ_lt_succ hrounds)
    rw [List.map_cons, series, List.append_assoc, elements,
      bind_of_ok (moreElements_series hstarts first _)]
    change (element >>= _) _ = _
    rw [bind_of_ok (hreads _ (delimited_series (.inl rfl) _ _)), bind_of_ok hrest]
    rfl

theorem reads_list {depth : ℕ} {element : Reader α} {write : α → List Char} {as : List α}
    (hdepth : depth ≠ 0) (has : ∀ a ∈ as, Starts (write a) ∧ Reads element (write a) a) :
    Reads (list depth element) ('[' :: (series true (as.map write) ++ [']'])) as := by
  refine reads_bracketed rfl hdepth rfl (fun rounds rest hrounds ↦ ?_) fun _ ↦ rfl
  rw [List.length_map] at hrounds
  exact elements_series has true hrounds rest

/-- A key with the text of its value. -/
def keyed (key : String) (t : List Char) : List Char :=
  (quote key).toList ++ ':' :: t

theorem moreKeys_series (key : String) (t : List Char) (first : Bool) (rest : List Char) :
    moreKeys first ((if first then keyed key t else ',' :: keyed key t) ++ rest) =
      (.ok true, (quote key).toList ++ ':' :: (t ++ rest)) := by
  rw [keyed, toList_quote]
  cases first with
  | true =>
    rw [if_pos rfl, List.append_assoc]
    rfl
  | false =>
    rw [if_neg (by decide), List.cons_append, List.append_assoc]
    rfl

theorem colon_cons (cs : List Char) : colon (':' :: cs) = (.ok (), cs) :=
  rfl

/-- The members are read one a round, up to the closing brace. -/
theorem members_series {value : Reader α} {write : α → List Char} {ps : List (String × α)}
    (hps : ∀ p ∈ ps, Reads value (write p.2) p.2) (first : Bool) {rounds : List Char}
    (hrounds : ps.length < rounds.length) (rest : List Char) :
    members value first rounds
        (series first (ps.map fun p ↦ keyed p.1 (write p.2)) ++ '\x7d' :: rest) =
      (.ok ps, '\x7d' :: rest) := by
  induction ps generalizing first rounds with
  | nil =>
    obtain ⟨round, rounds, rfl⟩ := List.exists_cons_of_length_pos hrounds
    rfl
  | cons p ps ih =>
    obtain ⟨round, rounds, rfl⟩ := List.exists_cons_of_length_pos (Nat.zero_lt_of_lt hrounds)
    have hreads := hps p List.mem_cons_self
    have hrest := ih (fun q hq ↦ hps q (List.mem_cons_of_mem p hq)) false
      (Nat.lt_of_succ_lt_succ hrounds)
    rw [List.map_cons, series, List.append_assoc, members, bind_of_ok (moreKeys_series _ _ _ _)]
    change (string >>= _) _ = _
    rw [bind_of_ok (string_quote _ _), bind_of_ok (colon_cons _),
      bind_of_ok (hreads _ (delimited_series (.inr rfl) _ _)), bind_of_ok hrest]
    rfl

theorem reads_map {depth : ℕ} {value : Reader α} (write : α → List Char) {ps : List (String × α)}
    (hdepth : depth ≠ 0) (hps : ∀ p ∈ ps, Reads value (write p.2) p.2) :
    Reads (map depth value)
      ('\x7b' :: (series true (ps.map fun p ↦ keyed p.1 (write p.2)) ++ ['\x7d'])) ps := by
  refine reads_bracketed rfl hdepth rfl (fun rounds rest hrounds ↦ ?_) fun _ ↦ rfl
  rw [List.length_map] at hrounds
  exact members_series hps true hrounds rest

/-! ## Records

The values of a record's fields have different types. What they have in common is what they do to
the record, so a field is taken together with that, and reading the record folds it over the
fields. -/

end Reader

/-- A field of a record together with a text of its value. -/
structure Part (α : Type) extends Field α where
  /-- The text. -/
  text : List Char
  /-- What the text stands for. -/
  set : α → α

namespace Reader

theorem Reads.into {r : Reader β} {t : List Char} {b : β} (h : Reads r t b) (set : α → β → α) :
    Reads (r.into set) t fun a ↦ set a b := by
  intro rest hrest
  rw [Reader.into, bind_of_ok (h rest hrest)]
  rfl

/-- The fields are read one a round. `parts` are those still to come; the names of the others have
been seen. -/
theorem objectFields_series {fields : List (Field α)} {parts : List (Part α)}
    (hreads : ∀ p ∈ parts, p.read.Reads p.text p.set)
    (hfind : ∀ p ∈ parts, fields.find? (·.name == p.name) = some p.toField) (first : Bool) (a : α)
    {seen : List String} (hnew : ∀ p ∈ parts, p.name ∉ seen) (hnodup : (parts.map (·.name)).Nodup)
    (hcover : ∀ f ∈ fields, f.name ∈ seen ∨ f.name ∈ parts.map (·.name)) {rounds : List Char}
    (hrounds : parts.length < rounds.length) (rest : List Char) :
    objectFields fields first ⟨a, seen⟩ rounds
        (series first (parts.map fun p ↦ keyed p.name p.text) ++ '\x7d' :: rest) =
      (.ok (parts.foldl (fun a p ↦ p.set a) a), '\x7d' :: rest) := by
  induction parts generalizing first a seen rounds with
  | nil =>
    obtain ⟨round, rounds, rfl⟩ := List.exists_cons_of_length_pos hrounds
    have hnone : (fields.find? fun f ↦ f.required && !seen.contains f.name) = none := by
      rw [List.find?_eq_none]
      intro f hf
      have hseen := (hcover f hf).resolve_right List.not_mem_nil
      rw [List.contains_eq_mem, decide_eq_true hseen]
      simp
    have hmore : moreKeys first (series first [] ++ '\x7d' :: rest) = (.ok false, '\x7d' :: rest) :=
      rfl
    rw [List.map_nil, objectFields, bind_of_ok hmore]
    change complete fields ⟨a, seen⟩ _ = _
    rw [complete, hnone]
    rfl
  | cons p parts ih =>
    obtain ⟨round, rounds, rfl⟩ := List.exists_cons_of_length_pos (Nat.zero_lt_of_lt hrounds)
    rw [List.map_cons, List.nodup_cons] at hnodup
    have hunseen : seen.contains p.name = false := by
      rw [List.contains_eq_mem, decide_eq_false (hnew p List.mem_cons_self)]
    have hnew' : ∀ q ∈ parts, q.name ∉ p.name :: seen := by
      intro q hq hmem
      rcases List.mem_cons.1 hmem with heq | hmem
      · exact hnodup.1 (heq ▸ List.mem_map_of_mem hq)
      · exact hnew q (List.mem_cons_of_mem p hq) hmem
    have hcover' : ∀ f ∈ fields, f.name ∈ p.name :: seen ∨ f.name ∈ parts.map (·.name) := by
      intro f hf
      rcases hcover f hf with hseen | hmem
      · exact .inl (List.mem_cons_of_mem _ hseen)
      · rcases List.mem_cons.1 hmem with heq | hmem
        · exact .inl (heq ▸ List.mem_cons_self)
        · exact .inr hmem
    have hrest := ih (fun q hq ↦ hreads q (List.mem_cons_of_mem p hq))
      (fun q hq ↦ hfind q (List.mem_cons_of_mem p hq)) false (p.set a) hnew' hnodup.2 hcover'
      (Nat.lt_of_succ_lt_succ hrounds)
    rw [List.map_cons, series, List.append_assoc, objectFields,
      bind_of_ok (moreKeys_series _ _ _ _)]
    change (string >>= _) _ = _
    rw [bind_of_ok (string_quote _ _), hfind p List.mem_cons_self]
    dsimp only
    -- a name that was seen before would be a duplicate field
    rw [hunseen]
    change (colon >>= _) _ = _
    rw [bind_of_ok (colon_cons _),
      bind_of_ok (hreads p List.mem_cons_self _ (delimited_series (.inr rfl) _ _)), hrest]
    rfl

theorem find?_name {fields : List (Field α)} (hnodup : (fields.map (·.name)).Nodup) {f : Field α}
    (hf : f ∈ fields) : fields.find? (·.name == f.name) = some f := by
  induction fields with
  | nil => cases hf
  | cons g fields ih =>
    rw [List.map_cons, List.nodup_cons] at hnodup
    rcases List.mem_cons.1 hf with rfl | hmem
    · rw [List.find?_cons, beq_self_eq_true]
    · have hne : (g.name == f.name) = false := by
        rw [beq_eq_false_iff_ne]
        exact fun h ↦ hnodup.1 (h ▸ List.mem_map_of_mem hmem)
      rw [List.find?_cons, hne]
      exact ih hnodup.2 hmem

/-- A record is read from an object that has all of its fields, each once. -/
theorem reads_record (parts : List (Part α)) (hreads : ∀ p ∈ parts, p.read.Reads p.text p.set)
    (hnodup : (parts.map (·.name)).Nodup) (noun : String) (start : α) {depth : ℕ}
    (hdepth : depth ≠ 0) :
    Reads (record noun start depth (parts.map (·.toField)))
      ('\x7b' :: (series true (parts.map fun p ↦ keyed p.name p.text) ++ ['\x7d']))
      (parts.foldl (fun a p ↦ p.set a) start) := by
  have hnames : (parts.map (·.toField)).map (·.name) = parts.map (·.name) := List.map_map
  have hfind : ∀ p ∈ parts,
      (parts.map (·.toField)).find? (·.name == p.name) = some p.toField := fun p hp ↦
    find?_name (hnames ▸ hnodup) (List.mem_map_of_mem hp)
  have hcover : ∀ f ∈ parts.map (·.toField), f.name ∈ [] ∨ f.name ∈ parts.map (·.name) :=
    fun f hf ↦ .inr (hnames ▸ List.mem_map_of_mem hf)
  refine reads_bracketed rfl hdepth rfl (fun rounds rest hrounds ↦ ?_) fun _ ↦ rfl
  rw [List.length_map] at hrounds
  exact objectFields_series hreads hfind true start (fun _ _ ↦ List.not_mem_nil) hnodup hcover
    hrounds rest

/-! ## Variants -/

theorem caseOf_of_lookup {cases : List (String × Case α)} {name : String} {c : Case α}
    (h : cases.lookup name = some c) (cs : List Char) : caseOf cases name cs = (.ok c, cs) := by
  refine placed_of_ok ?_
  rw [h]
  rfl

theorem reads_variant_plain {cases : List (String × Case α)} {name : String} {a : α}
    (h : cases.lookup name = some (.plain a)) (depth : ℕ) :
    Reads (variant depth cases) (quote name).toList a := by
  intro rest _
  have hstring := string_quote name rest
  rw [toList_quote, List.cons_append] at hstring ⊢
  rw [variant, bind_of_ok (valueStart_cons rfl)]
  change (string >>= _) _ = _
  rw [bind_of_ok hstring, bind_of_ok (caseOf_of_lookup h rest)]
  rfl

theorem reads_variant_carrying {cases : List (String × Case α)} {name shape : String}
    {r : Reader α} {t : List Char} {a : α} (h : cases.lookup name = some (.carrying shape r))
    (hr : Reads r t a) {depth : ℕ} (hdepth : depth ≠ 0) :
    Reads (variant depth cases) ('\x7b' :: (keyed name t ++ ['\x7d'])) a := by
  intro rest _
  have hdelimited : Delimited ('\x7d' :: rest) := delimited_series (.inr rfl) [] rest
  have hstring := string_quote name (':' :: (t ++ '\x7d' :: rest))
  rw [List.cons_append, List.append_assoc, List.singleton_append, keyed, List.append_assoc,
    List.cons_append]
  rw [variant, bind_of_ok (valueStart_cons rfl)]
  change (enter depth >>= _) _ = _
  rw [bind_of_ok (enter_cons hdepth _ _)]
  rw [toList_quote, List.cons_append] at hstring ⊢
  rw [bind_of_ok (token?_cons rfl)]
  change (string >>= _) _ = _
  rw [bind_of_ok hstring, bind_of_ok (caseOf_of_lookup h _), bind_of_ok (colon_cons _)]
  change (r >>= _) _ = _
  rw [bind_of_ok (hr _ hdelimited)]
  rfl

end Reader

end StackScript.Json
