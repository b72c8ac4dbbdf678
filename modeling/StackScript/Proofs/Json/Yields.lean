import StackScript.Proofs.Entries
import StackScript.Proofs.Json.Numbers

/-!
# What readers can yield

A text may hold anything, but what is made of it has a shape that the readers give it.
`Reader.Yields r P` says that `r` yields nothing but what satisfies `P`, whatever text it is given.
It says nothing of texts that are refused, so a step whose result does not matter can be passed
over, and a reader that always fails yields whatever one likes.

There is one lemma for each way of putting readers together. A list or an object satisfies a
condition item by item; a record satisfies one that its defaults satisfy and every field keeps; a
variant satisfies what each of its cases does.
-/

namespace StackScript.Json

namespace Reader

variable {α β : Type} {r : Reader α} {P : α → Prop} {Q : β → Prop}

/-- Whatever is read from whatever text satisfies the condition. -/
def Yields (r : Reader α) (P : α → Prop) : Prop :=
  ∀ cs a rest, r cs = (.ok a, rest) → P a

theorem Yields.of_fst (h : Yields r P) {cs : List Char} {a : α} (ha : (r cs).1 = .ok a) : P a :=
  h cs a (r cs).2 (Prod.ext ha rfl)

/-! ## Steps -/

theorem yields_here (c : Cause) : Yields (here c) P := by
  intro cs a rest h
  cases h

theorem yields_next (c : Cause) : Yields (next c) P := by
  intro cs a rest h
  cases h

theorem yields_mismatch (c : Cause) : Yields (mismatch c) P := by
  intro cs a rest h
  cases h

theorem yields_wrongType (expected : String) : Yields (wrongType expected) P := by
  intro cs a rest h
  exact absurd h (wrongType_ne_ok expected cs a rest)

theorem yields_pure {a : α} (h : P a) : Yields (pure a) P := by
  intro cs b rest hb
  cases hb
  exact h

theorem Yields.bind {f : α → Reader β} (hr : Yields r P) (hf : ∀ a, P a → Yields (f a) Q) :
    Yields (r >>= f) Q := by
  intro cs b rest hb
  obtain ⟨a, mid, ha, hb⟩ := eq_ok_of_bind_eq_ok hb
  exact hf a (hr cs a mid ha) mid b rest hb

theorem yields_bind {f : α → Reader β} (hf : ∀ a, Yields (f a) Q) : Yields (r >>= f) Q :=
  Yields.bind (P := fun _ ↦ True) (fun _ _ _ _ ↦ trivial) fun a _ ↦ hf a

theorem Yields.placed (h : Yields r P) : Yields (placed r) P := by
  intro cs a rest ha
  rw [Reader.placed] at ha
  split at ha
  · rename_i hb
    cases ha
    exact h cs a rest hb
  · cases ha

theorem Yields.closedBy (h : Yields r P) (finish : Reader Unit) : Yields (closedBy r finish) P := by
  intro cs a rest ha
  rw [Reader.closedBy] at ha
  split at ha
  · cases ha
  · rename_i mid hb
    split at ha
    · cases ha
      exact h cs a mid hb
    · cases ha

theorem yields_bounded {r : List Char → Reader α} (h : ∀ rounds, Yields (r rounds) P) :
    Yields (bounded r) P := by
  intro cs a rest ha
  exact h (' ' :: cs) cs a rest ha

/-! ## Lists and objects -/

theorem Yields.elements (h : Yields r P) (first : Bool) (rounds : List Char) :
    Yields (elements r first rounds) fun as ↦ ∀ a ∈ as, P a := by
  induction rounds generalizing first with
  | nil => exact yields_pure fun a ha ↦ by cases ha
  | cons round rounds ih =>
    rw [Reader.elements]
    refine yields_bind fun more ↦ ?_
    split
    · refine h.bind fun a ha ↦ (ih false).bind fun as has ↦ yields_pure ?_
      exact List.forall_mem_cons.2 ⟨ha, has⟩
    · exact yields_pure fun a ha ↦ by cases ha

theorem Yields.list (h : Yields r P) (depth : ℕ) :
    Yields (list depth r) fun as ↦ ∀ a ∈ as, P a := by
  refine .placed (yields_bind fun c ↦ ?_)
  split
  · exact yields_bind fun _ ↦ .closedBy (yields_bounded (h.elements true)) _
  · exact yields_wrongType _

theorem Yields.members (h : Yields r P) (first : Bool) (rounds : List Char) :
    Yields (members r first rounds) fun ps ↦ ∀ p ∈ ps, P p.2 := by
  induction rounds generalizing first with
  | nil => exact yields_pure fun p hp ↦ by cases hp
  | cons round rounds ih =>
    rw [Reader.members]
    refine yields_bind fun more ↦ ?_
    split
    · refine yields_bind fun key ↦ yields_bind fun _ ↦ h.bind fun a ha ↦
        (ih false).bind fun ps hps ↦ yields_pure ?_
      exact List.forall_mem_cons.2 ⟨ha, hps⟩
    · exact yields_pure fun p hp ↦ by cases hp

theorem Yields.map (h : Yields r P) (depth : ℕ) :
    Yields (map depth r) fun ps ↦ ∀ p ∈ ps, P p.2 := by
  refine .placed (yields_bind fun c ↦ ?_)
  split
  · exact yields_bind fun _ ↦ .closedBy (yields_bounded (h.members true)) _
  · exact yields_wrongType _

/-! ## Records -/

/-- A field keeps a condition on its record if what it does to the record does. -/
theorem Yields.into {r : Reader β} (h : Yields r Q) {set : α → β → α}
    (hset : ∀ a b, P a → Q b → P (set a b)) :
    Yields (r.into set) fun g ↦ ∀ a, P a → P (g a) := by
  refine h.bind fun b hb ↦ yields_pure ?_
  intro a ha
  exact hset a b ha hb

section Record

variable {fields : List (Field α)}
  (hfields : ∀ f ∈ fields, Yields f.read fun g ↦ ∀ a, P a → P (g a))

include hfields

theorem yields_objectFields (first : Bool) {p : Partial α} (hp : P p.record)
    (rounds : List Char) : Yields (objectFields fields first p rounds) P := by
  induction rounds generalizing first p with
  | nil => exact yields_pure hp
  | cons round rounds ih =>
    rw [objectFields]
    refine yields_bind fun more ↦ ?_
    split
    · refine yields_bind fun key ↦ ?_
      split
      · rename_i f hf
        split
        · exact yields_mismatch _
        · refine yields_bind fun _ ↦ (hfields f (List.mem_of_find?_eq_some hf)).bind ?_
          intro g hg
          exact ih false (hg p.record hp)
      · exact yields_bind fun _ ↦ yields_bind fun _ ↦ ih false hp
    · rw [complete]
      split
      · exact yields_mismatch _
      · exact yields_pure hp

theorem yields_listFields (expected : String) (n : ℕ) {a : α} (ha : P a) :
    Yields (listFields expected n a fields) P := by
  induction fields generalizing n a with
  | nil => exact yields_pure ha
  | cons f fields ih =>
    rw [List.forall_mem_cons] at hfields
    rw [listFields]
    refine yields_bind fun more ↦ ?_
    split
    · exact hfields.1.bind fun g hg ↦ ih hfields.2 (n + 1) (hg a ha)
    · split
      · exact yields_mismatch _
      · exact ih hfields.2 (n + 1) ha

/-- Fields may come in any order, and some may be missing: the defaults satisfy the condition, and
each field keeps it. -/
theorem yields_record {start : α} (hstart : P start) (noun : String) (depth : ℕ) :
    Yields (record noun start depth fields) P := by
  refine .placed (yields_bind fun c ↦ ?_)
  split
  · refine yields_bind fun _ ↦ .closedBy (yields_bounded ?_) _
    exact yields_objectFields hfields true hstart
  · refine yields_bind fun _ ↦ .closedBy ?_ _
    exact yields_listFields hfields _ 0 hstart
  · exact yields_wrongType _

end Record

end Reader

/-! ## Variants -/

/-- Whatever is read as the case satisfies the condition. -/
def Case.Yields {α : Type} (P : α → Prop) : Case α → Prop
  | .plain a => P a
  | .carrying _ read => read.Yields P

theorem Case.yields_plain {α : Type} {P : α → Prop} {a : α} : (Case.plain a).Yields P ↔ P a :=
  Iff.rfl

namespace Reader

variable {α β : Type} {P : α → Prop} {Q : β → Prop} {cases : List (String × Case α)}

theorem yields_payload {c : Case α} (h : c.Yields P) : Yields c.payload P := by
  cases c with
  | plain a => exact yields_bind fun _ ↦ yields_pure h
  | carrying shape read => exact h

theorem yields_caseOf (h : ∀ c ∈ cases, c.2.Yields P) (name : String) :
    Yields (caseOf cases name) (Case.Yields P) := by
  refine .placed ?_
  split
  · rename_i c hc
    exact yields_pure (h (name, c) (Entries.mem_of_get?_eq_some hc))
  · exact yields_mismatch _

theorem yields_variant (h : ∀ c ∈ cases, c.2.Yields P) (depth : ℕ) :
    Yields (variant depth cases) P := by
  refine yields_bind fun c ↦ ?_
  split
  · -- the name alone
    refine yields_bind fun name ↦ (yields_caseOf h name).bind fun c hc ↦ ?_
    cases c with
    | plain a => exact yields_pure hc
    | carrying shape read => exact yields_mismatch _
  · -- an object with the name as its only key
    refine yields_bind fun _ ↦ yields_bind fun token ↦ ?_
    split
    · exact yields_next _
    · exact yields_next _
    · refine yields_bind fun name ↦ (yields_caseOf h name).bind fun c hc ↦
        yields_bind fun _ ↦ (yields_payload hc).bind fun a ha ↦ yields_bind fun token ↦ ?_
      split
      · exact yields_here _
      · exact yields_bind fun _ ↦ yields_pure ha
      · exact yields_here _
    · exact yields_next _
  · exact yields_next _

end Reader

/-! ## Whole texts -/

theorem parse_yields {α : Type} {P : α → Prop} {read : ℕ → Reader α} {s : String} {a : α}
    (hread : (read maxDepth).Yields P) (h : parse read s = .ok a) : P a := by
  rw [parse] at h
  split at h
  · rename_i b hb
    rw [← Except.ok.inj h]
    refine Reader.Yields.of_fst ?_ hb
    refine hread.bind fun c hc ↦ Reader.yields_bind fun token ↦ ?_
    split
    · exact Reader.yields_pure hc
    · exact Reader.yields_next _
  · cases h

end StackScript.Json
