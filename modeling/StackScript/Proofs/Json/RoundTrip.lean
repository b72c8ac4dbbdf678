import StackScript.Json.Diagnostic
import StackScript.Proofs.Entries
import StackScript.Proofs.Json.Representation

/-!
# Storing and loading

Programs, values and diagnostics are stored as JSON texts and come back unchanged. What it takes is
said by `Storable`: naturals fit 64 bits, the keys of an array are distinct, and the number
constants read back, as `readsBack_of_isWhole` shows of whole numbers.
-/

namespace StackScript

/-! ## What can be stored -/

/-- The number is a whole number up to `10 ^ 14`, or its text reads back. -/
def Number.Storable (n : Float) : Prop :=
  Json.IsWhole n ∨ Json.ReadsBack n

theorem Number.Storable.readsBack {n : Float} (h : Number.Storable n) : Json.ReadsBack n :=
  h.elim Json.readsBack_of_isWhole id

/-- The numbers in the value read back, and the keys of its arrays are distinct, all the way
down. -/
inductive Value.Storable : Value → Prop
  | number {n : Float} (storable : Number.Storable n) : Storable (.number n)
  | string (s : String) : Storable (.string s)
  | boolean (b : Bool) : Storable (.boolean b)
  | array {es : Entries Value} (distinct : es.keys.Nodup) (values : ∀ e ∈ es, Storable e.2) :
    Storable (.array es)

/-- Line and column fit 64 bits. -/
def Position.Storable (p : Position) : Prop :=
  p.line < 2 ^ 64 ∧ p.column < 2 ^ 64

/-- Both ends of the range can be stored. -/
def Range.Storable (r : Range) : Prop :=
  r.start.Storable ∧ r.stop.Storable

/-- Targets and counts fit 64 bits, and constants can be stored. -/
def Op.Storable : Op → Prop
  | .pushNumber n => Number.Storable n
  | .pushArray es => (Value.array es).Storable
  | .loadElement _ n | .storeElement _ n => n < 2 ^ 64
  | .jump t | .jumpIfTrue t | .jumpIfFalse t | .call t => t < 2 ^ 64
  | .callLibrary _ _ n => n < 2 ^ 64
  | _ => True

/-- Every operation and every range of the program can be stored. -/
def Program.Storable (p : Program) : Prop :=
  ∀ i ∈ p.instructions.toList, i.op.Storable ∧ i.range.Storable

namespace Json

/-! ## Values -/

theorem valueMembers_eq_map (es : List (String × Value)) :
    valueMembers es = es.map fun e ↦ member e.1 (value e.2) := by
  induction es with
  | nil => rw [valueMembers, List.map_nil]
  | cons e es ih => rw [valueMembers, ih, List.map_cons]

theorem entries_eq_object (es : Entries Value) :
    entries es = object (es.map fun e ↦ (e.1, value e.2)) := by
  rw [entries, valueMembers_eq_map, object, List.map_map]
  rfl

theorem represents_pairs {es : Entries Value}
    (h : ∀ e ∈ es, Represents Reader.value (value e.2) e.2) :
    Represents Reader.pairs (entries es) es := by
  rw [entries_eq_object]
  exact represents_map (fun depth ↦ by rw [Reader.pairs]) h

theorem represents_entries {es : Entries Value} (hdistinct : es.keys.Nodup)
    (h : ∀ e ∈ es, Represents Reader.value (value e.2) e.2) :
    Represents Reader.entries (entries es) es := by
  have hpairs := (represents_pairs h).map Entries.ofPairs
  rwa [Entries.ofPairs_of_nodup hdistinct] at hpairs

theorem represents_value {v : Value} (h : v.Storable) : Represents Reader.value (value v) v := by
  have hread : ∀ depth, Reader.value (depth + 1) =
      Reader.variant (depth + 1) (Reader.valueCases (Reader.pairs depth)) := fun depth ↦ by
    rw [Reader.value]
  induction h with
  | number storable =>
    rw [value]
    exact represents_carrying _ hread (fun _ ↦ rfl)
      ((represents_number storable.readsBack).map Value.number)
  | string s =>
    rw [value]
    exact represents_carrying _ hread (fun _ ↦ rfl) ((represents_text s).map Value.string)
  | boolean b =>
    rw [value]
    exact represents_carrying _ hread (fun _ ↦ rfl) ((represents_boolean b).map Value.boolean)
  | array distinct values ih =>
    -- pairs are put into the array one by one, which keeps them as they are
    have hpairs := (represents_pairs ih).map fun ps ↦ Value.array (Entries.ofPairs ps)
    rw [Entries.ofPairs_of_nodup distinct] at hpairs
    rw [value]
    exact represents_carrying _ hread (fun _ ↦ rfl) hpairs

/-! ## Places -/

theorem represents_position {p : Position} (h : p.Storable) :
    Represents Reader.position (position p) p := by
  have hnames : ["line", "column"].Nodup := by decide
  exact represents_record "struct Position" ({} : Position) [
    .of "line" true (fun p n ↦ { p with line := n }) (represents_natural h.1),
    .of "column" true (fun p n ↦ { p with column := n }) (represents_natural h.2)] hnames

theorem represents_range {r : Range} (h : r.Storable) : Represents Reader.range (range r) r := by
  have hnames : ["start", "end"].Nodup := by decide
  exact represents_record "struct SourceRange" ({} : Range) [
    .of "start" true (fun r p ↦ { r with start := p }) (represents_position h.1),
    .of "end" true (fun r p ↦ { r with stop := p }) (represents_position h.2)] hnames

/-! ## Programs -/

theorem represents_op_plain {o : Op} (hoperand : operand? o = none)
    (hcase : ∀ depth, (Reader.opCases depth).lookup o.name = some (.plain o)) :
    Represents Reader.op (op o) o := by
  rw [op, hoperand]
  exact represents_plain (fun depth ↦ Reader.opCases (depth - 1)) (fun _ ↦ rfl)
    fun _ ↦ hcase _

theorem represents_op_carrying {o : Op} {text shape : String} {payload : ℕ → Reader Op}
    (hoperand : operand? o = some text)
    (hcase : ∀ depth, (Reader.opCases depth).lookup o.name = some (.carrying shape (payload depth)))
    (h : Represents payload text o) : Represents Reader.op (op o) o := by
  rw [op, hoperand]
  exact represents_carrying Reader.opCases (fun _ ↦ rfl) hcase h

theorem represents_element (noun : String) (x : String) {n : ℕ} (hn : n < 2 ^ 64) :
    Represents (Reader.element noun) (object [("name", quote x), ("indices", toString n)])
      (x, n) := by
  have hnames : ["name", "indices"].Nodup := by decide
  exact represents_record noun ("", 0) [
    .of "name" true (fun e x ↦ (x, e.2)) (represents_text x),
    .of "indices" true (fun e n ↦ (e.1, n)) (represents_natural hn)] hnames

theorem represents_libraryCall (library method : String) {n : ℕ} (hn : n < 2 ^ 64) :
    Represents Reader.libraryCall (object
      [("library", quote library), ("method", quote method), ("arguments", toString n)])
      (library, method, n) := by
  have hnames : ["library", "method", "arguments"].Nodup := by decide
  exact represents_record "struct variant Op::CallLibrary" ("", "", 0) [
    .of "library" true (fun c x ↦ (x, c.2)) (represents_text library),
    .of "method" true (fun c x ↦ (c.1, x, c.2.2)) (represents_text method),
    .of "arguments" true (fun c n ↦ (c.1, c.2.1, n)) (represents_natural hn)] hnames

/-- One case for each operation: what belongs to it is written as its case reads it. -/
theorem represents_op {o : Op} (h : o.Storable) : Represents Reader.op (op o) o := by
  cases o with
  | pushNumber n =>
    exact represents_op_carrying rfl (fun _ ↦ rfl)
      ((represents_number h.readsBack).map Op.pushNumber)
  | pushString s =>
    exact represents_op_carrying rfl (fun _ ↦ rfl) ((represents_text s).map Op.pushString)
  | pushBoolean b =>
    exact represents_op_carrying rfl (fun _ ↦ rfl) ((represents_boolean b).map Op.pushBoolean)
  | pushArray es =>
    cases h with
    | array distinct values =>
      exact represents_op_carrying rfl (fun _ ↦ rfl)
        ((represents_entries distinct fun e he ↦ represents_value (values e he)).map Op.pushArray)
  | loadVariable x =>
    exact represents_op_carrying rfl (fun _ ↦ rfl) ((represents_text x).map Op.loadVariable)
  | storeVariable x =>
    exact represents_op_carrying rfl (fun _ ↦ rfl) ((represents_text x).map Op.storeVariable)
  | loadElement x n =>
    exact represents_op_carrying rfl (fun _ ↦ rfl)
      ((represents_element _ x h).map fun e ↦ Op.loadElement e.1 e.2)
  | storeElement x n =>
    exact represents_op_carrying rfl (fun _ ↦ rfl)
      ((represents_element _ x h).map fun e ↦ Op.storeElement e.1 e.2)
  | jump t => exact represents_op_carrying rfl (fun _ ↦ rfl) ((represents_natural h).map Op.jump)
  | jumpIfTrue t =>
    exact represents_op_carrying rfl (fun _ ↦ rfl) ((represents_natural h).map Op.jumpIfTrue)
  | jumpIfFalse t =>
    exact represents_op_carrying rfl (fun _ ↦ rfl) ((represents_natural h).map Op.jumpIfFalse)
  | call t => exact represents_op_carrying rfl (fun _ ↦ rfl) ((represents_natural h).map Op.call)
  | callLibrary library method n =>
    exact represents_op_carrying rfl (fun _ ↦ rfl)
      ((represents_libraryCall library method h).map fun c ↦ Op.callLibrary c.1 c.2.1 c.2.2)
  | _ => exact represents_op_plain rfl fun _ ↦ rfl

theorem represents_instruction {i : Instruction} (hop : i.op.Storable) (hrange : i.range.Storable) :
    Represents Reader.instruction (instruction i) i := by
  have hnames : ["op", "range"].Nodup := by decide
  exact represents_record "struct Instruction" (default : Instruction) [
    .of "op" true (fun i o ↦ { i with op := o }) (represents_op hop),
    .of "range" false (fun i r ↦ { i with range := r }) (represents_range hrange)] hnames

theorem represents_program {p : Program} (h : p.Storable) :
    Represents Reader.program (program p) p := by
  have hlist := represents_list instruction p.instructions.toList fun i hi ↦
    represents_instruction (h i hi).1 (h i hi).2
  have hnames : ["instructions"].Nodup := by decide
  have hrecord := represents_record "struct Program" (default : Program) [
    .of "instructions" true (fun _ is ↦ ⟨is.toArray⟩) hlist] hnames
  have hresult : (⟨p.instructions.toList.toArray⟩ : Program) = p := by rw [Array.toArray_toList]
  rw [← hresult]
  exact hrecord

/-! ## Diagnostics -/

theorem represents_kind (k : Diagnostic.Kind) : Represents Reader.kind (kind k) k := by
  have hcase : (Diagnostic.Kind.all.map fun (s, a) ↦ (s, Case.plain a)).lookup k.name =
      some (.plain k) := by
    cases k <;> rfl
  rw [kind]
  exact represents_plain _ (fun _ ↦ rfl) fun _ ↦ hcase

theorem represents_diagnostic {d : Diagnostic} (h : d.range.Storable) :
    Represents Reader.diagnostic (diagnostic d) d := by
  have hlist := represents_list quote d.arguments fun s _ ↦ represents_text s
  have hnames : ["kind", "range", "arguments"].Nodup := by decide
  exact represents_record "struct Diagnostic" (⟨.arrayOperand, {}, []⟩ : Diagnostic) [
    .of "kind" true (fun d k ↦ { d with kind := k }) (represents_kind d.kind),
    .of "range" true (fun d r ↦ { d with range := r }) (represents_range h),
    .of "arguments" true (fun d as ↦ { d with arguments := as }) hlist] hnames

theorem shallow_position (p : Position) : Shallow 1 (position p).toList := by
  refine shallow_object (List.forall_mem_cons.2 ⟨?_, List.forall_mem_singleton.2 ?_⟩)
  · exact (passed_natural p.line).shallow 0
  · exact (passed_natural p.column).shallow 0

theorem shallow_range (r : Range) : Shallow 2 (range r).toList := by
  refine shallow_object (List.forall_mem_cons.2 ⟨?_, List.forall_mem_singleton.2 ?_⟩)
  · exact shallow_position r.start
  · exact shallow_position r.stop

/-- The range is what nests deepest in a diagnostic. -/
theorem shallow_diagnostic (d : Diagnostic) : Shallow 3 (diagnostic d).toList := by
  refine shallow_object (List.forall_mem_cons.2 ⟨?_, List.forall_mem_cons.2 ⟨?_,
    List.forall_mem_singleton.2 ?_⟩⟩)
  · exact (passed_quote d.kind.name).shallow 2
  · exact shallow_range d.range
  · exact shallow_list (List.forall_mem_map.2 fun s _ ↦ (passed_quote s).shallow 1)

/-! ## Round trips -/

/-- **What is written is read back.** Every program, value and diagnostic that can be stored is read
from its text as it was, operands, ranges and the order of keys included. Programs and values may
nest as deep as readers go; the text of a diagnostic always does. -/
theorem parse_written :
    (∀ p : Program, p.Storable → nesting (program p).toList < 128 →
      Program.load (program p) = .ok p) ∧
    (∀ v : Value, v.Storable → nesting (value v).toList < 128 →
      parse Reader.value (value v) = .ok v) ∧
    (∀ d : Diagnostic, d.range.Storable → parse Reader.diagnostic (diagnostic d) = .ok d) := by
  refine ⟨fun p hp hnesting ↦ ?_, fun v hv hnesting ↦ ?_, fun d hd ↦ ?_⟩
  · exact (represents_program hp).parse hnesting
  · exact (represents_value hv).parse hnesting
  · exact (represents_diagnostic hd).parse (Nat.lt_of_le_of_lt (shallow_diagnostic d).2 (by decide))

/-- An array with a fraction under a key that is escaped, and a whole number. -/
def mixedArray : Entries Value :=
  [("\n\"", .number 0.5), ("é", .number (-7))]

theorem storable_mixedArray : (Value.array mixedArray).Storable := by
  refine .array (by decide) (List.forall_mem_cons.2 ⟨?_, List.forall_mem_singleton.2 ?_⟩)
  · exact .number (.inr (by decide +kernel))
  · exact .number (.inl ⟨7, by decide, .inr rfl⟩)

/-- The program that pushes the array, the array itself, and a diagnostic about it. -/
theorem parse_written_mixedArray :
    Program.load (program ⟨#[⟨.pushArray mixedArray, {}⟩]⟩) = .ok ⟨#[⟨.pushArray mixedArray, {}⟩]⟩ ∧
    parse Reader.value (value (.array mixedArray)) = .ok (.array mixedArray) ∧
    parse Reader.diagnostic (diagnostic ⟨.arrayOperand, {}, ["+"]⟩) =
      .ok ⟨.arrayOperand, {}, ["+"]⟩ := by
  have hrange : ({} : Range).Storable := by
    refine ⟨⟨?_, ?_⟩, ?_, ?_⟩ <;> decide
  refine ⟨parse_written.1 _ (List.forall_mem_singleton.2 ⟨storable_mixedArray, hrange⟩) ?_,
    parse_written.2.1 _ storable_mixedArray ?_, parse_written.2.2 _ hrange⟩
  · decide +kernel
  · decide +kernel

end Json

end StackScript
