import StackScript.Library.Builtin
import StackScript.Proofs.Failures
import StackScript.Proofs.FirstFailure
import StackScript.Proofs.Templates

/-!
# What a diagnostic says

The arguments of a diagnostic are made where an operation fails, the template that they go into
belongs to the kind of failure, and the sign of an operator comes from the tokens of the source
language. Here the three are held against each other: whatever run reports a failure, the kind and
the arguments are those that the failing instruction determines, and they fill the slots of the
message with none missing and none left over.
-/

namespace StackScript

namespace Op

/-- The sign by which messages quote an arithmetic operation. -/
def symbol? : Op → Option String
  | add => some "+"
  | subtract => some "-"
  | multiply => some "*"
  | divide => some "/"
  | negate => some "-"
  | _ => none

theorem symbol?_of_sign? {op : Op} {sign : Token} (h : op.sign? = some sign) :
    op.symbol? = some sign.text := by
  cases op <;> cases h <;> rfl

end Op

namespace Machine

variable {m : Machine} {op : Op} {s : State}

/-- What the arguments of a diagnostic of each kind are, for an operation that fails in a state. -/
def Explains (m : Machine) (op : Op) (s : State) (arguments : List String) :
    Diagnostic.Kind → Prop
  | .arrayOperand => ∃ symbol, op.symbol? = some symbol ∧ arguments = [symbol]
  | .booleanOperand | .stringOperand =>
    ∃ symbol, op.symbol? = some symbol ∧ op ≠ .add ∧ arguments = [symbol]
  | .arrayIndex =>
    (∃ name n, op = .loadElement name n ∨ op = .storeElement name n) ∧ arguments = []
  | .stackUnderflow => arguments = [op.name]
  | .stackOverflow => arguments = [toString m.limits.stackSize]
  | .callOverflow =>
    (∃ target, op = .call target) ∧ arguments = [toString m.limits.callDepth]
  | .invalidTarget => ∃ target, op.target? = some target ∧ arguments = [toString target]
  | .returnWithoutCall => op = .ret ∧ arguments = []
  | .unknownMethod => ∃ library method n, op = .callLibrary library method n ∧
      arguments = [library ++ "." ++ method]
  | .libraryCallFailed => ∃ library method n l e, op = .callLibrary library method n ∧
      m.libraries.get? library = some l ∧
      l.call method (s.stack.items.take n).reverse = .error e ∧
      arguments = [library ++ "." ++ method, e.message]

/-- One case for each reason: the failure carries what its kind asks for. -/
theorem Reason.explains {c : Failure} (h : m.Reason op s c) :
    m.Explains op s c.arguments c.kind := by
  cases h with
  | underflow | overflow => rfl
  | arrayOperand sign signed => exact ⟨sign.text, Op.symbol?_of_sign? signed, rfl⟩
  | booleanOperand sign signed other | stringOperand sign signed other =>
    exact ⟨sign.text, Op.symbol?_of_sign? signed, other, rfl⟩
  | arrayIndex name n indexed => exact ⟨⟨name, n, indexed⟩, rfl⟩
  | invalidTarget target named outside => exact ⟨target, named, rfl⟩
  | callOverflow target named full => exact ⟨⟨target, named⟩, rfl⟩
  | returnWithoutCall named closed => exact ⟨named, rfl⟩
  | unknownMethod library method n named unknown => exact ⟨library, method, n, named, rfl⟩
  | libraryCallFailed library method n l e named found refused known =>
    exact ⟨library, method, n, l, e, named, found, refused, rfl⟩

/-- **Diagnostics carry what their messages need.** If a run reports a failure, then the kind and
the arguments are those that the instruction dispatched last, the limits and the libraries determine
as `Explains` lists them; and the slots of the message are numbered from zero on without gaps, one
for each argument, so there are as many arguments as slots. -/
theorem run_explains_diagnostic (m : Machine) (n : ℕ) (s : State) (d : Diagnostic)
    (h : m.run n = some s) (hd : s.result = .error d) :
    (∃ k i, m.advance (k + 1) .initial = s ∧ m.dispatched? (m.advance k .initial) = some i ∧
      d.range = i.range ∧ m.Explains i.op (m.advance k .initial) d.arguments d.kind) ∧
    Diagnostic.slots d.kind.template.toList = List.range d.arguments.length ∧
    (Diagnostic.slots d.kind.template.toList).length = d.arguments.length := by
  obtain ⟨k, hlast, hfails⟩ := exists_failsInto h hd
  obtain ⟨i, f, hdispatched, hexec, -, rfl⟩ := hfails.culprit
  have hslots := f.failure.slots_template_kind
  refine ⟨⟨k, i, hlast, hdispatched, rfl, (exec_reason hexec).explains⟩, hslots, ?_⟩
  exact (congrArg List.length hslots).trans List.length_range

/-- A truth value has no magnitude. -/
def absOfTruth : Machine where
  program := ⟨#[⟨.pushBoolean true, {}⟩, ⟨.callLibrary "Math" "Abs" 1, ⟨⟨1, 1⟩, ⟨1, 9⟩⟩⟩]⟩
  libraries := .builtin

/-- The library's own message is the second argument. -/
theorem run_explains_diagnostic_absOfTruth :
    ∃ s d, absOfTruth.run 2 = some s ∧ s.result = .error d ∧
      d = ⟨.libraryCallFailed, ⟨⟨1, 1⟩, ⟨1, 9⟩⟩,
        ["Math.Abs", "expected a number, got Boolean True"]⟩ ∧
      Diagnostic.slots d.kind.template.toList = [0, 1] := by
  refine ⟨absOfTruth.advance 2 .initial, _, rfl, rfl, by decide +kernel, ?_⟩
  exact (run_explains_diagnostic absOfTruth 2 (absOfTruth.advance 2 .initial) _ rfl rfl).2.1

end Machine

end StackScript
