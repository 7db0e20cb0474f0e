import ChartScript.Proofs.Resolution

/-!
# Types in errors

An error about a type names the expected type and the one that was met. The two differ wherever the
error comes from an operator, a condition or a call. An assignment names the type of what the
variable holds as the expected one. A variable that held a string or a color and was given `na`
since holds a number, and takes no number: the error there expects a number and has got one.
-/

set_option autoImplicit false

namespace ChartScript

open RunError (OfOperands OfExpression)

section Differ

variable {operation : String} {expected got : ValueType} {stopped : RunState}

theorem RunError.OfOperands.differ (operands : OfOperands (.typeMismatch operation expected got)) :
    expected ≠ got := by
  cases operands with
  | typeMismatch _ differ => exact differ

theorem Builtin.Fails.differ {builtin : Builtin} {arguments : Arguments}
    (fails : builtin.Fails arguments (.typeMismatch operation expected got)) : expected ≠ got := by
  rcases fails with ⟨⟨operands⟩⟩
  exact operands.differ

theorem Call.FailsItself.differ {context : Context} {call : Call} {state : RunState}
    (failed : call.FailsItself context state (.typeMismatch operation expected got) stopped) :
    expected ≠ got := by
  cases failed with
  | function _ _ failed => exact (Builtin.apply_stopsWith _ _ _ _ _ _ _ _ failed).differ

theorem RunError.OfExpression.differ {context : Context} {calls : List Call}
    (expression : OfExpression context calls stopped (.typeMismatch operation expected got)) :
    expected ≠ got := by
  cases expression with
  | operands operands => exact operands.differ
  | call _ failed => exact failed.differ

end Differ

theorem Value.number_ne_type {value : Value} (notNumber : value.numeric? = none) :
    ValueType.number ≠ value.type := by
  cases value with
  | number => cases notNumber
  | boolean | string | color => exact nofun

/-- What is held and what is assigned have one type only if a number is assigned where `na` is
held. -/
theorem Value.isNa_of_type_eq {current value : Value}
    (held : current.numeric? ≠ none → current.isNa = true) (number : value.numeric? ≠ none)
    (same : current.type = value.type) : value.type = .number ∧ current.isNa = true := by
  cases value with
  | number => cases current with
    | number => exact ⟨rfl, held nofun⟩
    | boolean | string | color => cases same
  | boolean => cases current with
    | boolean => exact absurd (held nofun) nofun
    | number | string | color => cases same
  | string | color => exact absurd rfl number

namespace Program

/-- Where a run fails on a type, the expected type is another than the one that was met, or a
number was assigned to a variable that is left with `na` in a slot that holds no numbers. -/
theorem types_differ_or_na {program : Program} {script : Script}
    (prepared : program.prepare = .ok script) {window : List Candle}
    {overrides : Table String Float} {operation : String} {expected got : ValueType}
    (failed : script.run window overrides = .error (.typeMismatch operation expected got)) :
    expected ≠ got ∨ expected = .number ∧ got = .number ∧ ∃ name ∈ program.assignedNames,
      operation = Memory.assignment name ∧ ∃ stopped held,
        Eval.outcome (script.runWindow overrides window.reverse) script.initial =
          (.error (.typeMismatch operation expected got), stopped) ∧
        stopped.memory.slots.get? name = some (.scalar held) ∧ held.isNa = true := by
  obtain rfl := eq_of_prepare prepared
  obtain ⟨stopped, ran, has, stops⟩ := Script.stops_of_run _ overrides failed
  cases stops with
  | expression expression => exact .inl expression.differ
  | @store name value _ target failed =>
    by_cases same : expected = got
    case neg => exact .inl same
    obtain readOnly | ⟨notField, _, mismatch, holds⟩ := Memory.of_store_error failed
    · cases readOnly
    · cases mismatch
      obtain ⟨rfl, notNumber⟩ | ⟨current, found, rfl, number⟩ := holds
      · exact .inl (Value.number_ne_type notNumber)
      · obtain ⟨slot, last, known, follows⟩ := has name target notField
        rw [found] at known
        cases known
        cases follows with
        | scalar _ held =>
          obtain ⟨isNumber, isNa⟩ := Value.isNa_of_type_eq held number same
          exact .inr ⟨same.trans isNumber, isNumber, name, target, rfl, stopped, current, ran,
            found, isNa⟩

/-- A variable is given a string, then `na`, and then a number. -/
def renumberedSource : String :=
  "x = \"a\"\nx = na\nx = 1"

theorem run_renumbered :
    ∃ program script, parse renumberedSource = .ok program ∧ program.prepare = .ok script ∧
      program.assignedNames = ["x"] ∧ script.run Script.fallingCandles [] =
        .error (.typeMismatch (Memory.assignment "x") .number .number) := by
  have fails : (parse renumberedSource).toOption.any fun program =>
      program.prepare.toOption.any fun script => decide (program.assignedNames = ["x"]) &&
        errorOf? (script.run Script.fallingCandles []) =
          some (.typeMismatch (Memory.assignment "x") .number .number) := by decide +kernel
  obtain ⟨program, parsed, fails⟩ := of_toOption_any fails
  obtain ⟨script, prepared, fails⟩ := of_toOption_any fails
  rw [Bool.and_eq_true] at fails
  exact ⟨program, script, parsed, prepared, of_decide_eq_true fails.1,
    of_errorOf? (of_decide_eq_true fails.2)⟩

theorem types_differ_or_na_renumbered :
    ∃ program script stopped held, parse renumberedSource = .ok program ∧
      program.prepare = .ok script ∧
      script.run Script.fallingCandles [] =
        .error (.typeMismatch (Memory.assignment "x") .number .number) ∧
      Eval.outcome (script.runWindow [] Script.fallingCandles.reverse) script.initial =
        (.error (.typeMismatch (Memory.assignment "x") .number .number), stopped) ∧
      stopped.memory.slots.get? "x" = some (.scalar held) ∧ held.isNa = true := by
  obtain ⟨program, script, parsed, prepared, names, failed⟩ := run_renumbered
  obtain differ | ⟨_, _, name, assigned, _, stopped, held, ran, found, isNa⟩ :=
    types_differ_or_na prepared failed
  · exact absurd rfl differ
  · rw [names, List.mem_singleton] at assigned
    subst assigned
    exact ⟨program, script, stopped, held, parsed, prepared, failed, ran, found, isNa⟩

theorem not_types_differ :
    ¬∀ source program script, parse source = .ok program → program.prepare = .ok script →
      ∀ window overrides operation expected got,
        script.run window overrides = .error (.typeMismatch operation expected got) →
          expected ≠ got := by
  intro differ
  obtain ⟨program, script, parsed, prepared, _, failed⟩ := run_renumbered
  exact differ _ program script parsed prepared _ _ _ _ _ failed rfl

end Program

end ChartScript
