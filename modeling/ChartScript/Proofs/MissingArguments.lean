import ChartScript.Proofs.Resolution

/-!
# Missing arguments

A run that fails on a missing argument stops at a call that fails itself, and the call passes no
argument of that name. The id of an entry is the exception: it counts as not passed where its value
is `na`. Series are taken out of the positional arguments, so the `source` of a function that reads
series is left out here.
-/

set_option autoImplicit false

namespace ChartScript

theorem NamedArgument.evaluateAll_names {context : Context} {arguments : List NamedArgument}
    {state after : RunState} {values : List (String × Value)}
    (evaluated : Eval.outcome (NamedArgument.evaluateAll context arguments) state =
      (.ok values, after)) : values.map (·.1) = arguments.map (·.name) := by
  induction arguments generalizing state values with
  | nil =>
    cases evaluated
    rfl
  | cons argument rest ih =>
    obtain ⟨name, value, span⟩ := argument
    obtain ⟨first, _, _, evaluated⟩ := Eval.of_outcome_bind_ok evaluated
    obtain ⟨others, _, behind, evaluated⟩ := Eval.of_outcome_bind_ok evaluated
    cases evaluated
    rw [List.map_cons, List.map_cons, ih behind]
    rfl

section Passed

variable {context : Context} {call : Call} {builtin : Builtin} {state after : RunState}
  {sources : List (Series Float)} {passed : Arguments}

theorem Call.evaluatePassed_names
    (evaluated : Eval.outcome (call.evaluatePassed context builtin) state =
      (.ok (sources, passed), after)) :
    passed.function = call.function ∧
      passed.named.map (·.1) = call.named.map (·.name) := by
  obtain ⟨_, _, _, evaluated⟩ := Eval.of_outcome_bind_ok evaluated
  obtain ⟨_, _, _, evaluated⟩ := Eval.of_outcome_bind_ok evaluated
  obtain ⟨named, _, evaluatedNamed, evaluated⟩ := Eval.of_outcome_bind_ok evaluated
  cases evaluated
  exact ⟨rfl, NamedArgument.evaluateAll_names evaluatedNamed⟩

end Passed

namespace Arguments

variable {arguments : Arguments} {position : Nat} {name : String}

theorem named?_of_get? (absent : arguments.get? position name = none) :
    arguments.named? name = none := by
  unfold get? at absent
  split at absent
  case h_1 => cases absent
  case h_2 => exact absent

theorem notMem_of_get? (absent : arguments.get? position name = none) :
    name ∉ arguments.named.map (·.1) := by
  have notFound := List.find?_eq_none.mp (Option.map_eq_none_iff.mp (named?_of_get? absent))
  intro member
  obtain ⟨argument, passed, rfl⟩ := List.mem_map.mp member
  exact notFound argument passed (decide_eq_true rfl)

/-- A text is not read where nothing is passed or `na` is. -/
theorem of_string?_eq_none (unread : arguments.string? position name = .ok none) :
    arguments.get? position name = none ∨
      ∃ value, arguments.get? position name = some value ∧ value.isNa = true := by
  unfold string? at unread
  cases found : arguments.get? position name with
  | none => exact .inl rfl
  | some value =>
    rw [found] at unread
    unfold readString at unread
    split at unread
    case h_1 missing => cases missing
    case h_2 => cases unread
    case h_3 same =>
      cases same
      split at unread
      case isTrue isNa => exact .inr ⟨_, rfl, isNa⟩
      case isFalse => cases unread

end Arguments

theorem Builtin.name_of_strategyEntry {name : String}
    (found : Builtin.ofName? name = some .strategyEntry) : name = "strategy.entry" := by
  unfold Builtin.ofName? at found
  split at found <;> cases found
  rfl

theorem Builtin.isSeries_of_lt_operands {builtin : Builtin} {count : Nat}
    (fewer : count < builtin.operands.length) : builtin.isSeries = true := by
  rw [Builtin.operands, List.length_take] at fewer
  exact decide_eq_true (by omega)

/-! ## Calls -/

namespace Call

/-- The call is of an entry, and the id that it passes, by its position or its name, is `na`. -/
def EntersUnnamed (context : Context) (call : Call) (state : RunState) : Prop :=
  Builtin.ofName? call.function = some .strategyEntry ∧ ∃ sources passed after id,
    Eval.outcome (call.evaluatePassed context .strategyEntry) state =
      (.ok (sources, passed), after) ∧ passed.get? 0 "id" = some id ∧ id.isNa = true

variable {context : Context} {call : Call} {state stopped : RunState}
  {function parameter : String}

theorem FailsItself.not_named
    (failed : call.FailsItself context state (.missingArgument function parameter) stopped)
    (notSource : ∀ builtin, Builtin.ofName? call.function = some builtin →
      builtin.isSeries = true → parameter ≠ "source") :
    function = call.function ∧ ((∀ argument ∈ call.named, argument.name ≠ parameter) ∨
      parameter = "id" ∧ call.EntersUnnamed context state) := by
  cases failed with
  | missingSeries found fewer =>
    exact absurd rfl (notSource _ found (Builtin.isSeries_of_lt_operands fewer))
  | @function builtin sources passed _ after _ found evaluated failed =>
    obtain ⟨sameFunction, names⟩ := evaluatePassed_names evaluated
    have notNamed {position : Nat} {name : String} (absent : passed.get? position name = none) :
        ∀ argument ∈ call.named, argument.name ≠ name := by
      rintro argument member rfl
      refine Arguments.notMem_of_get? absent ?_
      rw [names]
      exact List.mem_map_of_mem member
    cases builtin.apply_stopsWith context call.site sources passed after _ stopped failed with
    | arguments fails =>
      cases fails with
      | operands operands => cases operands
      | absent position absent => exact ⟨sameFunction, .inl (notNamed absent)⟩
    | id unread =>
      refine ⟨(Builtin.name_of_strategyEntry found).symm, ?_⟩
      obtain absent | ⟨id, taken, isNa⟩ := Arguments.of_string?_eq_none unread
      · exact .inl (notNamed absent)
      · exact .inr ⟨rfl, found, sources, passed, after, id, evaluated, taken, isNa⟩

end Call

/-! ## Runs -/

namespace Program

theorem Stops.failsItself {program : Program} {stopped : RunState} {function parameter : String}
    (stops : program.Stops stopped (.missingArgument function parameter)) :
    ∃ call ∈ program.calls, ∃ context state,
      call.FailsItself context state (.missingArgument function parameter) stopped := by
  cases stops with
  | expression expression =>
    cases expression with
    | operands operands => cases operands
    | call member failed => exact ⟨_, member, _, _, failed⟩
  | store _ failed =>
    obtain readOnly | ⟨_, _, mismatch, _⟩ := Memory.of_store_error failed
    · cases readOnly
    · cases mismatch

/-- A call of a prepared program that itself ends in a missing argument passes no argument of that
name, or it is of an entry with the id `na`. That is for all parameters but the series of functions
that read series. Where a run ends in a missing argument, some call does so itself. -/
theorem missing_not_named {program : Program} {script : Script}
    (prepared : program.prepare = .ok script) :
    (∀ call ∈ program.calls, ∀ context state function parameter stopped,
      call.FailsItself context state (.missingArgument function parameter) stopped →
        Eval.outcome (call.evaluate context) state =
          (.error (.missingArgument function parameter), stopped) ∧
        ((∀ builtin, Builtin.ofName? call.function = some builtin → builtin.isSeries = true →
            parameter ≠ "source") →
          function = call.function ∧ ((∀ argument ∈ call.named, argument.name ≠ parameter) ∨
            parameter = "id" ∧ call.EntersUnnamed context state))) ∧
    ∀ window overrides function parameter,
      script.run window overrides = .error (.missingArgument function parameter) →
        ∃ call ∈ program.calls, ∃ context state stopped,
          call.FailsItself context state (.missingArgument function parameter) stopped ∧
          Eval.outcome (script.runWindow overrides window.reverse) script.initial =
            (.error (.missingArgument function parameter), stopped) := by
  obtain rfl := eq_of_prepare prepared
  refine ⟨fun call _ context state function parameter stopped failed => ?_, ?_⟩
  · exact ⟨failed.outcome, fun notSource => failed.not_named notSource⟩
  · intro window overrides function parameter failed
    obtain ⟨stopped, ran, _, stops⟩ := Script.stops_of_run _ overrides failed
    obtain ⟨call, member, context, state, failed⟩ := stops.failsItself
    exact ⟨call, member, context, state, stopped, failed, ran⟩

/-- The length of an average is passed under a name that is none of its parameters. -/
def periodSource : String :=
  "plot(sma(close, period = 3))"

theorem missing_not_named_period :
    ∃ program script, parse periodSource = .ok program ∧ program.prepare = .ok script ∧
      script.run Script.risingCandles [] = .error (.missingArgument "sma" "length") ∧
      ∃ call ∈ program.calls, call.function = "sma" ∧
        ∀ argument ∈ call.named, argument.name ≠ "length" := by
  have fails : (parse periodSource).toOption.any fun program =>
      program.prepare.toOption.any fun script =>
        errorOf? (script.run Script.risingCandles []) = some (.missingArgument "sma" "length") := by
    decide +kernel
  obtain ⟨program, parsed, fails⟩ := of_toOption_any fails
  obtain ⟨script, prepared, fails⟩ := of_toOption_any fails
  have failed := of_errorOf? (of_decide_eq_true fails)
  obtain ⟨notNamed, fails⟩ := missing_not_named prepared
  obtain ⟨call, member, context, state, stopped, itself, _⟩ := fails _ _ _ _ failed
  obtain ⟨_, known⟩ := notNamed call member _ _ _ _ _ itself
  obtain ⟨sameFunction, absent | ⟨isId, _⟩⟩ := known fun _ _ _ => by decide
  · exact ⟨program, script, parsed, prepared, failed, call, member, sameFunction.symm, absent⟩
  · exact absurd isId (by decide)

def unnamedEntrySource : String :=
  "strategy.entry(id = na, direction = strategy.long)"

theorem not_missing_not_named :
    ¬∀ source program script, parse source = .ok program → program.prepare = .ok script →
      ∀ call ∈ program.calls, ∀ context state function parameter stopped,
        call.FailsItself context state (.missingArgument function parameter) stopped →
          ∀ argument ∈ call.named, argument.name ≠ parameter := by
  have fails : (parse unnamedEntrySource).toOption.any fun program =>
      program.prepare.toOption.any fun script =>
        (program.calls.all fun call => call.named.any (·.name = "id")) &&
          errorOf? (script.run Script.risingCandles []) =
            some (.missingArgument "strategy.entry" "id") := by decide +kernel
  obtain ⟨program, parsed, fails⟩ := of_toOption_any fails
  obtain ⟨script, prepared, fails⟩ := of_toOption_any fails
  rw [Bool.and_eq_true] at fails
  have failed := of_errorOf? (of_decide_eq_true fails.2)
  intro notNamed
  have eqScript := eq_of_prepare prepared
  subst eqScript
  obtain ⟨stopped, _, _, stops⟩ := Script.stops_of_run _ [] failed
  obtain ⟨call, member, context, state, itself⟩ := stops.failsItself
  obtain ⟨argument, passed, isId⟩ := List.any_eq_true.mp (List.all_eq_true.mp fails.1 call member)
  exact notNamed _ program _ parsed prepared call member context state _ _ stopped itself argument
    passed (of_decide_eq_true isId)

end Program

end ChartScript
