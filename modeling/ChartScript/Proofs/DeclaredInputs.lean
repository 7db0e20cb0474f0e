import ChartScript.Proofs.InputOffers
import ChartScript.Proofs.NoLookAhead

/-!
# Declared inputs

Every name that an input call offers is listed in the chart of a run that succeeds: nothing is
taken off the list, and an offer is listed before its answer is used. So values that are set for
other names change nothing. The list has each name once, with the answer that was given for it.
-/

set_option autoImplicit false

namespace ChartScript

namespace Table

variable {κ ν : Type} [DecidableEq κ]

theorem nodup_setNew {table : Table κ ν} (key : κ) (value : ν)
    (nodup : (table.map Prod.fst).Nodup) : ((table.setNew key value).map Prod.fst).Nodup := by
  unfold setNew
  cases found : table.get? key with
  | some _ => exact nodup
  | none =>
    simp only [List.map_append, List.map_cons, List.map_nil]
    refine List.nodup_append.mpr ⟨nodup, List.pairwise_singleton _ _, ?_⟩
    rintro first member second single rfl
    exact get?_eq_none_iff.mp found (List.mem_singleton.mp single ▸ member)

theorem mem_setNew {table : Table κ ν} {key : κ} {value : ν} {entry : κ × ν}
    (member : entry ∈ table.setNew key value) : entry ∈ table ∨ entry = (key, value) := by
  unfold setNew at member
  split at member
  · exact .inl member
  · exact (List.mem_append.mp member).imp_right List.mem_singleton.mp

end Table

def Recorder.Lists (recorder : Recorder) (name : String) : Prop :=
  name ∈ recorder.inputs.map Prod.fst

theorem Recorder.Lists.mono {earlier later : Recorder} {name : String}
    (listed : earlier.Lists name) (grown : earlier.inputs <+: later.inputs) : later.Lists name :=
  (grown.map Prod.fst).subset listed

theorem Recorder.lists_input (recorder : Recorder) (overrides : Table String Float)
    (name : String) (default : Float) : (recorder.input overrides name default).2.Lists name := by
  have found : Table.get? (recorder.input overrides name default).2.inputs name ≠ none := by
    rw [Recorder.input, Table.get?_setNew, if_pos rfl]
    intro missing
    cases (Option.or_eq_none_iff.mp missing).2
  exact Classical.not_not.mp (mt Table.get?_eq_none_iff.mpr found)

theorem RunState.Step.inputs {overrides : Table String Float} {before after : RunState}
    (step : RunState.Step overrides before after) :
    before.recorder.inputs <+: after.recorder.inputs := by
  cases step with
  | operand | result => exact List.prefix_rfl
  | draw recorder drawn =>
    cases drawn with
    | input name default => exact Table.prefix_setNew _ _ _
    | _ => exact List.prefix_rfl

theorem RunState.StatementStep.inputs {overrides : Table String Float} {before after : RunState}
    (step : RunState.StatementStep overrides before after) :
    before.recorder.inputs <+: after.recorder.inputs := by
  cases step with
  | expression _ step => exact step.inputs
  | store => exact List.prefix_rfl

namespace Eval

variable {α β : Type}

/-- An evaluation keeps the list of inputs and adds to it; where it succeeds, all names that it
offered are listed. -/
def Declares (offering : Offering) (evaluation : Eval α) : Prop :=
  ∀ state, state.recorder.inputs <+: (outcome evaluation state).2.recorder.inputs ∧
    ∀ value after, outcome evaluation state = (.ok value, after) →
      ∀ offer ∈ offering state, after.recorder.Lists offer.1

theorem declares_of_grows {evaluation : Eval α}
    (grows : ∀ state, state.recorder.inputs <+: (outcome evaluation state).2.recorder.inputs) :
    Declares .nothing evaluation :=
  fun state => ⟨grows state, fun _ _ _ _ member => nomatch member⟩

theorem declares_of_moves {overrides : Table String Float} {evaluation : Eval α}
    (moves : Moves (RunState.StatementStep overrides) evaluation) :
    Declares .nothing evaluation :=
  declares_of_grows fun state =>
    moves.keeps (state.recorder.inputs <+: ·.recorder.inputs)
      (fun _ _ step grown => grown.trans step.inputs) rfl List.prefix_rfl

theorem declares_of_expressionMoves {overrides : Table String Float} {evaluation : Eval α}
    (moves : Moves (RunState.Step overrides) evaluation) : Declares .nothing evaluation :=
  declares_of_grows fun state =>
    moves.keeps (state.recorder.inputs <+: ·.recorder.inputs)
      (fun _ _ step grown => grown.trans step.inputs) rfl List.prefix_rfl

theorem declares_pure (value : α) : Declares .nothing (pure value : Eval α) :=
  declares_of_grows fun _ => List.prefix_rfl

theorem declares_lift (result : Except RunError α) : Declares .nothing (liftM result : Eval α) :=
  declares_of_grows fun _ => List.prefix_rfl

theorem declares_bind {offering : Offering} {nextOffering : α → Offering} {first : Eval α}
    {next : α → Eval β} (declares : Declares offering first)
    (nextDeclares : ∀ value, Declares (nextOffering value) (next value)) :
    Declares (offering.andThen first nextOffering) (first >>= next) := by
  intro state
  obtain ⟨grown, listed⟩ := declares state
  unfold Offering.andThen
  rw [outcome_bind]
  rcases ran : outcome first state with ⟨failure | value, after⟩
  · rw [ran] at grown
    exact ⟨grown, fun _ _ failed => nomatch failed⟩
  · rw [ran] at grown
    obtain ⟨grownOn, listedOn⟩ := nextDeclares value after
    refine ⟨grown.trans grownOn, fun result final finished offer member => ?_⟩
    simp only at finished grownOn
    rcases List.mem_append.mp member with early | late
    · rw [finished] at grownOn
      exact (listed value after ran offer early).mono grownOn
    · exact listedOn result final finished offer late

/-- What follows offers nothing. -/
theorem declares_bind_quiet {offering : Offering} {first : Eval α} {next : α → Eval β}
    (declares : Declares offering first) (quiet : ∀ value, Declares .nothing (next value)) :
    Declares offering (first >>= next) := by
  intro state
  obtain ⟨grown, listed⟩ := declares_bind declares quiet state
  refine ⟨grown, fun value after ran offer member => listed value after ran offer ?_⟩
  exact List.mem_append_left _ member

theorem operand_declares (site : Nat) (operand : Operand) (expr : Expr) {offering : Offering}
    {evaluated : Eval Value} (declares : Declares offering evaluated) :
    Declares (.ofOperand expr offering) (Eval.operand site operand expr evaluated) := by
  intro state
  unfold Offering.ofOperand Eval.operand
  rw [outcome_bind, outcome_memory]
  cases named : state.memory.namedSeries? expr with
  | some series =>
    simp only [named]
    exact declares_pure series state
  | none =>
    simp only [named]
    refine declares_bind_quiet declares (fun value => ?_) state
    refine declares_bind_quiet (declares_lift _) fun number => ?_
    exact declares_bind_quiet (declares_of_grows fun _ => List.prefix_rfl)
      fun _ => declares_of_grows fun _ => List.prefix_rfl

/-- Where the left operand decides, the right one is not evaluated and offers nothing. -/
theorem binary_declares (op : BinaryOp) (left : Value) {offering : Offering}
    {right : Eval Value} (declares : Declares offering right) :
    Declares (Offering.nothing.andThen (op.settledBy left)
      fun settled => if settled then .nothing else offering) (Eval.binary op left right) := by
  unfold Eval.binary BinaryOp.settledBy
  cases op.deciding? with
  | none =>
    have quiet := declares_bind_quiet declares fun rightValue =>
      declares_lift (op.apply left rightValue)
    exact quiet
  | some deciding =>
    cases left.truthy op.symbol with
    | error failure => exact declares_lift (.error failure)
    | ok truth =>
      have quiet := declares_bind_quiet declares fun rightValue =>
        declares_bind_quiet (declares_lift (rightValue.truthy op.symbol)) fun truth =>
          declares_pure (Value.boolean truth)
      cases truth <;> cases deciding
      case false.false | true.true => exact declares_pure _
      case false.true | true.false => exact quiet

theorem input_declares (context : Context) (site : Nat) (arguments : Arguments) :
    Declares (Builtin.offers .input context.target site arguments)
      (Eval.input context site arguments) := by
  intro state
  unfold Builtin.offers
  rw [outcome_input]
  rcases arguments.input context.target site with failure | ⟨name, default⟩
  · exact declares_lift (Except.error failure : Except RunError Value) state
  · refine ⟨Table.prefix_setNew _ _ _, fun value after ran offer member => ?_⟩
    obtain ⟨_, rfl⟩ := Prod.mk.inj ran
    cases List.mem_singleton.mp member
    exact state.recorder.lists_input context.overrides name default

end Eval

theorem Builtin.apply_declares (builtin : Builtin) (context : Context) (site : Nat)
    (sources : List (Series Float)) (arguments : Arguments) :
    Eval.Declares (builtin.offers context.target site arguments)
      (builtin.apply context site sources arguments) := by
  have quiet := Eval.declares_of_expressionMoves
    (builtin.apply_moves context site sources arguments)
  cases builtin
  case input => exact Eval.input_declares context site arguments
  all_goals exact quiet

mutual

theorem Expr.evaluate_declares (context : Context) :
    (expr : Expr) → Eval.Declares (expr.offers context) (expr.evaluate context)
  | .number _ _ | .string _ _ | .boolean _ _ | .color _ _ => Eval.declares_pure _
  | .name path _ => Eval.declares_of_expressionMoves (@Eval.load_moves (RunState.Step []) path)
  | .member _ name _ => Eval.declares_lift (.error (.unsupportedMember name))
  | .history series offset site _ => by
    have seriesDeclares := series.evaluate_declares context
    unfold Expr.evaluate Expr.offers
    rw [Offering.andThen_bind]
    refine Eval.declares_bind (offset.evaluate_declares context) fun offsetValue => ?_
    refine Eval.declares_bind ?_ fun bars => ?_
    · exact Eval.declares_of_expressionMoves (@Eval.historyBars_moves (RunState.Step []) _ _)
    · exact Eval.declares_bind_quiet (Eval.operand_declares site .first series seriesDeclares)
        fun _ => Eval.declares_pure _
  | .unary _ operand _ =>
    Eval.declares_bind_quiet (operand.evaluate_declares context) fun _ => Eval.declares_lift _
  | .binary left op right _ => by
    unfold Expr.evaluate Expr.offers
    rw [Offering.andThen_bind]
    refine Eval.declares_bind (left.evaluate_declares context) fun value => ?_
    exact Eval.binary_declares op value (right.evaluate_declares context)
  | .ternary condition whenTrue whenFalse _ => by
    have trueDeclares := whenTrue.evaluate_declares context
    have falseDeclares := whenFalse.evaluate_declares context
    unfold Expr.evaluate Expr.offers
    rw [Offering.andThen_bind]
    refine Eval.declares_bind (condition.evaluate_declares context) fun value => ?_
    refine Eval.declares_bind (Eval.declares_lift _) fun truth => ?_
    cases truth with
    | false => exact falseDeclares
    | true => exact trueDeclares
  | .call call _ => call.evaluate_declares context

theorem Call.evaluate_declares (context : Context) :
    (call : Call) → Eval.Declares (call.offers context) (call.evaluate context)
  | .mk function site arguments named => by
    have namedDeclares := NamedArgument.evaluateAll_declares context named
    unfold Call.evaluate Call.offers
    cases Builtin.ofName? function with
    | none => exact Eval.declares_lift (.error (.undefinedFunction function))
    | some builtin =>
      refine Eval.declares_bind ?_ fun sources => Eval.declares_bind ?_ fun positional =>
        Eval.declares_bind namedDeclares fun named => ?_
      · exact Expr.evaluateSources_declares context function site _ arguments
      · exact Expr.evaluatePositional_declares context _ arguments
      · exact builtin.apply_declares context site sources _

theorem Expr.evaluateSources_declares (context : Context) (function : String) (site : Nat) :
    (operands : List Operand) → (arguments : List Expr) →
      Eval.Declares (Expr.sourceOffers context function site operands arguments)
        (Expr.evaluateSources context function site operands arguments)
  | [], [] | [], _ :: _ => Eval.declares_pure _
  | _ :: _, [] => Eval.declares_lift (.error (.missingArgument function "source"))
  | operand :: operands, argument :: arguments => by
    have argumentDeclares := argument.evaluate_declares context
    have others := Expr.evaluateSources_declares context function site operands arguments
    exact Eval.declares_bind (Eval.operand_declares site operand argument argumentDeclares)
      fun _ => Eval.declares_bind_quiet others fun _ => Eval.declares_pure _

theorem Expr.evaluatePositional_declares (context : Context) :
    (skipped : Nat) → (arguments : List Expr) →
      Eval.Declares (Expr.positionalOffers context skipped arguments)
        (Expr.evaluatePositional context skipped arguments)
  | 0, [] | _ + 1, [] => Eval.declares_pure _
  | skipped + 1, _ :: arguments =>
    Eval.declares_bind_quiet (Expr.evaluatePositional_declares context skipped arguments)
      fun _ => Eval.declares_pure _
  | 0, argument :: arguments => by
    have others := Expr.evaluatePositional_declares context 0 arguments
    exact Eval.declares_bind (argument.evaluate_declares context)
      fun _ => Eval.declares_bind_quiet others fun _ => Eval.declares_pure _

theorem NamedArgument.evaluateAll_declares (context : Context) :
    (arguments : List NamedArgument) →
      Eval.Declares (NamedArgument.offersOfAll context arguments)
        (NamedArgument.evaluateAll context arguments)
  | [] => Eval.declares_pure _
  | .mk _ argument _ :: arguments => by
    have others := NamedArgument.evaluateAll_declares context arguments
    exact Eval.declares_bind (argument.evaluate_declares context)
      fun _ => Eval.declares_bind_quiet others fun _ => Eval.declares_pure _

end

/-! ## Statements and runs -/

theorem Declaration.evaluate_declares (declaration : Declaration)
    (overrides : Table String Float) :
    Eval.Declares (declaration.offers overrides) (declaration.evaluate overrides) := by
  refine Eval.declares_bind ?_ fun positional => Eval.declares_bind_quiet ?_ fun named => ?_
  · exact Expr.evaluatePositional_declares ⟨overrides, none⟩ 0 _
  · exact NamedArgument.evaluateAll_declares ⟨overrides, none⟩ _
  · exact Eval.declares_bind_quiet (Eval.declares_lift _) fun _ =>
      Eval.declares_bind_quiet (Eval.declares_lift _) fun _ => Eval.declares_pure _

theorem Statement.execute_declares (overrides : Table String Float) (statement : Statement) :
    Eval.Declares (statement.offers overrides) (statement.execute overrides) := by
  induction statement with
  | assign name value _ =>
    exact Eval.declares_bind_quiet (value.evaluate_declares ⟨overrides, some name⟩)
      fun assigned => Eval.declares_of_moves (Eval.store_moves overrides name assigned)
  | expression value _ =>
    exact Eval.declares_bind_quiet (value.evaluate_declares ⟨overrides, none⟩)
      fun _ => Eval.declares_pure _
  | ifThen condition _ _ thenDeclares =>
    unfold Statement.execute Statement.offers
    rw [Offering.andThen_bind]
    refine Eval.declares_bind (condition.evaluate_declares ⟨overrides, none⟩) fun value => ?_
    refine Eval.declares_bind (Eval.declares_lift _) fun truth => ?_
    cases truth with
    | false => exact Eval.declares_pure _
    | true => exact thenDeclares
  | ifThenElse condition _ _ _ thenDeclares elseDeclares =>
    unfold Statement.execute Statement.offers
    rw [Offering.andThen_bind]
    refine Eval.declares_bind (condition.evaluate_declares ⟨overrides, none⟩) fun value => ?_
    refine Eval.declares_bind (Eval.declares_lift _) fun truth => ?_
    cases truth with
    | false => exact elseDeclares
    | true => exact thenDeclares

theorem executeAll_declares (overrides : Table String Float) (statements : List Statement) :
    Eval.Declares (offersOfAll overrides statements) (executeAll overrides statements) := by
  induction statements with
  | nil => exact Eval.declares_pure _
  | cons statement rest ih =>
    exact Eval.declares_bind (statement.execute_declares overrides) fun _ => ih

namespace Script

variable (script : Script) (overrides : Table String Float)

theorem openBar_declares (candle : Candle) : Eval.Declares .nothing (openBar candle) :=
  Eval.declares_of_grows fun _ => List.prefix_rfl

theorem heading_declares :
    Eval.Declares (script.headingOffers overrides) (script.heading overrides) := by
  unfold headingOffers heading
  cases script.program.declaration with
  | none => exact Eval.declares_pure _
  | some declaration => exact declaration.evaluate_declares overrides

theorem runBars_declares (candles : List Candle) :
    Eval.Declares (script.barOffers overrides candles) (script.runBars overrides candles) := by
  induction candles with
  | nil => exact Eval.declares_pure _
  | cons candle newer ih =>
    exact Eval.declares_bind (openBar_declares candle) fun _ =>
      Eval.declares_bind (executeAll_declares overrides _) fun _ => ih

theorem runWindow_declares (candles : List Candle) :
    Eval.Declares (script.windowOffers overrides candles) (script.runWindow overrides candles) := by
  cases candles with
  | nil => exact script.heading_declares overrides
  | cons oldest newer =>
    unfold windowOffers runWindow
    exact Eval.declares_bind (openBar_declares oldest) fun _ =>
      Eval.declares_bind (script.heading_declares overrides) fun _ =>
      Eval.declares_bind (executeAll_declares overrides _) fun _ =>
      Eval.declares_bind_quiet (script.runBars_declares overrides newer) fun _ =>
        Eval.declares_pure _

end Script

/-! ## The list at the end of a run -/

/-- Each name is listed once, with the value that is set for it or else its default. -/
structure Recorder.ListsAnswers (overrides : Table String Float) (recorder : Recorder) : Prop where
  names : ∀ entry ∈ recorder.inputs, entry.2.name = entry.1
  nodup : (recorder.inputs.map Prod.fst).Nodup
  values : ∀ entry ∈ recorder.inputs,
    entry.2.value = answer overrides (entry.2.name, entry.2.default)

namespace Recorder.ListsAnswers

variable {overrides : Table String Float} {recorder : Recorder}

theorem input (lists : recorder.ListsAnswers overrides) (name : String) (default : Float) :
    (recorder.input overrides name default).2.ListsAnswers overrides where
  names entry member := by
    rcases Table.mem_setNew member with known | rfl
    · exact lists.names entry known
    · rfl
  nodup := Table.nodup_setNew _ _ lists.nodup
  values entry member := by
    rcases Table.mem_setNew member with known | rfl
    · exact lists.values entry known
    · rfl

theorem step (lists : recorder.ListsAnswers overrides) {bar bars : Nat} {next : Recorder}
    (step : Step overrides bar bars recorder next) : next.ListsAnswers overrides := by
  cases step with
  | input name default => exact lists.input name default
  | _ => exact ⟨lists.names, lists.nodup, lists.values⟩

end Recorder.ListsAnswers

theorem RunState.StatementStep.listsAnswers {overrides : Table String Float}
    {before after : RunState} (step : RunState.StatementStep overrides before after)
    (lists : before.recorder.ListsAnswers overrides) : after.recorder.ListsAnswers overrides := by
  cases step with
  | store => exact lists
  | expression _ step =>
    cases step with
    | operand | result => exact lists
    | draw recorder drawn => exact lists.step drawn

namespace Script

variable (script : Script) (overrides : Table String Float)

theorem initial_inputs : script.initial.recorder.inputs = [] := by
  refine List.foldlRecOn (motive := fun recorder : Recorder => recorder.inputs = []) script.plots
    _ rfl ?_
  exact fun _ empty _ _ => empty

theorem runWindow_listsAnswers (candles : List Candle) (heading : String × Bool)
    (final : RunState)
    (ran : Eval.outcome (script.runWindow overrides candles) script.initial =
      (.ok heading, final)) : final.recorder.ListsAnswers overrides := by
  have start : script.initial.recorder.ListsAnswers overrides := by
    constructor <;> rw [initial_inputs]
    · exact nofun
    · exact .nil
    · exact nofun
  have steps := fun before after => @RunState.StatementStep.listsAnswers overrides before after
  cases candles with
  | nil =>
    exact (script.heading_moves overrides).keeps (·.recorder.ListsAnswers overrides) steps ran
      start
  | cons oldest newer =>
    exact script.runWindow_keeps overrides (·.recorder.ListsAnswers overrides)
      (·.recorder.ListsAnswers overrides)
      (fun _ _ lists => ⟨lists.names, lists.nodup, lists.values⟩) steps (fun _ lists => lists)
      oldest newer heading final start ran

variable {script overrides}

/-- A chart lists everything that the input calls of its run offered. -/
theorem listed_of_run {window : List Candle} {chart : Chart}
    (ran : script.run window overrides = .ok chart) :
    ∀ offer ∈ script.offers overrides window, ∃ input ∈ chart.inputs, input.name = offer.1 := by
  intro offer offered
  obtain ⟨heading, final, finished, rfl⟩ := Eval.of_run_ok ran
  have listed := (script.runWindow_declares overrides window.reverse script.initial).2 heading
    final finished offer offered
  obtain ⟨entry, member, named⟩ := List.mem_map.mp listed
  have names := (script.runWindow_listsAnswers overrides _ heading final finished).names
  exact ⟨entry.2, List.mem_map_of_mem member, (names entry member).trans named⟩

theorem sameAnswers_of_listed {window : List Candle} {chart : Chart}
    (ran : script.run window overrides = .ok chart) (others : Table String Float)
    (same : ∀ input ∈ chart.inputs,
      Table.get? others input.name = Table.get? overrides input.name) :
    SameAnswers overrides others (script.offers overrides window) := by
  intro offer offered
  obtain ⟨input, listed, named⟩ := listed_of_run ran offer offered
  rw [answer, answer, ← named, same input listed]

end Script

namespace Program

/-- A run depends on the values that are set for the inputs it lists and on no others. The list
has each name once, with the value that is set for it or else with its default. -/
theorem execute_of_listed_same (program : Program) (window : List Candle)
    (overrides : Table String Float) (chart : Chart)
    (ran : program.execute window overrides = .ok chart) :
    (∀ others, (∀ input ∈ chart.inputs,
        Table.get? others input.name = Table.get? overrides input.name) →
      program.execute window others = .ok chart) ∧
    (chart.inputs.map Input.name).Nodup ∧
    ∀ input ∈ chart.inputs,
      input.value = (Table.get? overrides input.name).getD input.default := by
  obtain ⟨script, prepared, ran⟩ := of_bind_ok ran
  have executes : ∀ others, program.execute window others = script.run window others := by
    intro others
    rw [execute, prepared]
    rfl
  refine ⟨fun others same => ?_, ?_⟩
  · rw [executes, script.run_of_sameAnswers overrides others window
      (Script.sameAnswers_of_listed ran others same), ran]
  obtain ⟨heading, final, finished, rfl⟩ := Eval.of_run_ok ran
  have lists := script.runWindow_listsAnswers overrides _ heading final finished
  constructor
  · have names : (final.recorder.inputs.map Prod.snd).map Input.name =
        final.recorder.inputs.map Prod.fst := by
      rw [List.map_map]
      exact List.map_congr_left lists.names
    exact names ▸ lists.nodup
  · intro input member
    obtain ⟨entry, listed, rfl⟩ := List.mem_map.mp member
    exact lists.values entry listed

/-- Which inputs are asked for depends on an input, and one of them goes by a name that is put
together. -/
def steeredSource : String :=
  "n = input(2, \"Length\")\nif n > 1\n  m = input(3, \"Off\" + \"set\")\n" ++
    "else\n  k = input(4)\nplot(n)"

theorem execute_of_listed_same_steered :
    ∃ program chart, parse steeredSource = .ok program ∧
      program.execute Script.risingCandles [("Length", 5.0)] = .ok chart ∧
      chart.inputs.map Input.name = ["Length", "Offset"] ∧
      program.execute Script.risingCandles [("k", 9.0), ("Length", 5.0)] = .ok chart := by
  have reads : (parse steeredSource).toOption.any fun program =>
      (program.execute Script.risingCandles [("Length", 5.0)]).toOption.any fun chart =>
        decide (chart.inputs.map Input.name = ["Length", "Offset"]) := by decide +kernel
  obtain ⟨program, parsed, runs⟩ := of_toOption_any reads
  obtain ⟨chart, ran, names⟩ := of_toOption_any runs
  have names : chart.inputs.map Input.name = ["Length", "Offset"] := of_decide_eq_true names
  refine ⟨program, chart, parsed, ran, names, ?_⟩
  refine (program.execute_of_listed_same _ _ chart ran).1 _ fun input listed => ?_
  have named : input.name ∈ ["Length", "Offset"] := names ▸ List.mem_map_of_mem listed
  rcases List.mem_cons.mp named with same | rest
  · rw [same]
    rfl
  · rw [List.mem_singleton.mp rest]
    rfl

end Program

end ChartScript
