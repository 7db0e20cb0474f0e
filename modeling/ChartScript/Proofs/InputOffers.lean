import ChartScript.Proofs.Outcome

/-!
# What a run asks its inputs for

An input call offers a name and a default. It is answered with the value that is set for the name,
or else with the default. `Script.offers` lists what the input calls of a run offer, in the order
in which they are evaluated. Nothing else in a run depends on the values that are set, so a run
whose offers get the same answers has the same outcome.
-/

set_option autoImplicit false

namespace ChartScript

/-- The names and defaults that input calls pass when something is evaluated on a state. -/
abbrev Offering := RunState → List (String × Float)

namespace Offering

def nothing : Offering := fun _ => []

/-- What is offered by a part of an evaluation and then behind it, where it does not fail. -/
def andThen {α : Type} (offering : Offering) (first : Eval α) (next : α → Offering) : Offering :=
  fun state =>
    offering state ++ match Eval.outcome first state with
      | (.ok value, after) => next value after
      | (.error _, _) => []

/-- An operand that is the name of a series is not evaluated. -/
def ofOperand (expr : Expr) (evaluated : Offering) : Offering := fun state =>
  match state.memory.namedSeries? expr with
  | some _ => []
  | none => evaluated state

end Offering

/-- Whether a left operand leaves the right one unevaluated. -/
def BinaryOp.settledBy (op : BinaryOp) (left : Value) : Except RunError Bool :=
  match op.deciding? with
  | some deciding => do return (← left.truthy op.symbol) = deciding
  | none => return false

def Builtin.offers (builtin : Builtin) (target : Option String) (site : Nat)
    (arguments : Arguments) : Offering := fun _ =>
  match builtin, arguments.input target site with
  | .input, .ok offer => [offer]
  | _, _ => []

mutual

def Expr.offers (context : Context) : Expr → Offering
  | .number _ _ | .string _ _ | .boolean _ _ | .color _ _ => .nothing
  | .name _ _ | .member _ _ _ => .nothing
  | .history series offset _ _ =>
    (offset.offers context).andThen (do Eval.historyBars series (← offset.evaluate context))
      fun _ => .ofOperand series (series.offers context)
  | .unary _ operand _ => operand.offers context
  | .binary left op right _ =>
    (left.offers context).andThen (do op.settledBy (← left.evaluate context))
      fun settled => if settled then .nothing else right.offers context
  | .ternary condition whenTrue whenFalse _ =>
    (condition.offers context).andThen (do (← condition.evaluate context).truthy "?:")
      fun truth => if truth then whenTrue.offers context else whenFalse.offers context
  | .call call _ => call.offers context

def Call.offers (context : Context) : Call → Offering
  | .mk function site arguments named =>
    match Builtin.ofName? function with
    | none => .nothing
    | some builtin =>
      (Expr.sourceOffers context function site builtin.operands arguments).andThen
        (Expr.evaluateSources context function site builtin.operands arguments) fun _ =>
      (Expr.positionalOffers context builtin.seriesArity arguments).andThen
        (Expr.evaluatePositional context builtin.seriesArity arguments) fun positional =>
      (NamedArgument.offersOfAll context named).andThen
        (NamedArgument.evaluateAll context named) fun namedValues =>
      builtin.offers context.target site ⟨function, positional, namedValues⟩

def Expr.sourceOffers (context : Context) (function : String) (site : Nat) :
    List Operand → List Expr → Offering
  | [], _ => .nothing
  | _ :: _, [] => .nothing
  | operand :: operands, argument :: arguments =>
    (Offering.ofOperand argument (argument.offers context)).andThen
      (Eval.operand site operand argument (argument.evaluate context))
      fun _ => Expr.sourceOffers context function site operands arguments

def Expr.positionalOffers (context : Context) : Nat → List Expr → Offering
  | _, [] => .nothing
  | skipped + 1, _ :: arguments => Expr.positionalOffers context skipped arguments
  | 0, argument :: arguments =>
    (argument.offers context).andThen (argument.evaluate context)
      fun _ => Expr.positionalOffers context 0 arguments

def NamedArgument.offersOfAll (context : Context) : List NamedArgument → Offering
  | [] => .nothing
  | .mk _ argument _ :: arguments =>
    (argument.offers context).andThen (argument.evaluate context)
      fun _ => NamedArgument.offersOfAll context arguments

end

/-! ## Statements and runs -/

def Declaration.offers (declaration : Declaration) (overrides : Table String Float) : Offering :=
  (Expr.positionalOffers ⟨overrides, none⟩ 0 declaration.call.arguments).andThen
    (Expr.evaluatePositional ⟨overrides, none⟩ 0 declaration.call.arguments)
    fun _ => NamedArgument.offersOfAll ⟨overrides, none⟩ declaration.call.named

def Statement.offers (overrides : Table String Float) : Statement → Offering
  | .assign name value _ => value.offers ⟨overrides, some name⟩
  | .expression value _ => value.offers ⟨overrides, none⟩
  | .ifThen condition thenBranch _ =>
    (condition.offers ⟨overrides, none⟩).andThen
      (do (← condition.evaluate ⟨overrides, none⟩).truthy "if")
      fun truth => if truth then thenBranch.offers overrides else .nothing
  | .ifThenElse condition thenBranch elseBranch _ =>
    (condition.offers ⟨overrides, none⟩).andThen
      (do (← condition.evaluate ⟨overrides, none⟩).truthy "if")
      fun truth => if truth then thenBranch.offers overrides else elseBranch.offers overrides

def offersOfAll (overrides : Table String Float) : List Statement → Offering
  | [] => .nothing
  | statement :: rest =>
    (statement.offers overrides).andThen (statement.execute overrides)
      fun _ => offersOfAll overrides rest

namespace Script

variable (script : Script) (overrides : Table String Float)

def headingOffers : Offering :=
  match script.program.declaration with
  | some declaration => declaration.offers overrides
  | none => .nothing

def barOffers : List Candle → Offering
  | [] => .nothing
  | candle :: newer =>
    Offering.nothing.andThen (openBar candle) fun _ =>
    (offersOfAll overrides script.program.statements).andThen
      (executeAll overrides script.program.statements) fun _ =>
    barOffers newer

def windowOffers : List Candle → Offering
  | [] => script.headingOffers overrides
  | oldest :: newer =>
    Offering.nothing.andThen (openBar oldest) fun _ =>
    (script.headingOffers overrides).andThen (script.heading overrides) fun _ =>
    (offersOfAll overrides script.program.statements).andThen
      (executeAll overrides script.program.statements) fun _ =>
    script.barOffers overrides newer

/-- What the input calls of a run offer, the first one first. -/
def offers (window : List Candle) : List (String × Float) :=
  script.windowOffers overrides window.reverse script.initial

end Script

/-! ## Evaluations whose offers are answered alike -/

def answer (overrides : Table String Float) (offer : String × Float) : Float :=
  (Table.get? overrides offer.1).getD offer.2

def SameAnswers (overrides others : Table String Float) (offers : List (String × Float)) : Prop :=
  ∀ offer ∈ offers, answer others offer = answer overrides offer

namespace Eval

variable {α β : Type} {overrides others : Table String Float}

/-- Two evaluations, for one table of values and for another, have the same outcome wherever what
the first one offers is answered alike. -/
def AgreeOn (overrides others : Table String Float) (offering : Offering)
    (first second : Eval α) : Prop :=
  ∀ state, SameAnswers overrides others (offering state) →
    outcome second state = outcome first state

theorem agreeOn_self (offering : Offering) (evaluation : Eval α) :
    AgreeOn overrides others offering evaluation evaluation :=
  fun _ _ => rfl

theorem agreeOn_bind {offering : Offering} {nextOffering : α → Offering}
    {first second : Eval α} {next other : α → Eval β}
    (agree : AgreeOn overrides others offering first second)
    (nextAgree : ∀ value, AgreeOn overrides others (nextOffering value) (next value) (other value)) :
    AgreeOn overrides others (offering.andThen first nextOffering) (first >>= next)
      (second >>= other) := by
  intro state same
  have started := agree state fun offer member => same offer (List.mem_append_left _ member)
  have continued := fun offer member => same offer (List.mem_append_right _ member)
  rw [outcome_bind, outcome_bind, started]
  rcases ran : outcome first state with ⟨_ | value, after⟩
  · rfl
  · rw [ran] at continued
    exact nextAgree value after continued

theorem agreeOn_bind_self {offering : Offering} {first second : Eval α}
    (agree : AgreeOn overrides others offering first second) (next : α → Eval β) :
    AgreeOn overrides others offering (first >>= next) (second >>= next) := by
  intro state same
  rw [outcome_bind, outcome_bind, agree state same]

theorem agreeOn_self_bind {nextOffering : α → Offering} (first : Eval α)
    {next other : α → Eval β}
    (nextAgree : ∀ value, AgreeOn overrides others (nextOffering value) (next value) (other value)) :
    AgreeOn overrides others (Offering.nothing.andThen first nextOffering) (first >>= next)
      (first >>= other) :=
  agreeOn_bind (agreeOn_self .nothing first) nextAgree

theorem operand_agree (site : Nat) (operand : Operand) (expr : Expr) {offering : Offering}
    {first second : Eval Value} (agree : AgreeOn overrides others offering first second) :
    AgreeOn overrides others (.ofOperand expr offering) (Eval.operand site operand expr first)
      (Eval.operand site operand expr second) := by
  intro state same
  unfold Offering.ofOperand at same
  unfold Eval.operand
  rw [outcome_bind, outcome_bind, outcome_memory]
  cases named : state.memory.namedSeries? expr with
  | some series => simp only [named]
  | none =>
    rw [named] at same
    simp only [named]
    exact agreeOn_bind_self agree _ state same

theorem binary_agree (op : BinaryOp) (left : Value) {offering : Offering}
    {first second : Eval Value} (agree : AgreeOn overrides others offering first second) :
    AgreeOn overrides others
      (Offering.nothing.andThen (op.settledBy left)
        fun settled => if settled then .nothing else offering)
      (Eval.binary op left first) (Eval.binary op left second) := by
  intro state same
  unfold Eval.binary
  unfold Offering.andThen BinaryOp.settledBy at same
  cases decides : op.deciding? with
  | none =>
    rw [decides] at same
    exact agreeOn_bind_self agree _ state same
  | some deciding =>
    rw [decides] at same
    simp only [outcome_bind, outcome_lift] at same ⊢
    cases holds : left.truthy op.symbol with
    | error failure => rfl
    | ok truth =>
      rw [holds] at same
      -- Only where the left operand does not decide, the right one is evaluated and offers.
      by_cases settles : truth = deciding
      · simp only [settles, if_true]
      · have unsettled : SameAnswers overrides others (offering state) := by
          have answered : SameAnswers overrides others
              ((if decide (truth = deciding) = true then .nothing else offering : Offering)
                state) := same
          rwa [decide_eq_false settles] at answered
        simp only [settles, if_false]
        rw [outcome_bind, outcome_bind, agree state unsettled]

theorem input_agree (context : Context) (others : Table String Float) (site : Nat)
    (arguments : Arguments) :
    AgreeOn context.overrides others (Builtin.offers .input context.target site arguments)
      (Eval.input context site arguments)
      (Eval.input { context with overrides := others } site arguments) := by
  intro state same
  unfold Builtin.offers at same
  rw [outcome_input, outcome_input]
  rcases passed : arguments.input context.target site with failure | ⟨name, default⟩
  · rfl
  · rw [passed] at same
    have answered := same (name, default) (List.mem_singleton_self _)
    unfold answer at answered
    have declared : state.recorder.input others name default =
        state.recorder.input context.overrides name default := by
      simp only [Recorder.input, answered]
    simp only [declared]

end Eval

theorem Builtin.apply_agree (builtin : Builtin) (context : Context) (others : Table String Float)
    (site : Nat) (sources : List (Series Float)) (arguments : Arguments) :
    Eval.AgreeOn context.overrides others (builtin.offers context.target site arguments)
      (builtin.apply context site sources arguments)
      (builtin.apply { context with overrides := others } site sources arguments) := by
  cases builtin
  case input =>
    intro state same
    exact Eval.input_agree context others site arguments state same
  all_goals exact Eval.agreeOn_self _ _

theorem Offering.andThen_bind {α β : Type} (offering : Offering) (first : Eval α)
    (second : α → Eval β) (next : β → Offering) :
    offering.andThen (first >>= second) next =
      offering.andThen first fun value => nothing.andThen (second value) next := by
  funext state
  simp only [andThen, Eval.outcome_bind]
  rcases Eval.outcome first state with ⟨_ | _, _⟩ <;> rfl

mutual

theorem Expr.evaluate_agree (context : Context) (others : Table String Float) :
    (expr : Expr) →
      Eval.AgreeOn context.overrides others (expr.offers context) (expr.evaluate context)
        (expr.evaluate { context with overrides := others })
  | .number _ _ | .string _ _ | .boolean _ _ | .color _ _ => Eval.agreeOn_self _ _
  | .name _ _ | .member _ _ _ => Eval.agreeOn_self _ _
  | .history series offset site _ => by
    have seriesAgree := series.evaluate_agree context others
    unfold Expr.evaluate Expr.offers
    rw [Offering.andThen_bind]
    refine Eval.agreeOn_bind (offset.evaluate_agree context others) fun offsetValue => ?_
    refine Eval.agreeOn_self_bind _ fun bars => ?_
    exact Eval.agreeOn_bind_self (Eval.operand_agree site .first series seriesAgree) _
  | .unary op operand _ => Eval.agreeOn_bind_self (operand.evaluate_agree context others) _
  | .binary left op right _ => by
    unfold Expr.evaluate Expr.offers
    rw [Offering.andThen_bind]
    refine Eval.agreeOn_bind (left.evaluate_agree context others) fun value => ?_
    exact Eval.binary_agree op value (right.evaluate_agree context others)
  | .ternary condition whenTrue whenFalse _ => by
    have trueAgree := whenTrue.evaluate_agree context others
    have falseAgree := whenFalse.evaluate_agree context others
    unfold Expr.evaluate Expr.offers
    rw [Offering.andThen_bind]
    refine Eval.agreeOn_bind (condition.evaluate_agree context others) fun value => ?_
    refine Eval.agreeOn_self_bind _ fun truth => ?_
    cases truth with
    | false => exact falseAgree
    | true => exact trueAgree
  | .call call _ => call.evaluate_agree context others

theorem Call.evaluate_agree (context : Context) (others : Table String Float) :
    (call : Call) →
      Eval.AgreeOn context.overrides others (call.offers context) (call.evaluate context)
        (call.evaluate { context with overrides := others })
  | .mk function site arguments named => by
    have namedAgree := NamedArgument.evaluateAll_agree context others named
    unfold Call.evaluate Call.offers
    cases Builtin.ofName? function with
    | none => exact Eval.agreeOn_self _ _
    | some builtin =>
      refine Eval.agreeOn_bind ?_ fun sources => Eval.agreeOn_bind ?_ fun positional =>
        Eval.agreeOn_bind namedAgree fun named => ?_
      · exact Expr.evaluateSources_agree context others function site _ arguments
      · exact Expr.evaluatePositional_agree context others _ arguments
      · exact builtin.apply_agree context others site sources _

theorem Expr.evaluateSources_agree (context : Context) (others : Table String Float)
    (function : String) (site : Nat) : (operands : List Operand) → (arguments : List Expr) →
      Eval.AgreeOn context.overrides others
        (Expr.sourceOffers context function site operands arguments)
        (Expr.evaluateSources context function site operands arguments)
        (Expr.evaluateSources { context with overrides := others } function site operands
          arguments)
  | [], [] | [], _ :: _ | _ :: _, [] => Eval.agreeOn_self _ _
  | operand :: operands, argument :: arguments => by
    have argumentAgree := argument.evaluate_agree context others
    have othersAgree := Expr.evaluateSources_agree context others function site operands arguments
    exact Eval.agreeOn_bind (Eval.operand_agree site operand argument argumentAgree)
      fun series => Eval.agreeOn_bind_self othersAgree _

theorem Expr.evaluatePositional_agree (context : Context) (others : Table String Float) :
    (skipped : Nat) → (arguments : List Expr) →
      Eval.AgreeOn context.overrides others (Expr.positionalOffers context skipped arguments)
        (Expr.evaluatePositional context skipped arguments)
        (Expr.evaluatePositional { context with overrides := others } skipped arguments)
  | 0, [] | _ + 1, [] => Eval.agreeOn_self _ _
  | skipped + 1, _ :: arguments =>
    Eval.agreeOn_bind_self (Expr.evaluatePositional_agree context others skipped arguments) _
  | 0, argument :: arguments => by
    have othersAgree := Expr.evaluatePositional_agree context others 0 arguments
    exact Eval.agreeOn_bind (argument.evaluate_agree context others)
      fun value => Eval.agreeOn_bind_self othersAgree _

theorem NamedArgument.evaluateAll_agree (context : Context) (others : Table String Float) :
    (arguments : List NamedArgument) →
      Eval.AgreeOn context.overrides others (NamedArgument.offersOfAll context arguments)
        (NamedArgument.evaluateAll context arguments)
        (NamedArgument.evaluateAll { context with overrides := others } arguments)
  | [] => Eval.agreeOn_self _ _
  | .mk _ argument _ :: arguments => by
    have othersAgree := NamedArgument.evaluateAll_agree context others arguments
    exact Eval.agreeOn_bind (argument.evaluate_agree context others)
      fun value => Eval.agreeOn_bind_self othersAgree _

end

theorem Declaration.evaluate_agree (declaration : Declaration)
    (overrides others : Table String Float) :
    Eval.AgreeOn overrides others (declaration.offers overrides) (declaration.evaluate overrides)
      (declaration.evaluate others) := by
  refine Eval.agreeOn_bind ?_ fun positional => Eval.agreeOn_bind_self ?_ _
  · exact Expr.evaluatePositional_agree ⟨overrides, none⟩ others 0 _
  · exact NamedArgument.evaluateAll_agree ⟨overrides, none⟩ others _

theorem Statement.execute_agree (overrides others : Table String Float) (statement : Statement) :
    Eval.AgreeOn overrides others (statement.offers overrides) (statement.execute overrides)
      (statement.execute others) := by
  induction statement with
  | assign name value _ =>
    exact Eval.agreeOn_bind_self (value.evaluate_agree ⟨overrides, some name⟩ others) _
  | expression value _ =>
    exact Eval.agreeOn_bind_self (value.evaluate_agree ⟨overrides, none⟩ others) _
  | ifThen condition _ _ thenAgree =>
    unfold Statement.execute Statement.offers
    rw [Offering.andThen_bind]
    refine Eval.agreeOn_bind (condition.evaluate_agree ⟨overrides, none⟩ others) fun value => ?_
    refine Eval.agreeOn_self_bind _ fun truth => ?_
    cases truth with
    | false => exact Eval.agreeOn_self .nothing (pure ())
    | true => exact thenAgree
  | ifThenElse condition _ _ _ thenAgree elseAgree =>
    unfold Statement.execute Statement.offers
    rw [Offering.andThen_bind]
    refine Eval.agreeOn_bind (condition.evaluate_agree ⟨overrides, none⟩ others) fun value => ?_
    refine Eval.agreeOn_self_bind _ fun truth => ?_
    cases truth with
    | false => exact elseAgree
    | true => exact thenAgree

theorem executeAll_agree (overrides others : Table String Float) (statements : List Statement) :
    Eval.AgreeOn overrides others (offersOfAll overrides statements)
      (executeAll overrides statements) (executeAll others statements) := by
  induction statements with
  | nil => exact Eval.agreeOn_self _ _
  | cons statement rest ih =>
    exact Eval.agreeOn_bind (statement.execute_agree overrides others) fun _ => ih

namespace Script

variable (script : Script) (overrides others : Table String Float)

theorem heading_agree :
    Eval.AgreeOn overrides others (script.headingOffers overrides) (script.heading overrides)
      (script.heading others) := by
  unfold headingOffers heading
  cases script.program.declaration with
  | none => exact Eval.agreeOn_self _ _
  | some declaration => exact declaration.evaluate_agree overrides others

theorem runBars_agree (candles : List Candle) :
    Eval.AgreeOn overrides others (script.barOffers overrides candles)
      (script.runBars overrides candles) (script.runBars others candles) := by
  induction candles with
  | nil => exact Eval.agreeOn_self _ _
  | cons candle newer ih =>
    exact Eval.agreeOn_self_bind _ fun _ =>
      Eval.agreeOn_bind (executeAll_agree overrides others _) fun _ => ih

theorem runWindow_agree (candles : List Candle) :
    Eval.AgreeOn overrides others (script.windowOffers overrides candles)
      (script.runWindow overrides candles) (script.runWindow others candles) := by
  cases candles with
  | nil => exact script.heading_agree overrides others
  | cons oldest newer =>
    unfold windowOffers runWindow
    exact Eval.agreeOn_self_bind _ fun _ =>
      Eval.agreeOn_bind (script.heading_agree overrides others) fun heading =>
      Eval.agreeOn_bind (executeAll_agree overrides others _) fun _ =>
      Eval.agreeOn_bind_self (script.runBars_agree overrides others newer) _

/-- With the same answers to what its input calls offer, a run gives the same chart or the same
error. -/
theorem run_of_sameAnswers (window : List Candle)
    (same : SameAnswers overrides others (script.offers overrides window)) :
    script.run window others = script.run window overrides := by
  rw [Eval.run_outcome, Eval.run_outcome, script.runWindow_agree overrides others window.reverse script.initial same]

example : (ofSource? "x = input(1, \"A\")\ny = input(2, \"A\")").map
    (·.offers [] [⟨60, 1.0, 1.0, 1.0, 1.0, 1.0⟩]) = some [("A", 1.0), ("A", 2.0)] := by
  decide +kernel

end Script

end ChartScript
