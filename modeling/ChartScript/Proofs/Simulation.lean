import ChartScript.Proofs.RecorderSites
import ChartScript.Proofs.Renumbering
import ChartScript.Proofs.VariableReads

/-!
# Runs that go side by side

An evaluation mirrors another one if it succeeds wherever that does, with the same result.
`Simulates` lists what a relation between the states of two runs needs for that: both runs remember
the same, with other numbers for the sites, where they evaluate alike. Then an expression mirrors
any expression of its shape, and a statement mirrors itself.
-/

set_option autoImplicit false

namespace ChartScript

section Places

variable (context : Context) (place : Span → Span)

theorem Memory.namedSeries?_relabel (memory : Memory) (site : Nat → Nat) (expr : Expr) :
    memory.namedSeries? (expr.relabel site place) = memory.namedSeries? expr := by
  cases expr <;> rfl

theorem Memory.checkHistory_relabel (memory : Memory) (site : Nat → Nat) (expr : Expr) :
    memory.checkHistory (expr.relabel site place) = memory.checkHistory expr := by
  cases expr <;> rfl

theorem Eval.operand_relabel (site : Nat) (operand : Operand) (expr : Expr)
    (evaluated : Eval Value) :
    Eval.operand site operand (expr.relabel id place) evaluated =
      Eval.operand site operand expr evaluated := by
  simp only [Eval.operand, Memory.namedSeries?_relabel]

theorem Eval.historyBars_relabel (expr : Expr) (offset : Value) :
    Eval.historyBars (expr.relabel id place) offset = Eval.historyBars expr offset := by
  simp only [Eval.historyBars, Memory.checkHistory_relabel]

mutual

/-- An evaluation does not look at places. -/
theorem Expr.evaluate_relabel_id :
    (expr : Expr) → (expr.relabel id place).evaluate context = expr.evaluate context
  | .number _ _ | .string _ _ | .boolean _ _ | .color _ _ | .name _ _ | .member _ _ _ => rfl
  | .history series offset site span => by
    rw [Expr.relabel, Expr.evaluate, Expr.evaluate, offset.evaluate_relabel_id,
      series.evaluate_relabel_id]
    simp only [Eval.historyBars_relabel, Eval.operand_relabel, id]
  | .unary op operand span => by
    rw [Expr.relabel, Expr.evaluate, Expr.evaluate, operand.evaluate_relabel_id]
  | .binary left op right span => by
    rw [Expr.relabel, Expr.evaluate, Expr.evaluate, left.evaluate_relabel_id,
      right.evaluate_relabel_id]
  | .ternary condition whenTrue whenFalse span => by
    rw [Expr.relabel, Expr.evaluate, Expr.evaluate, condition.evaluate_relabel_id,
      whenTrue.evaluate_relabel_id, whenFalse.evaluate_relabel_id]
  | .call call span => by
    rw [Expr.relabel, Expr.evaluate, Expr.evaluate, call.evaluate_relabel_id]

theorem Call.evaluate_relabel_id :
    (call : Call) → (call.relabel id place).evaluate context = call.evaluate context
  | .mk function site arguments named => by
    rw [Call.relabel, Call.evaluate, Call.evaluate, NamedArgument.evaluateAll_relabel_id named]
    simp only [Expr.evaluateSources_relabel_id function site _ arguments,
      Expr.evaluatePositional_relabel_id _ arguments, id]

theorem Expr.evaluateSources_relabel_id (function : String) (site : Nat) :
    (operands : List Operand) → (arguments : List Expr) →
      Expr.evaluateSources context function site operands (Expr.relabelAll id place arguments) =
        Expr.evaluateSources context function site operands arguments
  | [], [] | [], _ :: _ | _ :: _, [] => rfl
  | operand :: operands, argument :: arguments => by
    rw [Expr.relabelAll, Expr.evaluateSources, Expr.evaluateSources, Eval.operand_relabel,
      argument.evaluate_relabel_id,
      Expr.evaluateSources_relabel_id function site operands arguments]

theorem Expr.evaluatePositional_relabel_id : (skipped : Nat) → (arguments : List Expr) →
    Expr.evaluatePositional context skipped (Expr.relabelAll id place arguments) =
      Expr.evaluatePositional context skipped arguments
  | 0, [] | _ + 1, [] => rfl
  | skipped + 1, _ :: arguments => by
    rw [Expr.relabelAll, Expr.evaluatePositional, Expr.evaluatePositional,
      Expr.evaluatePositional_relabel_id skipped arguments]
  | 0, argument :: arguments => by
    rw [Expr.relabelAll, Expr.evaluatePositional, Expr.evaluatePositional,
      argument.evaluate_relabel_id, Expr.evaluatePositional_relabel_id 0 arguments]

theorem NamedArgument.evaluateAll_relabel_id : (arguments : List NamedArgument) →
    NamedArgument.evaluateAll context (NamedArgument.relabelAll id place arguments) =
      NamedArgument.evaluateAll context arguments
  | [] => rfl
  | .mk name argument span :: arguments => by
    rw [NamedArgument.relabelAll, NamedArgument.relabel, NamedArgument.evaluateAll,
      NamedArgument.evaluateAll, argument.evaluate_relabel_id,
      NamedArgument.evaluateAll_relabel_id arguments]

end

end Places

namespace Eval

variable {α β : Type} {related : RunState → RunState → Prop}

/-- On two states: where the first evaluation succeeds on the first of them, the second one
succeeds on the second, with the same result, and they leave related states behind. -/
def MirrorsAt (related : RunState → RunState → Prop) (first second : Eval α)
    (left right : RunState) : Prop :=
  ∀ value after, outcome first left = (.ok value, after) →
    ∃ next, outcome second right = (.ok value, next) ∧ related after next

def Mirrors (related : RunState → RunState → Prop) (first second : Eval α) : Prop :=
  ∀ left right, related left right → MirrorsAt related first second left right

theorem mirrorsAt_bind {others : RunState → RunState → Prop} {first second : Eval α}
    {next following : α → Eval β} {left right : RunState}
    (mirrors : MirrorsAt related first second left right)
    (rest : ∀ value, ∀ after reached, related after reached →
      MirrorsAt others (next value) (following value) after reached) :
    MirrorsAt others (first >>= next) (second >>= following) left right := by
  intro result final ran
  obtain ⟨value, after, started, continued⟩ := of_outcome_bind_ok ran
  obtain ⟨reached, mirrored, relates⟩ := mirrors value after started
  obtain ⟨last, finished, relatesLast⟩ := rest value after reached relates result final continued
  refine ⟨last, ?_, relatesLast⟩
  rw [outcome_bind, mirrored]
  exact finished

theorem mirrors_bind {first second : Eval α} {next following : α → Eval β}
    (mirrors : Mirrors related first second)
    (rest : ∀ value, Mirrors related (next value) (following value)) :
    Mirrors related (first >>= next) (second >>= following) :=
  fun left right relates => mirrorsAt_bind (mirrors left right relates) rest

theorem mirrors_pure (value : α) : Mirrors related (pure value) (pure value) := by
  rintro left right relates _ _ ⟨⟩
  exact ⟨right, rfl, relates⟩

theorem mirrorsAt_lift {first second : Except RunError α} {left right : RunState}
    (relates : related left right) (same : ∀ value, first = .ok value → second = .ok value) :
    MirrorsAt related (liftM first) (liftM second) left right := by
  intro value after ran
  rw [outcome_lift] at ran
  obtain ⟨succeeds, rfl⟩ := Prod.mk.inj ran
  exact ⟨right, by rw [outcome_lift, same value succeeds], relates⟩

theorem mirrors_lift (result : Except RunError α) :
    Mirrors related (liftM result) (liftM result) :=
  fun _ _ relates => mirrorsAt_lift relates fun _ => id

/-- What fails is mirrored by anything. -/
theorem mirrors_error (failure : RunError) (second : Eval α) :
    Mirrors related (liftM (.error failure : Except RunError α)) second :=
  fun _ _ _ _ _ ran => nomatch ran

theorem mirrors_memory_bind {next following : Memory → Eval α}
    (rest : ∀ left right, related left right →
      MirrorsAt related (next left.memory) (following right.memory) left right) :
    Mirrors related (memory >>= next) (memory >>= following) :=
  rest

theorem mirrors_modify {change other : RunState → RunState}
    (kept : ∀ left right, related left right → related (change left) (other right)) :
    Mirrors related (modify change : Eval Unit) (modify other) := by
  rintro left right relates _ _ ⟨⟩
  exact ⟨other right, rfl, kept left right relates⟩

theorem binary_mirrors (op : BinaryOp) (left : Value) {right another : Eval Value}
    (mirrors : Mirrors related right another) :
    Mirrors related (Eval.binary op left right) (Eval.binary op left another) := by
  unfold Eval.binary
  split
  · refine mirrors_bind (mirrors_lift _) fun truth => ?_
    split
    · exact mirrors_pure _
    · exact mirrors_bind mirrors fun _ => mirrors_bind (mirrors_lift _) fun _ => mirrors_pure _
  · exact mirrors_bind mirrors fun _ => mirrors_lift _

theorem mirrors_ite {condition : Bool} {first second other another : Eval α}
    (whenTrue : Mirrors related first second) (whenFalse : Mirrors related other another) :
    Mirrors related (if condition then first else other)
      (if condition then second else another) := by
  cases condition with
  | false => exact whenFalse
  | true => exact whenTrue

end Eval

/-! ## Simulations -/

/-- A call can settle its result at one site in the one run and at another in the other run. -/
structure Settles (related : RunState → RunState → Prop) (site other : Nat) : Prop where
  result : ∀ {left right}, related left right →
    (right.memory.site other).result = (left.memory.site site).result
  setResult : ∀ {left right}, related left right → ∀ value,
    related { left with memory := left.memory.setResult site value }
      { right with memory := right.memory.setResult other value }

/-- A relation between the states of two runs that both keep where they evaluate alike. The sites
of the second run have other numbers. Both remember the same for sites that they share and for
variables that are not hidden from the first run, and both can assign to some of those. -/
structure Simulates (number : Nat → Nat) (shared : Nat → Prop) (hidden assignable : String → Prop)
    (related : RunState → RunState → Prop) : Prop where
  injective : Function.Injective number
  notField : ∀ {name}, hidden name → PriceField.ofName? name = none
  notConstant : ∀ {name}, hidden name → Value.constant? name = none
  visible : ∀ {name}, assignable name → ¬hidden name
  bars : ∀ {left right}, related left right → right.memory.bars = left.memory.bars
  slots : ∀ {left right name}, related left right → ¬hidden name →
    right.memory.slots.get? name = left.memory.slots.get? name
  absent : ∀ {left right name}, related left right → hidden name →
    left.memory.slots.get? name = none
  notScalar : ∀ {left right name}, related left right → hidden name →
    right.memory.isScalar name = false
  operand : ∀ {left right site}, related left right → shared site → ∀ operand,
    (right.memory.site (number site)).operand operand =
      (left.memory.site site).operand operand
  recorder : ∀ {left right}, related left right →
    right.recorder = left.recorder.renumber number
  settles : ∀ {site}, shared site → Settles related site (number site)
  setOperand : ∀ {left right site}, related left right → shared site → ∀ operand value,
    related { left with memory := left.memory.setOperand site operand value }
      { right with memory := right.memory.setOperand (number site) operand value }
  setSlot : ∀ {left right name}, related left right → assignable name →
    PriceField.ofName? name = none → ∀ slot,
    related { left with memory := { left.memory with slots := left.memory.slots.set name slot } }
      { right with memory := { right.memory with slots := right.memory.slots.set name slot } }
  setRecorder : ∀ {left right}, related left right → ∀ recorder,
    related { left with recorder := recorder }
      { right with recorder := recorder.renumber number }

namespace Simulates

variable {number : Nat → Nat} {shared : Nat → Prop} {hidden assignable : String → Prop}
  {related : RunState → RunState → Prop}
  (simulates : Simulates number shared hidden assignable related)

include simulates

section Reads

variable {left right : RunState} (relates : related left right)

include relates

theorem barIndex : right.memory.barIndex = left.memory.barIndex := by
  rw [Memory.barIndex, Memory.barIndex, simulates.bars relates]

theorem load? {name : String} (visible : ¬hidden name) :
    right.memory.load? name = left.memory.load? name := by
  simp only [Memory.load?, Memory.prices, simulates.slots relates visible, simulates.bars relates]

theorem numeric? {name : String} (visible : ¬hidden name) :
    right.memory.numeric? name = left.memory.numeric? name := by
  unfold Memory.numeric? Memory.prices
  rw [simulates.slots relates visible, simulates.bars relates]

theorem isScalar {name : String} (visible : ¬hidden name) :
    right.memory.isScalar name = left.memory.isScalar name := by
  rw [Memory.isScalar, Memory.isScalar, simulates.slots relates visible]

theorem checkHistory {expr : Expr} (checked : left.memory.checkHistory expr = .ok ()) :
    right.memory.checkHistory expr = .ok () := by
  cases expr with
  | name path span =>
    by_cases isHidden : hidden path
    · simp [Memory.checkHistory, simulates.notScalar relates isHidden]
    · rw [Memory.checkHistory, simulates.isScalar relates isHidden]
      exact checked
  | _ => rfl

end Reads

theorem not_load_hidden {left right : RunState} (relates : related left right) {name : String}
    (isHidden : hidden name) {value : Value} {after : RunState} :
    Eval.outcome (Eval.load name) left ≠ (.ok value, after) := by
  have notLoaded : left.memory.load? name = none := by
    rw [Memory.load?, simulates.absent relates isHidden, simulates.notField isHidden]
    rfl
  unfold Eval.load
  rw [Eval.outcome_bind, Eval.outcome_memory]
  simp only [notLoaded, simulates.notConstant isHidden]
  intro ran
  cases ran

theorem load_mirrors (name : String) :
    Eval.Mirrors related (Eval.load name) (Eval.load name) := by
  intro left right relates value after ran
  by_cases isHidden : hidden name
  · exact absurd ran (simulates.not_load_hidden relates isHidden)
  · have same := simulates.load? relates isHidden
    unfold Eval.load at ran ⊢
    rw [Eval.outcome_bind, Eval.outcome_memory] at ran ⊢
    simp only [same] at ran ⊢
    cases found : left.memory.load? name <|> Value.constant? name with
    | some known =>
      simp only [found] at ran ⊢
      cases ran
      exact ⟨right, rfl, relates⟩
    | none =>
      simp only [found] at ran
      cases ran

theorem store_mirrors {name : String} (isAssignable : assignable name) (value : Value) :
    Eval.Mirrors related (Eval.store name value) (Eval.store name value) := by
  intro left right relates _ after ran
  obtain ⟨memory, stored, rfl⟩ := Eval.of_store_ok ran
  have notField : PriceField.ofName? name = none := by
    unfold Memory.store at stored
    cases field : PriceField.ofName? name with
    | none => rfl
    | some _ =>
      rw [field] at stored
      cases stored
  obtain ⟨slot, assigns, rfl⟩ := Memory.of_store_ok stored
  refine ⟨_, ?_, simulates.setSlot relates isAssignable notField slot⟩
  have storedRight : right.memory.store name value =
      .ok { right.memory with slots := right.memory.slots.set name slot } := by
    rw [← simulates.slots relates (simulates.visible isAssignable), ← simulates.bars relates]
      at assigns
    simp only [Memory.store, notField, assigns]
    rfl
  rw [Eval.outcome_store, storedRight]

theorem draw_mirrors {change other : Recorder → Except RunError Recorder}
    (commutes : ∀ recorder, other (recorder.renumber number) =
      Recorder.renumber number <$> change recorder) :
    Eval.Mirrors related (Eval.draw change) (Eval.draw other) := by
  intro left right relates value after ran
  rw [Eval.outcome_draw] at ran
  rw [Eval.outcome_draw, simulates.recorder relates, commutes]
  cases drawn : change left.recorder with
  | error failure =>
    rw [drawn] at ran
    cases ran
  | ok recorder =>
    rw [drawn] at ran
    cases ran
    exact ⟨_, rfl, simulates.setRecorder relates recorder⟩

theorem input_mirrors {context other : Context} {site : Nat} (arguments : Arguments)
    (sameOverrides : other.overrides = context.overrides)
    (sameTarget : other.target = context.target) (sameSite : number site = site) :
    Eval.Mirrors related (Eval.input context site arguments)
      (Eval.input other (number site) arguments) := by
  intro left right relates value after ran
  rw [Eval.outcome_input] at ran
  rw [Eval.outcome_input, sameTarget, sameSite, sameOverrides, simulates.recorder relates]
  cases offered : arguments.input context.target site with
  | error failure =>
    rw [offered] at ran
    cases ran
  | ok offer =>
    rw [offered] at ran
    cases ran
    exact ⟨_, rfl, simulates.setRecorder relates _⟩

end Simulates

section Functions

variable {related : RunState → RunState → Prop} {site other : Nat}

theorem Eval.historyBars_mirrors {series another : Expr}
    (checks : ∀ {left right}, related left right → left.memory.checkHistory series = .ok () →
      right.memory.checkHistory another = .ok ()) (offset : Value) :
    Eval.Mirrors related (Eval.historyBars series offset) (Eval.historyBars another offset) := by
  refine Eval.mirrors_bind (Eval.mirrors_lift _) fun length => ?_
  refine Eval.mirrors_bind (Eval.mirrors_lift _) fun bars => ?_
  refine Eval.mirrors_memory_bind fun left right relates => ?_
  exact Eval.mirrorsAt_bind (Eval.mirrorsAt_lift relates fun _ checked => checks relates checked)
    fun _ => Eval.mirrors_pure bars

/-- Both runs record what an operand evaluates to, and find the same recorded. -/
theorem Eval.record_mirrors {operand : Operand}
    (finds : ∀ {left right}, related left right →
      (right.memory.site other).operand operand = (left.memory.site site).operand operand)
    (records : ∀ {left right}, related left right → ∀ value,
      related { left with memory := left.memory.setOperand site operand value }
        { right with memory := right.memory.setOperand other operand value })
    {evaluated another : Eval Value} (mirrors : Eval.Mirrors related evaluated another) :
    Eval.Mirrors related
      (evaluated >>= fun value => liftM (value.asNumber "series") >>= fun value => do
        modify fun state =>
          { state with memory := state.memory.setOperand site operand value }
        return ((← Eval.memory).site site).operand operand)
      (another >>= fun value => liftM (value.asNumber "series") >>= fun value => do
        modify fun state =>
          { state with memory := state.memory.setOperand other operand value }
        return ((← Eval.memory).site other).operand operand) := by
  refine Eval.mirrors_bind mirrors fun value => ?_
  refine Eval.mirrors_bind (Eval.mirrors_lift _) fun newest => ?_
  refine Eval.mirrors_bind (Eval.mirrors_modify fun _ _ relates => records relates newest)
    fun _ => ?_
  refine Eval.mirrors_memory_bind fun left right relates => ?_
  rw [finds relates]
  exact Eval.mirrors_pure _ left right relates

theorem Settles.settle_mirrors (settles : Settles related site other) (result : Float) :
    Eval.Mirrors related (Eval.settle site result) (Eval.settle other result) :=
  Eval.mirrors_bind (Eval.mirrors_modify fun _ _ relates => settles.setResult relates result)
    fun _ => Eval.mirrors_pure _

theorem Settles.indicator_mirrors (settles : Settles related site other) (builtin : Builtin)
    (sources : List (Series Float)) (arguments : Arguments) :
    Eval.Mirrors related (Eval.indicator builtin site sources arguments)
      (Eval.indicator builtin other sources arguments) := by
  unfold Eval.indicator
  split
  · refine Eval.mirrors_bind (Eval.mirrors_lift _) fun length => ?_
    refine Eval.mirrors_memory_bind fun left right relates => ?_
    rw [settles.result relates]
    exact settles.settle_mirrors _ left right relates
  · split
    · exact Eval.mirrors_bind (Eval.mirrors_lift _) fun length => settles.settle_mirrors _
    · exact Eval.mirrors_bind (Eval.mirrors_pure 1) fun length => settles.settle_mirrors _
  · exact Eval.mirrors_pure _
  · exact Eval.mirrors_pure _
  · split
    · exact Eval.mirrors_bind (Eval.mirrors_lift _) fun length => settles.settle_mirrors _
    · exact Eval.mirrors_pure _

end Functions

namespace Simulates

variable {number : Nat → Nat} {shared : Nat → Prop} {hidden assignable : String → Prop}
  {related : RunState → RunState → Prop}
  (simulates : Simulates number shared hidden assignable related)
  {context other : Context} (sameOverrides : other.overrides = context.overrides)
  (place : Span → Span)

include simulates

theorem historyBars_mirrors (series : Expr) (offset : Value) :
    Eval.Mirrors related (Eval.historyBars series offset)
      (Eval.historyBars (series.relabel number place) offset) := by
  refine Eval.historyBars_mirrors (fun relates checked => ?_) offset
  rw [Memory.checkHistory_relabel]
  exact simulates.checkHistory relates checked

theorem operand_mirrors {site : Nat} (isShared : shared site) (operand : Operand) (expr : Expr)
    (mirrors : Eval.Mirrors related (expr.evaluate context)
      ((expr.relabel number place).evaluate other)) :
    Eval.Mirrors related (Eval.operand site operand expr (expr.evaluate context))
      (Eval.operand (number site) operand (expr.relabel number place)
        ((expr.relabel number place).evaluate other)) := by
  refine Eval.mirrors_memory_bind fun left right relates => ?_
  rw [Memory.namedSeries?_relabel]
  have recorded := Eval.record_mirrors (simulates.operand · isShared operand)
    (simulates.setOperand · isShared operand) mirrors left right relates
  -- Only a name can be that of a series, and one of them is hidden from the first run.
  cases expr with
  | name path span =>
    by_cases isHidden : hidden path
    · have unknown : left.memory.numeric? path = none := by
        rw [Memory.numeric?, simulates.absent relates isHidden, simulates.notField isHidden]
        rfl
      rw [Memory.namedSeries?, unknown]
      intro value after ran
      obtain ⟨loaded, reached, evaluated, _⟩ := Eval.of_outcome_bind_ok ran
      exact absurd evaluated (simulates.not_load_hidden relates isHidden)
    · have same : right.memory.namedSeries? (.name path span) =
          left.memory.namedSeries? (.name path span) := simulates.numeric? relates isHidden
      rw [same]
      cases left.memory.namedSeries? (.name path span) with
      | some series => exact Eval.mirrors_pure series left right relates
      | none => exact recorded
  | _ => exact recorded

include sameOverrides

theorem apply_mirrors (builtin : Builtin) {site : Nat} (isShared : shared site)
    (asks : builtin = .input → other.target = context.target ∧ number site = site)
    (sources : List (Series Float)) (arguments : Arguments) :
    Eval.Mirrors related (builtin.apply context site sources arguments)
      (builtin.apply other (number site) sources arguments) := by
  have injective := simulates.injective
  unfold Builtin.apply
  split
  · exact (simulates.settles isShared).indicator_mirrors builtin sources arguments
  · refine Eval.mirrors_memory_bind fun left right relates => ?_
    rw [simulates.barIndex relates, simulates.bars relates]
    revert left right
    intro left right relates
    split
    · exact simulates.draw_mirrors (·.plot_renumber arguments injective site) left right relates
    · exact simulates.draw_mirrors (·.line_renumber arguments injective site) left right relates
    · exact simulates.draw_mirrors (·.marker_renumber _ arguments .shape) left right relates
    · exact simulates.draw_mirrors (·.marker_renumber _ arguments .character) left right relates
    · exact simulates.draw_mirrors (·.background_renumber _ arguments) left right relates
    · exact simulates.draw_mirrors (·.alert_renumber _ arguments injective site) left right relates
    · exact simulates.draw_mirrors (·.entry_renumber _ arguments) left right relates
    · exact simulates.draw_mirrors (·.signal_renumber _ arguments .long) left right relates
    · exact simulates.draw_mirrors (·.signal_renumber _ arguments .short) left right relates
    · exact simulates.draw_mirrors (·.signal_renumber _ arguments .close) left right relates
    · obtain ⟨sameTarget, sameSite⟩ := asks rfl
      exact simulates.input_mirrors arguments sameOverrides sameTarget sameSite left right relates
    · exact Eval.mirrors_lift _ left right relates

end Simulates

/-! ## Expressions -/

/-- What two runs have to mirror of the single expressions, without what is within them, to mirror
whole ones: what a name has, what is looked at through an operand, and what a call does. -/
structure MirrorsParts (number : Nat → Nat) (place : Span → Span)
    (related : RunState → RunState → Prop) (context other : Context) (alike : Expr → Prop) :
    Prop where
  load : ∀ {path span}, alike (.name path span) →
    Eval.Mirrors related (Eval.load path) (Eval.load path)
  historyBars : ∀ {series}, alike series → ∀ offset,
    Eval.Mirrors related (Eval.historyBars series offset)
      (Eval.historyBars (series.relabel number place) offset)
  operand : ∀ {owner site expr}, alike owner → owner.site? = some site → alike expr →
    ∀ operand, Eval.Mirrors related (expr.evaluate context)
        ((expr.relabel number place).evaluate other) →
      Eval.Mirrors related (Eval.operand site operand expr (expr.evaluate context))
        (Eval.operand (number site) operand (expr.relabel number place)
          ((expr.relabel number place).evaluate other))
  apply : ∀ {call span builtin}, alike (.call call span) →
    Builtin.ofName? call.function = some builtin → ∀ sources arguments,
    Eval.Mirrors related (builtin.apply context call.site sources arguments)
      (builtin.apply other (number call.site) sources arguments)

section Expressions

variable {number : Nat → Nat} {place : Span → Span} {related : RunState → RunState → Prop}
  {context other : Context} {alike : Expr → Prop}
  (mirrors : MirrorsParts number place related context other alike)

include mirrors

-- Each of these needs what the others need.
set_option linter.unusedSectionVars false in
mutual

theorem Expr.evaluate_mirrors : (expr : Expr) → (∀ part ∈ expr.parts, alike part) →
    Eval.Mirrors related (expr.evaluate context) ((expr.relabel number place).evaluate other)
  | .number _ _, _ | .string _ _, _ | .boolean _ _, _ | .color _ _, _ => Eval.mirrors_pure _
  | .name path _, parts => mirrors.load (parts _ List.mem_cons_self)
  | .member _ name _, _ => Eval.mirrors_error (.unsupportedMember name) _
  | .history series offset site _, parts => by
    obtain ⟨own, seriesParts, offsetParts⟩ := Expr.forall_parts_history.mp parts
    have seriesMirrors := series.evaluate_mirrors seriesParts
    have looks := seriesParts series series.mem_parts_self
    rw [Expr.relabel, Expr.evaluate, Expr.evaluate]
    refine Eval.mirrors_bind (offset.evaluate_mirrors offsetParts) fun offsetValue => ?_
    refine Eval.mirrors_bind (mirrors.historyBars looks offsetValue) fun bars => ?_
    refine Eval.mirrors_bind ?_ fun values => Eval.mirrors_pure _
    exact mirrors.operand own rfl looks .first seriesMirrors
  | .unary op operand _, parts => by
    rw [Expr.relabel, Expr.evaluate, Expr.evaluate]
    exact Eval.mirrors_bind (operand.evaluate_mirrors (Expr.forall_parts_unary.mp parts).2)
      fun _ => Eval.mirrors_lift _
  | .binary left op right _, parts => by
    obtain ⟨_, leftParts, rightParts⟩ := Expr.forall_parts_binary.mp parts
    have rightMirrors := right.evaluate_mirrors rightParts
    rw [Expr.relabel, Expr.evaluate, Expr.evaluate]
    refine Eval.mirrors_bind (left.evaluate_mirrors leftParts) fun leftValue => ?_
    exact Eval.binary_mirrors op leftValue rightMirrors
  | .ternary condition whenTrue whenFalse _, parts => by
    obtain ⟨_, conditionParts, trueParts, falseParts⟩ := Expr.forall_parts_ternary.mp parts
    have trueMirrors := whenTrue.evaluate_mirrors trueParts
    have falseMirrors := whenFalse.evaluate_mirrors falseParts
    rw [Expr.relabel, Expr.evaluate, Expr.evaluate]
    refine Eval.mirrors_bind (condition.evaluate_mirrors conditionParts) fun value => ?_
    exact Eval.mirrors_bind (Eval.mirrors_lift _) fun truth =>
      Eval.mirrors_ite trueMirrors falseMirrors
  | .call call span, parts => by
    rw [Expr.parts, List.forall_mem_cons] at parts
    exact call.evaluate_mirrors span parts.1 parts.2

theorem Call.evaluate_mirrors : (call : Call) → (span : Span) → alike (.call call span) →
    (∀ part ∈ call.parts, alike part) →
    Eval.Mirrors related (call.evaluate context) ((call.relabel number place).evaluate other)
  | .mk function site arguments named, span, own, parts => by
    rw [Call.parts, List.forall_mem_append] at parts
    obtain ⟨passedParts, namedParts⟩ := parts
    have namedMirrors := NamedArgument.evaluateAll_mirrors named namedParts
    have sourceMirrors (operands : List Operand) :=
      Expr.evaluateSources_mirrors function own rfl operands arguments passedParts
    have passedMirrors (skipped : Nat) :=
      Expr.evaluatePositional_mirrors skipped arguments passedParts
    rw [Call.relabel, Call.evaluate, Call.evaluate]
    cases found : Builtin.ofName? function with
    | none => exact Eval.mirrors_error (.undefinedFunction function) _
    | some builtin =>
      refine Eval.mirrors_bind (sourceMirrors _) fun sources =>
        Eval.mirrors_bind (passedMirrors _) fun positional =>
        Eval.mirrors_bind namedMirrors fun namedValues => ?_
      exact mirrors.apply own found sources _

theorem Expr.evaluateSources_mirrors (function : String) {owner : Expr} {site : Nat}
    (own : alike owner) (isSite : owner.site? = some site) :
    (operands : List Operand) → (arguments : List Expr) →
      (∀ part ∈ Expr.partsOfAll arguments, alike part) →
      Eval.Mirrors related (Expr.evaluateSources context function site operands arguments)
        (Expr.evaluateSources other function (number site) operands
          (Expr.relabelAll number place arguments))
  | [], [], _ | [], _ :: _, _ => Eval.mirrors_pure _
  | _ :: _, [], _ => Eval.mirrors_error (.missingArgument function "source") _
  | operand :: operands, argument :: arguments, parts => by
    rw [Expr.partsOfAll, List.forall_mem_append] at parts
    have argumentMirrors := argument.evaluate_mirrors parts.1
    have looks := parts.1 argument argument.mem_parts_self
    rw [Expr.relabelAll, Expr.evaluateSources, Expr.evaluateSources]
    refine Eval.mirrors_bind ?_ fun series => Eval.mirrors_bind ?_ fun _ => Eval.mirrors_pure _
    · exact mirrors.operand own isSite looks operand argumentMirrors
    · exact Expr.evaluateSources_mirrors function own isSite operands arguments parts.2

theorem Expr.evaluatePositional_mirrors : (skipped : Nat) → (arguments : List Expr) →
    (∀ part ∈ Expr.partsOfAll arguments, alike part) →
    Eval.Mirrors related (Expr.evaluatePositional context skipped arguments)
      (Expr.evaluatePositional other skipped (Expr.relabelAll number place arguments))
  | 0, [], _ | _ + 1, [], _ => Eval.mirrors_pure _
  | skipped + 1, _ :: arguments, parts => by
    rw [Expr.partsOfAll, List.forall_mem_append] at parts
    rw [Expr.relabelAll, Expr.evaluatePositional, Expr.evaluatePositional]
    exact Eval.mirrors_bind (Expr.evaluatePositional_mirrors skipped arguments parts.2)
      fun _ => Eval.mirrors_pure _
  | 0, argument :: arguments, parts => by
    rw [Expr.partsOfAll, List.forall_mem_append] at parts
    rw [Expr.relabelAll, Expr.evaluatePositional, Expr.evaluatePositional]
    exact Eval.mirrors_bind (argument.evaluate_mirrors parts.1) fun _ =>
      Eval.mirrors_bind (Expr.evaluatePositional_mirrors 0 arguments parts.2)
        fun _ => Eval.mirrors_pure _

theorem NamedArgument.evaluateAll_mirrors : (arguments : List NamedArgument) →
    (∀ part ∈ NamedArgument.partsOfAll arguments, alike part) →
    Eval.Mirrors related (NamedArgument.evaluateAll context arguments)
      (NamedArgument.evaluateAll other (NamedArgument.relabelAll number place arguments))
  | [], _ => Eval.mirrors_pure _
  | .mk name argument span :: arguments, parts => by
    rw [NamedArgument.partsOfAll, List.forall_mem_append] at parts
    rw [NamedArgument.relabelAll, NamedArgument.relabel, NamedArgument.evaluateAll,
      NamedArgument.evaluateAll]
    exact Eval.mirrors_bind (argument.evaluate_mirrors parts.1) fun _ =>
      Eval.mirrors_bind (NamedArgument.evaluateAll_mirrors arguments parts.2)
        fun _ => Eval.mirrors_pure _

end

end Expressions

/-- What two runs have in common at an expression that both evaluate: they share its site, and an
input there goes by the same name. -/
structure Expr.Alike (number : Nat → Nat) (shared : Nat → Prop) (context other : Context)
    (expr : Expr) : Prop where
  site : ∀ {site}, expr.site? = some site → shared site
  input : ∀ {call span}, expr = .call call span → Builtin.ofName? call.function = some .input →
    other.target = context.target ∧ number call.site = call.site

section Shapes

variable {number : Nat → Nat} {shared : Nat → Prop} {hidden assignable : String → Prop}
  {related : RunState → RunState → Prop}
  (simulates : Simulates number shared hidden assignable related)
  {context other : Context} (sameOverrides : other.overrides = context.overrides)

include simulates sameOverrides

theorem Simulates.mirrorsParts (place : Span → Span) :
    MirrorsParts number place related context other (Expr.Alike number shared context other) where
  load _ := simulates.load_mirrors _
  historyBars _ offset := simulates.historyBars_mirrors place _ offset
  operand own isSite _ operand mirrors :=
    simulates.operand_mirrors place (own.site isSite) operand _ mirrors
  apply own found sources arguments :=
    simulates.apply_mirrors sameOverrides _ (own.site rfl)
      (fun isInput => own.input rfl (isInput ▸ found)) sources arguments

/-- An expression mirrors one of the same shape whose sites have the other numbers. -/
theorem Expr.evaluate_mirrors_of_shape {expr another : Expr} (same : another.shape = expr.shape)
    (sites : another.sites = expr.sites.map number)
    (alike : ∀ part ∈ expr.parts, part.Alike number shared context other) :
    Eval.Mirrors related (expr.evaluate context) (another.evaluate other) := by
  have renumbered := relabel_eq_of_shape same ((List.map_id _).trans sites)
  rw [← another.evaluate_relabel_id other fun _ => .nowhere, renumbered]
  exact expr.evaluate_mirrors (simulates.mirrorsParts sameOverrides fun _ => .nowhere) alike

end Shapes

/-- Both runs share some sites under the same numbers. -/
def Keeps (number : Nat → Nat) (shared : Nat → Prop) (sites : List Nat) : Prop :=
  ∀ site ∈ sites, shared site ∧ number site = site

namespace Keeps

variable {number : Nat → Nat} {shared : Nat → Prop} {sites others : List Nat}

theorem append : Keeps number shared (sites ++ others) ↔
    Keeps number shared sites ∧ Keeps number shared others :=
  List.forall_mem_append

theorem map_eq (keeps : Keeps number shared sites) : sites.map number = sites.map id :=
  List.map_congr_left fun site member => (keeps site member).2

theorem alike {parts : List Expr} (keeps : Keeps number shared (parts.filterMap Expr.site?))
    {context : Context} : ∀ part ∈ parts, part.Alike number shared context context := by
  intro part member
  constructor
  · intro site own
    exact (keeps site (List.mem_filterMap.mpr ⟨part, member, own⟩)).1
  · rintro call span rfl _
    exact ⟨rfl, (keeps call.site (List.mem_filterMap.mpr ⟨_, member, rfl⟩)).2⟩

end Keeps

section Statements

variable {number : Nat → Nat} {shared : Nat → Prop} {hidden assignable : String → Prop}
  {related : RunState → RunState → Prop}
  (simulates : Simulates number shared hidden assignable related)

include simulates

theorem Expr.evaluate_mirrors_self {expr : Expr} (keeps : Keeps number shared expr.sites)
    (context : Context) : Eval.Mirrors related (expr.evaluate context) (expr.evaluate context) :=
  Expr.evaluate_mirrors_of_shape simulates rfl rfl ((List.map_id _).symm.trans keeps.map_eq.symm)
    keeps.alike

theorem Eval.holds_mirrors {condition : Expr} (keeps : Keeps number shared condition.sites)
    (overrides : Table String Float) :
    Eval.Mirrors related (Eval.holds overrides condition) (Eval.holds overrides condition) :=
  Eval.mirrors_bind (Expr.evaluate_mirrors_self simulates keeps _) fun _ => Eval.mirrors_lift _

theorem Statement.execute_mirrors {statement : Statement}
    (keeps : Keeps number shared statement.sites)
    (assigns : ∀ name ∈ statement.assigned, assignable name) (overrides : Table String Float) :
    Eval.Mirrors related (statement.execute overrides) (statement.execute overrides) := by
  induction statement with
  | assign name value span =>
    exact Eval.mirrors_bind (Expr.evaluate_mirrors_self simulates keeps _) fun assigned =>
      simulates.store_mirrors (assigns name List.mem_cons_self) assigned
  | expression value span =>
    exact Eval.mirrors_bind (Expr.evaluate_mirrors_self simulates keeps _) fun _ =>
      Eval.mirrors_pure _
  | ifThen condition thenBranch span thenMirrors =>
    rw [Statement.sites, Statement.parts, List.filterMap_append, Keeps.append] at keeps
    rw [Statement.execute_ifThen]
    exact Eval.mirrors_bind (Eval.holds_mirrors simulates keeps.1 overrides) fun holds =>
      Eval.mirrors_ite (thenMirrors keeps.2 assigns) (Eval.mirrors_pure _)
  | ifThenElse condition thenBranch elseBranch span thenMirrors elseMirrors =>
    rw [Statement.sites, Statement.parts, List.filterMap_append, List.filterMap_append,
      Keeps.append, Keeps.append] at keeps
    rw [Statement.assigned, List.forall_mem_append] at assigns
    rw [Statement.execute_ifThenElse]
    exact Eval.mirrors_bind (Eval.holds_mirrors simulates keeps.1.1 overrides) fun holds =>
      Eval.mirrors_ite (thenMirrors keeps.1.2 assigns.1) (elseMirrors keeps.2 assigns.2)

theorem executeAll_mirrors {statements : List Statement}
    (keeps : Keeps number shared (statements.flatMap Statement.sites))
    (assigns : ∀ statement ∈ statements, ∀ name ∈ statement.assigned, assignable name)
    (overrides : Table String Float) :
    Eval.Mirrors related (executeAll overrides statements) (executeAll overrides statements) := by
  induction statements with
  | nil => exact Eval.mirrors_pure ()
  | cons statement rest ih =>
    rw [List.flatMap_cons, Keeps.append] at keeps
    obtain ⟨assignsHere, assignsBehind⟩ := List.forall_mem_cons.mp assigns
    exact Eval.mirrors_bind (statement.execute_mirrors simulates keeps.1 assignsHere overrides)
      fun _ => ih keeps.2 assignsBehind

theorem Expr.evaluatePositional_mirrors_self {arguments : List Expr}
    (keeps : ∀ argument ∈ arguments, Keeps number shared argument.sites) (context : Context) :
    Eval.Mirrors related (Expr.evaluatePositional context 0 arguments)
      (Expr.evaluatePositional context 0 arguments) := by
  induction arguments with
  | nil => exact Eval.mirrors_pure _
  | cons argument rest ih =>
    obtain ⟨keepsFirst, keepsRest⟩ := List.forall_mem_cons.mp keeps
    exact Eval.mirrors_bind (argument.evaluate_mirrors_self simulates keepsFirst context)
      fun _ => Eval.mirrors_bind (ih keepsRest) fun _ => Eval.mirrors_pure _

theorem NamedArgument.evaluateAll_mirrors_self {arguments : List NamedArgument}
    (keeps : ∀ argument ∈ arguments, Keeps number shared argument.value.sites)
    (context : Context) :
    Eval.Mirrors related (NamedArgument.evaluateAll context arguments)
      (NamedArgument.evaluateAll context arguments) := by
  induction arguments with
  | nil => exact Eval.mirrors_pure _
  | cons argument rest ih =>
    obtain ⟨name, value, span⟩ := argument
    obtain ⟨keepsFirst, keepsRest⟩ := List.forall_mem_cons.mp keeps
    exact Eval.mirrors_bind (value.evaluate_mirrors_self simulates keepsFirst context)
      fun _ => Eval.mirrors_bind (ih keepsRest) fun _ => Eval.mirrors_pure _

theorem Declaration.evaluate_mirrors {declaration : Declaration}
    (keeps : Keeps number shared declaration.call.sites) (overrides : Table String Float) :
    Eval.Mirrors related (declaration.evaluate overrides) (declaration.evaluate overrides) := by
  obtain ⟨kind, ⟨function, site, arguments, named⟩, span⟩ := declaration
  rw [Call.sites_mk, Keeps, List.forall_mem_cons, List.forall_mem_append,
    List.forall_mem_flatMap, List.forall_mem_flatMap] at keeps
  obtain ⟨_, keepsPassed, keepsNamed⟩ := keeps
  refine Eval.mirrors_bind ?_ fun positional => Eval.mirrors_bind ?_ fun named => ?_
  · exact Expr.evaluatePositional_mirrors_self simulates keepsPassed _
  · exact NamedArgument.evaluateAll_mirrors_self simulates keepsNamed _
  · exact Eval.mirrors_bind (Eval.mirrors_lift _) fun _ =>
      Eval.mirrors_bind (Eval.mirrors_lift _) fun _ => Eval.mirrors_pure _

theorem Script.heading_mirrors {script other : Script}
    (same : other.program.declaration = script.program.declaration)
    (keeps : ∀ declaration ∈ script.program.declaration,
      Keeps number shared declaration.call.sites) (overrides : Table String Float) :
    Eval.Mirrors related (script.heading overrides) (other.heading overrides) := by
  unfold Script.heading
  rw [same]
  cases declared : script.program.declaration with
  | none => exact Eval.mirrors_pure _
  | some declaration =>
    exact declaration.evaluate_mirrors simulates (keeps declaration declared) overrides

end Statements

/-! ## Runs -/

theorem executeAll_append (overrides : Table String Float) (first second : List Statement) :
    executeAll overrides (first ++ second) =
      executeAll overrides first >>= fun _ => executeAll overrides second := by
  induction first with
  | nil => exact (pure_bind () fun _ => executeAll overrides second).symm
  | cons statement rest ih => simp only [List.cons_append, executeAll, ih, bind_assoc]

namespace Script

variable {script other : Script} {overrides : Table String Float}
  {between onBar : RunState → RunState → Prop}

section Windows

variable
  (opens : ∀ left right candle, between left right →
    onBar (left.openBar candle) (right.openBar candle))
  (executes : ∀ left right, onBar left right →
    Eval.MirrorsAt between (executeAll overrides script.program.statements)
      (executeAll overrides other.program.statements) left right)

include opens

theorem openBar_mirrorsAt (candle : Candle) {left right : RunState} (relates : between left right) :
    Eval.MirrorsAt onBar (openBar candle) (openBar candle) left right := by
  rintro _ _ ⟨⟩
  exact ⟨right.openBar candle, rfl, opens left right candle relates⟩

include executes

theorem runBars_mirrors (candles : List Candle) :
    Eval.Mirrors between (script.runBars overrides candles) (other.runBars overrides candles) := by
  induction candles with
  | nil => exact Eval.mirrors_pure ()
  | cons candle newer ih =>
    intro left right relates
    refine Eval.mirrorsAt_bind (openBar_mirrorsAt opens candle relates) ?_
    intro _ after reached opened
    exact Eval.mirrorsAt_bind (executes after reached opened) fun _ => ih

/-- Runs go side by side if they open each bar and execute their statements on it so. -/
theorem runWindow_mirrors
    (headsBetween : Eval.Mirrors between (script.heading overrides) (other.heading overrides))
    (headsOnBar : Eval.Mirrors onBar (script.heading overrides) (other.heading overrides))
    (candles : List Candle) :
    Eval.Mirrors between (script.runWindow overrides candles)
      (other.runWindow overrides candles) := by
  cases candles with
  | nil => exact headsBetween
  | cons oldest newer =>
    intro left right relates
    refine Eval.mirrorsAt_bind (openBar_mirrorsAt opens oldest relates) ?_
    intro _ after reached opened
    refine Eval.mirrorsAt_bind (headsOnBar after reached opened) ?_
    intro heading afterHeading reachedHeading headed
    refine Eval.mirrorsAt_bind (executes afterHeading reachedHeading headed) fun _ => ?_
    exact Eval.mirrors_bind (runBars_mirrors opens executes newer) fun _ =>
      Eval.mirrors_pure heading

end Windows

/-- The charts of runs that go side by side do not show the numbers of the sites. -/
theorem run_eq_of_mirrors {number : Nat → Nat} {window : List Candle} {chart : Chart}
    (mirrors : Eval.Mirrors between (script.runWindow overrides window.reverse)
      (other.runWindow overrides window.reverse))
    (start : between script.initial other.initial)
    (bars : ∀ {left right}, between left right → right.memory.bars = left.memory.bars)
    (recorder : ∀ {left right}, between left right →
      right.recorder = left.recorder.renumber number)
    (ran : script.run window overrides = .ok chart) : other.run window overrides = .ok chart := by
  obtain ⟨heading, final, finished, rfl⟩ := Eval.of_run_ok ran
  obtain ⟨next, mirrored, relates⟩ := mirrors _ _ start heading final finished
  rw [Eval.run_outcome, mirrored]
  simp only [recorder relates, bars relates, Recorder.finish_renumber]

/-- Before the first bar plots are declared under the other numbers of their sites. -/
theorem initial_recorder_of_plots {number : Nat → Nat} (injective : Function.Injective number)
    (plots : other.plots = script.plots.map fun plot => (number plot.1, plot.2)) :
    other.initial.recorder = script.initial.recorder.renumber number := by
  have declares (declared : List (Nat × Option String)) (recorder : Recorder) :
      (declared.map fun plot => (number plot.1, plot.2)).foldl
        (fun recorder plot => recorder.declarePlot plot.1 plot.2) (recorder.renumber number) =
      (declared.foldl (fun recorder plot => recorder.declarePlot plot.1 plot.2) recorder).renumber
        number := by
    induction declared generalizing recorder with
    | nil => rfl
    | cons plot rest ih =>
      rw [List.map_cons, List.foldl_cons, List.foldl_cons, ← ih,
        Recorder.declarePlot_renumber recorder injective]
  simp only [initial, plots]
  exact declares script.plots .empty

end Script

end ChartScript
