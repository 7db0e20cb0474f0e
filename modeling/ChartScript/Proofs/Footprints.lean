import ChartScript.Proofs.DrawingCalls
import ChartScript.Proofs.SideBySide

/-!
# What an expression touches

An expression that neither draws nor asks for an input reads the bars, the variables it names and
what its own sites keep, and it changes nothing but what these sites keep. So on two states that
agree on all this it has the same value, and leaves everything else of both as it was.
-/

set_option autoImplicit false

namespace ChartScript

/-- The call draws nothing and declares no input. -/
def Call.IsQuiet (call : Call) : Prop :=
  ∀ drawing, call.draws drawing = false

theorem Call.IsQuiet.ofBuiltin? {call : Call} {builtin : Builtin} (quiet : call.IsQuiet)
    (found : Builtin.ofName? call.function = some builtin) : Drawing.ofBuiltin? builtin = none := by
  cases draws : Drawing.ofBuiltin? builtin with
  | none => rfl
  | some drawing =>
    have refused := quiet drawing
    rw [Call.draws, decide_eq_true (Drawing.mem_functions found draws)] at refused
    cases refused

/-- The expression itself, without what is within it, touches only some variables and sites. -/
structure Expr.Touches (names : String → Prop) (sites : Nat → Prop) (expr : Expr) : Prop where
  name : ∀ {path span}, expr = .name path span → names path
  site : ∀ {site}, expr.site? = some site → sites site
  quiet : ∀ {call span}, expr = .call call span → call.IsQuiet

/-- States that are related agree on some variables and sites, and stay related where both keep
the same at one of these sites. -/
structure Confines (names : String → Prop) (sites : Nat → Prop)
    (related : RunState → RunState → Prop) : Prop where
  bars : ∀ {left right}, related left right → right.memory.bars = left.memory.bars
  slots : ∀ {left right name}, related left right → names name →
    right.memory.slots.get? name = left.memory.slots.get? name
  operand : ∀ {left right site}, related left right → sites site → ∀ operand,
    (right.memory.site site).operand operand = (left.memory.site site).operand operand
  settles : ∀ {site}, sites site → Settles related site site
  setOperand : ∀ {left right site}, related left right → sites site → ∀ operand value,
    related { left with memory := left.memory.setOperand site operand value }
      { right with memory := right.memory.setOperand site operand value }

namespace Confines

variable {names : String → Prop} {sites : Nat → Prop} {related : RunState → RunState → Prop}
  (confines : Confines names sites related)

include confines

section Reads

variable {left right : RunState} (relates : related left right) {path : String}
  (named : names path)

include relates named

theorem load? : right.memory.load? path = left.memory.load? path := by
  simp only [Memory.load?, Memory.prices, confines.slots relates named, confines.bars relates]

theorem numeric? : right.memory.numeric? path = left.memory.numeric? path := by
  unfold Memory.numeric? Memory.prices
  rw [confines.slots relates named, confines.bars relates]

theorem isScalar : right.memory.isScalar path = left.memory.isScalar path := by
  rw [Memory.isScalar, Memory.isScalar, confines.slots relates named]

end Reads

theorem load_mirrors {path : String} (named : names path) :
    Eval.Mirrors related (Eval.load path) (Eval.load path) := by
  unfold Eval.load
  refine Eval.mirrors_memory_bind fun left right relates => ?_
  rw [confines.load? relates named]
  cases left.memory.load? path <|> Value.constant? path with
  | some value => exact Eval.mirrors_pure value left right relates
  | none => exact Eval.mirrors_error (.undefinedVariable path) _ left right relates

theorem historyBars_mirrors {series : Expr} (touches : series.Touches names sites)
    (offset : Value) :
    Eval.Mirrors related (Eval.historyBars series offset) (Eval.historyBars series offset) := by
  refine Eval.historyBars_mirrors (fun {left right} relates checked => ?_) offset
  have same : right.memory.checkHistory series = left.memory.checkHistory series := by
    cases series with
    | name path span =>
      rw [Memory.checkHistory, Memory.checkHistory, confines.isScalar relates (touches.name rfl)]
    | _ => rfl
  exact same.trans checked

theorem operand_mirrors {site : Nat} (isOwn : sites site) (operand : Operand) {expr : Expr}
    (touches : expr.Touches names sites) {evaluated : Eval Value}
    (mirrors : Eval.Mirrors related evaluated evaluated) :
    Eval.Mirrors related (Eval.operand site operand expr evaluated)
      (Eval.operand site operand expr evaluated) := by
  refine Eval.mirrors_memory_bind fun left right relates => ?_
  have same : right.memory.namedSeries? expr = left.memory.namedSeries? expr := by
    cases expr with
    | name path span => exact confines.numeric? relates (touches.name rfl)
    | _ => rfl
  rw [same]
  cases left.memory.namedSeries? expr with
  | some series => exact Eval.mirrors_pure series left right relates
  | none =>
    exact Eval.record_mirrors (confines.operand · isOwn operand) (confines.setOperand · isOwn operand)
      mirrors left right relates

theorem apply_mirrors {builtin : Builtin} (quiet : Drawing.ofBuiltin? builtin = none)
    (context : Context) {site : Nat} (isOwn : sites site) (sources : List (Series Float))
    (arguments : Arguments) :
    Eval.Mirrors related (builtin.apply context site sources arguments)
      (builtin.apply context site sources arguments) := by
  unfold Builtin.apply
  split
  · exact (confines.settles isOwn).indicator_mirrors builtin sources arguments
  · refine Eval.mirrors_memory_bind fun left right relates => ?_
    split
    case h_12 => exact Eval.mirrors_lift _ left right relates
    all_goals cases quiet

theorem mirrorsParts (place : Span → Span) (context : Context) :
    MirrorsParts id place related context context (Expr.Touches names sites) where
  load touches := confines.load_mirrors (touches.name rfl)
  historyBars {series} touches offset := by
    rw [Eval.historyBars_relabel]
    exact confines.historyBars_mirrors touches offset
  operand {_ site expr} own isSite touches operand mirrors := by
    rw [expr.evaluate_relabel_id] at mirrors ⊢
    rw [Eval.operand_relabel]
    exact confines.operand_mirrors (own.site isSite) operand touches mirrors
  apply own found sources arguments :=
    confines.apply_mirrors ((own.quiet rfl).ofBuiltin? found) context (own.site rfl) sources
      arguments

theorem evaluate_mirrors {expr : Expr} (touches : ∀ part ∈ expr.parts, part.Touches names sites)
    (context : Context) : Eval.Mirrors related (expr.evaluate context) (expr.evaluate context) := by
  have mirrors := expr.evaluate_mirrors (confines.mirrorsParts id context) touches
  rwa [expr.evaluate_relabel_id] at mirrors

end Confines

/-! ## States that agree -/

namespace RunState

/-- The states agree on the bars, on some variables and on some sites. -/
structure Agrees (names : String → Prop) (sites : Nat → Prop) (left right : RunState) : Prop where
  bars : right.memory.bars = left.memory.bars
  slots : ∀ name, names name → right.memory.slots.get? name = left.memory.slots.get? name
  sites : ∀ site, sites site → right.memory.site site = left.memory.site site

/-- Nothing has changed but what some sites keep. -/
structure ChangesOnly (sites : Nat → Prop) (before after : RunState) : Prop where
  recorder : after.recorder = before.recorder
  bars : after.memory.bars = before.memory.bars
  slots : after.memory.slots = before.memory.slots
  size : after.memory.sites.size = before.memory.sites.size
  others : ∀ site, ¬sites site → after.memory.site site = before.memory.site site

theorem ChangesOnly.refl (sites : Nat → Prop) (state : RunState) : state.ChangesOnly sites state :=
  ⟨rfl, rfl, rfl, rfl, fun _ _ => rfl⟩

def modifySite (state : RunState) (site : Nat) (change : SiteMemory → SiteMemory) : RunState :=
  { state with memory := { state.memory with sites := state.memory.sites.modify site change } }

section ModifySite

variable {names : String → Prop} {sites : Nat → Prop} {site : Nat}
  {change : SiteMemory → SiteMemory} (unset : change .empty = .empty)

include unset

theorem Agrees.modifySite {left right : RunState} (agrees : left.Agrees names sites right) :
    (left.modifySite site change).Agrees names sites (right.modifySite site change) where
  bars := agrees.bars
  slots := agrees.slots
  sites other isOwn := by
    simp only [RunState.modifySite, Memory.site_modify _ _ _ unset, agrees.sites other isOwn]

theorem ChangesOnly.modifySite {before after : RunState} (changes : before.ChangesOnly sites after)
    (isOwn : sites site) : before.ChangesOnly sites (after.modifySite site change) where
  recorder := changes.recorder
  bars := changes.bars
  slots := changes.slots
  size := by simp only [RunState.modifySite, Array.size_modify, changes.size]
  others other foreign := by
    have differs : site ≠ other := by
      rintro rfl
      exact foreign isOwn
    simp only [RunState.modifySite, Memory.site_modify _ _ _ unset, if_neg differs]
    exact changes.others other foreign

end ModifySite

/-- States that agree, and differ from where they started only in what some sites keep. -/
structure Framed (names : String → Prop) (sites : Nat → Prop) (start other left right : RunState) :
    Prop where
  agrees : left.Agrees names sites right
  changes : start.ChangesOnly sites left
  changesOther : other.ChangesOnly sites right

theorem Framed.modifySite {names : String → Prop} {sites : Nat → Prop} {site : Nat}
    {change : SiteMemory → SiteMemory} {start other left right : RunState}
    (framed : Framed names sites start other left right) (unset : change .empty = .empty)
    (isOwn : sites site) :
    Framed names sites start other (left.modifySite site change) (right.modifySite site change) :=
  ⟨framed.agrees.modifySite unset, framed.changes.modifySite unset isOwn,
    framed.changesOther.modifySite unset isOwn⟩

theorem Framed.confines (names : String → Prop) (sites : Nat → Prop) (start other : RunState) :
    Confines names sites (Framed names sites start other) where
  bars framed := framed.agrees.bars
  slots framed named := framed.agrees.slots _ named
  operand framed isOwn operand :=
    congrArg (SiteMemory.operand · operand) (framed.agrees.sites _ isOwn)
  settles isOwn :=
    { result := fun framed => congrArg SiteMemory.result (framed.agrees.sites _ isOwn)
      setResult := fun framed _ => framed.modifySite rfl isOwn }
  setOperand framed isOwn operand _ := framed.modifySite (by cases operand <;> rfl) isOwn

end RunState

/-- On a state that agrees with another one an expression has the same value, and both states
keep what the expression does not touch. -/
theorem Expr.evaluate_framed {names : String → Prop} {sites : Nat → Prop} {expr : Expr}
    (touches : ∀ part ∈ expr.parts, part.Touches names sites) {context : Context}
    {left right after : RunState} {value : Value} (agrees : left.Agrees names sites right)
    (ran : Eval.outcome (expr.evaluate context) left = (.ok value, after)) :
    ∃ next, Eval.outcome (expr.evaluate context) right = (.ok value, next) ∧
      RunState.Framed names sites left right after next := by
  have confines := RunState.Framed.confines names sites left right
  have start : RunState.Framed names sites left right left right :=
    ⟨agrees, .refl sites left, .refl sites right⟩
  exact confines.evaluate_mirrors touches context left right start value after ran

end ChartScript
