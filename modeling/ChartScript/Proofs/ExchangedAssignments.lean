import ChartScript.Proofs.Footprints
import ChartScript.Proofs.NamedSeries
import ChartScript.Proofs.PlotsOfCalls

/-!
# Assignments that are exchanged

Two assignments one after the other can be exchanged if their variables differ, neither value names
the variable of the other one, and the values neither draw nor ask for inputs. Each of them touches
its own sites and its own variable only, so the other one finds what it reads as it would otherwise,
and the chart is the same.
-/

set_option autoImplicit false

namespace ChartScript

/-- One variable is assigned to, and some sites keep what they do. -/
structure RunState.Assigns (name : String) (slot : Slot) (sites : Nat → Prop)
    (before after : RunState) : Prop where
  recorder : after.recorder = before.recorder
  bars : after.memory.bars = before.memory.bars
  slots : after.memory.slots = before.memory.slots.set name slot
  size : after.memory.sites.size = before.memory.sites.size
  others : ∀ site, ¬sites site → after.memory.site site = before.memory.site site

namespace RunState.Assigns

variable {name : String} {slot : Slot} {sites : Nat → Prop} {before after : RunState}
  (assigns : before.Assigns name slot sites after)

include assigns

theorem get?_self : after.memory.slots.get? name = some slot := by
  rw [assigns.slots]
  exact Table.get?_set_self _ _ _

theorem get?_of_ne {other : String} (differ : other ≠ name) :
    after.memory.slots.get? other = before.memory.slots.get? other := by
  rw [assigns.slots]
  exact Table.get?_set_of_ne _ _ _ _ differ.symm

end RunState.Assigns

/-- What a variable is assigned depends on the bars and on what the variable had before. -/
theorem Memory.store_of_same {memory other next : Memory} {name : String} {value : Value}
    (bars : other.bars = memory.bars) (same : other.slots.get? name = memory.slots.get? name)
    (stored : memory.store name value = .ok next) :
    ∃ slot, next = { memory with slots := memory.slots.set name slot } ∧
      other.store name value = .ok { other with slots := other.slots.set name slot } := by
  obtain ⟨slot, assigns, rfl⟩ := Memory.of_store_ok stored
  refine ⟨slot, rfl, ?_⟩
  unfold Memory.store at stored ⊢
  split at stored
  case h_1 => cases stored
  case h_2 =>
    simp only [bars, same, assigns]
    rfl

/-- On a state that agrees with another one an assignment puts the same in the place of its
variable and of its sites. -/
theorem Statement.assign_framed {names : String → Prop} {sites : Nat → Prop} {name : String}
    {value : Expr} {span : Span} {overrides : Table String Float}
    (touches : ∀ part ∈ value.parts, part.Touches names sites) {left right after : RunState}
    (agrees : left.Agrees names sites right)
    (same : right.memory.slots.get? name = left.memory.slots.get? name)
    (ran : Eval.outcome ((Statement.assign name value span).execute overrides) left =
      (.ok (), after)) :
    ∃ slot next, Eval.outcome ((Statement.assign name value span).execute overrides) right =
        (.ok (), next) ∧
      left.Assigns name slot sites after ∧ right.Assigns name slot sites next ∧
      ∀ site, sites site → next.memory.site site = after.memory.site site := by
  obtain ⟨assigned, middle, evaluated, stores⟩ := Eval.of_outcome_bind_ok ran
  obtain ⟨reached, mirrored, framed⟩ := value.evaluate_framed touches agrees evaluated
  obtain ⟨changes, changesOther⟩ := And.intro framed.changes framed.changesOther
  obtain ⟨memory, stored, rfl⟩ := Eval.of_store_ok stores
  have sameNow : reached.memory.slots.get? name = middle.memory.slots.get? name := by
    rw [changes.slots, changesOther.slots, same]
  obtain ⟨slot, rfl, storedOther⟩ := Memory.store_of_same framed.agrees.bars sameNow stored
  let next : RunState :=
    { reached with memory := { reached.memory with slots := reached.memory.slots.set name slot } }
  refine ⟨slot, next, ?_, ?_, ?_, framed.agrees.sites⟩
  · show Eval.outcome (value.evaluate _ >>= fun assigned => Eval.store name assigned) right = _
    rw [Eval.outcome_bind, mirrored]
    simp only [Eval.outcome_store, storedOther]
    rfl
  · exact ⟨changes.recorder, changes.bars, congrArg (·.set name slot) changes.slots, changes.size,
      changes.others⟩
  · exact ⟨changesOther.recorder, changesOther.bars, congrArg (·.set name slot) changesOther.slots,
      changesOther.size, changesOther.others⟩

/-! ## Two assignments -/

theorem Recorder.renumber_id (recorder : Recorder) : recorder.renumber id = recorder := by
  simp only [Recorder.renumber, Table.mapKeys, id, List.map_id']

/-- Both states remember and have recorded the same. The variables can be listed in another
order. -/
structure RunState.Same (left right : RunState) : Prop where
  bars : right.memory.bars = left.memory.bars
  slots : ∀ name, right.memory.slots.get? name = left.memory.slots.get? name
  size : right.memory.sites.size = left.memory.sites.size
  sites : ∀ site, right.memory.site site = left.memory.site site
  recorder : right.recorder = left.recorder

def Expr.Names (expr : Expr) (name : String) : Prop :=
  ∃ span, .name name span ∈ expr.parts

/-- Calls in the expression draw nothing and declare no input. -/
def Expr.IsQuiet (expr : Expr) : Prop :=
  ∀ call ∈ expr.calls, call.IsQuiet

theorem Expr.IsQuiet.touches {expr : Expr} (quiet : expr.IsQuiet) :
    ∀ part ∈ expr.parts, part.Touches expr.Names (· ∈ expr.sites) := by
  intro part member
  refine ⟨?_, ?_, ?_⟩
  · rintro path span rfl
    exact ⟨span, member⟩
  · intro site own
    exact List.mem_filterMap.mpr ⟨part, member, own⟩
  · rintro call span rfl
    refine quiet call ?_
    rw [Expr.calls_eq_filterMap]
    exact List.mem_filterMap.mpr ⟨_, member, Expr.call?_eq_some.mpr ⟨span, rfl⟩⟩

/-- Neither of two assignments touches what the other one does. -/
structure Independent (first : String) (value : Expr) (second : String) (other : Expr) : Prop where
  differ : first ≠ second
  unread : ¬value.Names second
  unreadOther : ¬other.Names first
  quiet : value.IsQuiet
  quietOther : other.IsQuiet
  apart : value.sites.Disjoint other.sites

namespace RunState.Same

open Statement (assign_framed)

variable {left right : RunState}

theorem agrees (same : left.Same right) (names : String → Prop) (sites : Nat → Prop) :
    left.Agrees names sites right :=
  ⟨same.bars, fun name _ => same.slots name, fun site _ => same.sites site⟩

theorem refl (state : RunState) : state.Same state :=
  ⟨rfl, fun _ => rfl, rfl, fun _ => rfl, rfl⟩

theorem exchange {first second : String} {value other : Expr} {span place : Span}
    (independent : Independent first value second other) (overrides : Table String Float) :
    Eval.Mirrors Same
      (executeAll overrides [.assign first value span, .assign second other place])
      (executeAll overrides [.assign second other place, .assign first value span]) := by
  intro left right same _ after ran
  obtain ⟨_, middle, ranFirst, ran⟩ := Eval.of_outcome_bind_ok ran
  obtain ⟨_, last, ranSecond, ran⟩ := Eval.of_outcome_bind_ok ran
  cases ran
  have touches := independent.quiet.touches
  have touchesOther := independent.quietOther.touches
  -- The first assignment changes nothing that the second one reads.
  obtain ⟨_, _, _, assigns, _⟩ := assign_framed touches ((refl left).agrees _ _) rfl ranFirst
  have agreesOther : middle.Agrees other.Names (· ∈ other.sites) right := by
    refine ⟨same.bars.trans assigns.bars.symm, ?_, ?_⟩
    · intro name named
      have differ : name ≠ first := fun isFirst => independent.unreadOther (isFirst ▸ named)
      rw [assigns.get?_of_ne differ, same.slots]
    · intro site own
      rw [assigns.others site fun shared => independent.apart shared own, same.sites]
  have sameSecond : right.memory.slots.get? second = middle.memory.slots.get? second := by
    rw [assigns.get?_of_ne independent.differ.symm, same.slots]
  obtain ⟨slotSecond, reached, reaches, assignsSecond, reachesSecond, sitesSecond⟩ :=
    assign_framed touchesOther agreesOther sameSecond ranSecond
  -- Nor does the second one change what the first one reads.
  have agrees : left.Agrees value.Names (· ∈ value.sites) reached := by
    refine ⟨reachesSecond.bars.trans same.bars, ?_, ?_⟩
    · intro name named
      have differ : name ≠ second := fun isSecond => independent.unread (isSecond ▸ named)
      rw [reachesSecond.get?_of_ne differ, same.slots]
    · intro site own
      rw [reachesSecond.others site (independent.apart own), same.sites]
  have sameFirst : reached.memory.slots.get? first = left.memory.slots.get? first := by
    rw [reachesSecond.get?_of_ne independent.differ, same.slots]
  obtain ⟨slotFirst, final, finishes, assignsFirst, finishesFirst, sitesFirst⟩ :=
    assign_framed touches agrees sameFirst ranFirst
  refine ⟨final, ?_, ?_, ?_, ?_, ?_, ?_⟩
  · show Eval.outcome (executeAll overrides [.assign second other place, .assign first value span])
      right = _
    simp only [executeAll, Eval.outcome_bind, reaches, finishes]
    rfl
  · rw [finishesFirst.bars, reachesSecond.bars, same.bars, assignsSecond.bars, assignsFirst.bars]
  · intro name
    by_cases isFirst : name = first
    · rw [isFirst, finishesFirst.get?_self, assignsSecond.get?_of_ne independent.differ,
        assignsFirst.get?_self]
    · rw [finishesFirst.get?_of_ne isFirst]
      by_cases isSecond : name = second
      · rw [isSecond, reachesSecond.get?_self, assignsSecond.get?_self]
      · rw [reachesSecond.get?_of_ne isSecond, assignsSecond.get?_of_ne isSecond,
          assignsFirst.get?_of_ne isFirst, same.slots]
  · rw [finishesFirst.size, reachesSecond.size, same.size, assignsSecond.size, assignsFirst.size]
  · intro site
    by_cases own : site ∈ value.sites
    · rw [sitesFirst site own, assignsSecond.others site (independent.apart own)]
    · rw [finishesFirst.others site own]
      by_cases ownSecond : site ∈ other.sites
      · exact sitesSecond site ownSecond
      · rw [reachesSecond.others site ownSecond, assignsSecond.others site ownSecond,
          assignsFirst.others site own, same.sites]
  · rw [finishesFirst.recorder, reachesSecond.recorder, same.recorder, assignsSecond.recorder,
      assignsFirst.recorder]

/-! ## Runs -/

theorem setSlot (same : left.Same right) (name : String) (slot : Slot) :
    Same { left with memory := { left.memory with slots := left.memory.slots.set name slot } }
      { right with memory :=
        { right.memory with slots := right.memory.slots.set name slot } } where
  bars := same.bars
  slots other := by
    by_cases isName : name = other
    · rw [isName, Table.get?_set_self, Table.get?_set_self]
    · rw [Table.get?_set_of_ne _ _ _ _ isName, Table.get?_set_of_ne _ _ _ _ isName, same.slots]
  size := same.size
  sites := same.sites
  recorder := same.recorder

theorem modifySite (same : left.Same right) (site : Nat) {change : SiteMemory → SiteMemory}
    (unset : change .empty = .empty) :
    Same (left.modifySite site change) (right.modifySite site change) where
  bars := same.bars
  slots := same.slots
  size := by simp only [RunState.modifySite, Array.size_modify, same.size]
  sites other := by
    simp only [RunState.modifySite, Memory.site_modify _ _ _ unset, same.sites other]
  recorder := same.recorder

theorem openBar (same : left.Same right) (candle : Candle) :
    Same (left.openBar candle) (right.openBar candle) where
  bars := by simp only [RunState.openBar, Memory.openBar, same.bars]
  slots name := by rw [RunState.get?_openBar, RunState.get?_openBar, same.slots]
  size := by simp only [RunState.openBar, Memory.openBar, Array.size_map, same.size]
  sites site := by simp only [RunState.openBar, Memory.site_openBar, same.size, same.sites site]
  recorder := by simp only [RunState.openBar, same.recorder]

/-- What evaluates on one of the states evaluates on the other one alike. -/
theorem simulates : Simulates id (fun _ => True) (fun _ => False) (fun _ => True) Same where
  injective := Function.injective_id
  notField := False.elim
  notConstant := False.elim
  visible _ := id
  bars same := same.bars
  slots same _ := same.slots _
  absent _ := False.elim
  notScalar _ := False.elim
  operand same _ operand := congrArg (SiteMemory.operand · operand) (same.sites _)
  recorder same := same.recorder.trans (Recorder.renumber_id _).symm
  settles _ :=
    { result := fun same => congrArg SiteMemory.result (same.sites _)
      setResult := fun same _ => same.modifySite _ rfl }
  setOperand same _ operand _ := same.modifySite _ (by cases operand <;> rfl)
  setSlot same _ _ := same.setSlot _
  setRecorder same recorder := by
    rw [Recorder.renumber_id]
    exact { same with recorder := rfl }

theorem keeps (sites : List Nat) : Keeps id (fun _ => True) sites :=
  fun _ _ => ⟨trivial, rfl⟩

theorem executeAll_mirrors (overrides : Table String Float) (statements : List Statement) :
    Eval.Mirrors Same (executeAll overrides statements) (executeAll overrides statements) :=
  ChartScript.executeAll_mirrors simulates (keeps _) (fun _ _ _ _ => trivial) overrides

theorem heading_mirrors {script other : Script}
    (declared : other.program.declaration = script.program.declaration)
    (overrides : Table String Float) :
    Eval.Mirrors Same (script.heading overrides) (other.heading overrides) :=
  Script.heading_mirrors simulates declared (fun _ _ => keeps _) overrides

theorem initial {program other : Program}
    (names : ∀ name, name ∈ other.assignedNames ↔ name ∈ program.assignedNames)
    (count : other.siteCount = program.siteCount) (plots : List (Nat × Option String)) :
    Same (Script.initial ⟨program, program.assignedNames, plots⟩)
      (Script.initial ⟨other, other.assignedNames, plots⟩) where
  bars := rfl
  slots name := by simp only [Script.initial, Memory.get?_empty, names]
  size := by simp only [Script.initial, Memory.empty, count]
  sites site := by simp only [Script.initial, Memory.site_empty]
  recorder := rfl

end RunState.Same

namespace Program

variable {program : Program} {before after : List Statement} {first second : String}
  {value other : Expr} {span place : Span}

def withStatements (program : Program) (statements : List Statement) : Program :=
  { program with statements := statements }

section Exchange

variable (listed : program.statements =
    before ++ .assign first value span :: .assign second other place :: after)

include listed

theorem calls_exchanged : (program.withStatements
      (before ++ .assign second other place :: .assign first value span :: after)).calls.Perm
    program.calls := by
  simp only [calls, withStatements, listed, List.flatMap_append, List.flatMap_cons]
  refine List.Perm.append_left _ (List.Perm.append_left _ ?_)
  rw [← List.append_assoc, ← List.append_assoc]
  exact List.perm_append_comm.append_right _

theorem mem_assignedNames_exchanged (name : String) : name ∈ (program.withStatements
      (before ++ .assign second other place :: .assign first value span :: after)).assignedNames ↔
    name ∈ program.assignedNames := by
  simp only [assignedNames, List.mem_eraseDups, withStatements, listed, List.flatMap_append,
    List.flatMap_cons, List.mem_append, or_left_comm]

variable (independent : Independent first value second other)

include independent

theorem plots_exchanged : (program.withStatements
      (before ++ .assign second other place :: .assign first value span :: after)).calls.filterMap
        Call.plot? = program.calls.filterMap Call.plot? := by
  have unplotted {expr : Expr} (quiet : expr.IsQuiet) : expr.calls.filterMap Call.plot? = [] := by
    refine List.filterMap_eq_nil_iff.mpr fun call member => ?_
    rw [call.plot?_eq, quiet call member .plot]
    rfl
  simp only [calls, withStatements, listed, List.flatMap_append, List.flatMap_cons, Statement.calls,
    List.filterMap_append, unplotted independent.quiet, unplotted independent.quietOther]

theorem executeAll_exchanged (overrides : Table String Float) : Eval.Mirrors RunState.Same
    (executeAll overrides program.statements) (executeAll overrides
      (before ++ .assign second other place :: .assign first value span :: after)) := by
  have split (one two : Statement) : before ++ one :: two :: after =
      before ++ ([one, two] ++ after) := rfl
  rw [listed, split, split]
  simp only [executeAll_append]
  refine Eval.mirrors_bind (RunState.Same.executeAll_mirrors overrides before) fun _ => ?_
  refine Eval.mirrors_bind (RunState.Same.exchange independent overrides) fun _ => ?_
  exact RunState.Same.executeAll_mirrors overrides after

/-- What is left of a run when two assignments that do not touch each other are exchanged. -/
theorem execute_of_independent {window : List Candle} {overrides : Table String Float}
    {chart : Chart} (ran : program.execute window overrides = .ok chart) :
    (program.withStatements
      (before ++ .assign second other place :: .assign first value span :: after)).execute window
        overrides = .ok chart := by
  obtain ⟨script, prepared, ran⟩ := of_bind_ok ran
  have resolves := resolves_of_prepare prepared
  obtain rfl := eq_of_prepare prepared
  rw [execute, prepare_of_resolves fun call member =>
    resolves call ((calls_exchanged listed).mem_iff.mp member), plots_exchanged listed independent]
  have initial := RunState.Same.initial (mem_assignedNames_exchanged listed) rfl
    (program.calls.filterMap Call.plot?)
  refine Script.run_eq_of_mirrors ?_ initial RunState.Same.bars RunState.Same.simulates.recorder ran
  apply Script.runWindow_mirrors
  · exact fun left right candle same => same.openBar candle
  · exact executeAll_exchanged listed independent overrides
  · exact RunState.Same.heading_mirrors rfl overrides
  · exact RunState.Same.heading_mirrors rfl overrides

end Exchange

/-- In a parsed program two assignments one after the other, of different variables, can be
exchanged if neither value names the variable of the other one and the values neither draw nor ask
for inputs. Where the program runs, the other one runs too, with the same chart. -/
theorem execute_exchanged {tokens : List Token} (parsed : parseTokens tokens = .ok program)
    (listed : program.statements =
      before ++ .assign first value span :: .assign second other place :: after)
    (differ : first ≠ second) (unread : ¬value.Names second) (unreadOther : ¬other.Names first)
    (quiet : value.IsQuiet) (quietOther : other.IsQuiet) (window : List Candle)
    (overrides : Table String Float) (chart : Chart)
    (ran : program.execute window overrides = .ok chart) :
    (program.withStatements
      (before ++ .assign second other place :: .assign first value span :: after)).execute window
        overrides = .ok chart := by
  have nodup := (numbered_of_parseTokens parsed).nodup
  have sites (statement : Statement) (rest : List Statement) :
      (statement :: rest).flatMap Statement.sites =
        statement.sites ++ rest.flatMap Statement.sites := List.flatMap_cons
  rw [Program.sites, listed, List.flatMap_append, sites, sites] at nodup
  have apart : value.sites.Disjoint other.sites := by
    obtain ⟨_, behind, _⟩ := List.nodup_append'.mp nodup
    obtain ⟨_, pair, _⟩ := List.nodup_append'.mp behind
    obtain ⟨_, _, disjoint⟩ := List.nodup_append'.mp pair
    exact fun site own shared => disjoint own (List.mem_append_left _ shared)
  exact execute_of_independent listed ⟨differ, unread, unreadOther, quiet, quietOther, apart⟩ ran

/-- A variable that reads its own history, and one that has an average. -/
def totalSource : String :=
  "total = nz(total[1]) + close\nmean = ema(open, 2)\nplot(total - mean)"

def assignsTotal (program : Program) : Bool :=
  match program.statements with
  | [.assign total (.binary (.call (.mk function _ [.history (.name read _) (.number _ _) _ _] []) _)
      _ (.name field _) _) _, .assign mean (.call (.mk average _ [.name source _, .number _ _] []) _) _,
      _] =>
    decide (total = "total" ∧ function = "nz" ∧ read = "total" ∧ field = "close" ∧ mean = "mean" ∧
      average = "ema" ∧ source = "open")
  | _ => false

theorem execute_exchanged_total :
    ∃ tokens program value other span place after chart, tokenize totalSource = .ok tokens ∧
      parseTokens tokens = .ok program ∧
      program.statements = .assign "total" value span :: .assign "mean" other place :: after ∧
      program.execute Script.risingCandles [] = .ok chart ∧
      (program.withStatements
        (.assign "mean" other place :: .assign "total" value span :: after)).execute
          Script.risingCandles [] = .ok chart := by
  have reads : (tokenize totalSource).toOption.any fun tokens =>
      (parseTokens tokens).toOption.any fun program =>
      assignsTotal program && (program.execute Script.risingCandles []).isOk := by decide +kernel
  obtain ⟨tokens, scanned, reads⟩ := of_toOption_any reads
  obtain ⟨program, parsed, reads⟩ := of_toOption_any reads
  obtain ⟨assigns, succeeds⟩ := Bool.and_eq_true_iff.mp reads
  cases ran : program.execute Script.risingCandles [] with
  | error failure =>
    rw [ran] at succeeds
    cases succeeds
  | ok chart =>
    unfold assignsTotal at assigns
    split at assigns
    case h_2 => cases assigns
    case h_1 listed =>
      obtain ⟨rfl, rfl, rfl, rfl, rfl, rfl, rfl⟩ := of_decide_eq_true assigns
      refine ⟨tokens, program, _, _, _, _, _, chart, scanned, parsed, listed, ran, ?_⟩
      refine execute_exchanged parsed (listed.trans (List.nil_append _).symm) (by decide) ?_ ?_ ?_
        ?_ _ _ chart ran
      · rintro ⟨span, member⟩
        simp [Expr.partsOfAll, NamedArgument.partsOfAll] at member
      · rintro ⟨span, member⟩
        simp [Expr.partsOfAll, NamedArgument.partsOfAll] at member
      · intro call member drawing
        cases List.mem_singleton.mp member
        cases drawing <;> rfl
      · intro call member drawing
        cases List.mem_singleton.mp member
        cases drawing <;> rfl

end Program

end ChartScript
