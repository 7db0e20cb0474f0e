import ChartScript.Proofs.NoLookAhead

/-!
# Reading a variable before it is assigned to

The moments of a bar are the states on which its expressions are evaluated and the assignments
that are executed, in order. Up to the first assignment to a variable on a bar its slot is as the
opening of the bar left it: without a number, if it holds numbers, and else with the value that
was assigned last. So a read yields `na`, or the string or color that the variable was given last.
-/

set_option autoImplicit false

namespace ChartScript

open Relation

inductive Moment where
  /-- An expression of a statement or of the declaration is evaluated on a state. -/
  | evaluation (state : RunState)
  /-- A value is assigned to a variable. -/
  | assignment (name : String) (value : Value)

/-- What is listed for the rest of an evaluation, where this part of it does not fail. -/
def Eval.afterwards {α β : Type} (evaluation : Eval α) (next : α → RunState → List β)
    (state : RunState) : List β :=
  match outcome evaluation state with
  | (.ok value, after) => next value after
  | (.error _, _) => []

theorem Eval.afterwards_of_ok {α β : Type} {evaluation : Eval α} {state after : RunState}
    {value : α} (next : α → RunState → List β)
    (ran : outcome evaluation state = (.ok value, after)) :
    evaluation.afterwards next state = next value after := by
  unfold Eval.afterwards
  rw [ran]

/-- Executes an assignment and gives the value that was assigned. -/
def Eval.assigned (overrides : Table String Float) (name : String) (value : Expr) : Eval Value := do
  let assigned ← value.evaluate ⟨overrides, some name⟩
  Eval.store name assigned
  return assigned

/-- Whether the branch behind a condition is taken. -/
def Eval.holds (overrides : Table String Float) (condition : Expr) : Eval Bool := do
  let value ← condition.evaluate ⟨overrides, none⟩
  value.truthy "if"

def Statement.moments (overrides : Table String Float) : Statement → RunState → List Moment
  | .assign name value _, state =>
    .evaluation state ::
      (Eval.assigned overrides name value).afterwards (fun assigned _ => [.assignment name assigned])
        state
  | .expression _ _, state => [.evaluation state]
  | .ifThen condition thenBranch _, state =>
    .evaluation state :: (Eval.holds overrides condition).afterwards
      (fun holds after => if holds then thenBranch.moments overrides after else []) state
  | .ifThenElse condition thenBranch elseBranch _, state =>
    .evaluation state :: (Eval.holds overrides condition).afterwards
      (fun holds after =>
        if holds then thenBranch.moments overrides after else elseBranch.moments overrides after)
      state

def momentsOfAll (overrides : Table String Float) : List Statement → RunState → List Moment
  | [], _ => []
  | statement :: rest, state =>
    statement.moments overrides state ++
      (statement.execute overrides).afterwards (fun _ => momentsOfAll overrides rest) state

namespace Script

variable (script : Script) (overrides : Table String Float)

/-- The moments of each of some bars, the oldest first. A run that fails has no further bars. -/
def barMoments : List Candle → RunState → List (List Moment)
  | [], _ => []
  | candle :: newer, state =>
    let opened := state.openBar candle
    momentsOfAll overrides script.program.statements opened ::
      (executeAll overrides script.program.statements).afterwards (fun _ => barMoments newer) opened

/-- The moments of each bar of a run. On the oldest bar the declaration is evaluated first. -/
def moments (window : List Candle) : List (List Moment) :=
  match window.reverse with
  | [] => []
  | oldest :: newer =>
    let opened := script.initial.openBar oldest
    let statements := script.program.statements
    (.evaluation opened ::
        (script.heading overrides).afterwards (fun _ => momentsOfAll overrides statements) opened) ::
      (script.heading overrides).afterwards
        (fun _ => (executeAll overrides statements).afterwards
          fun _ => script.barMoments overrides newer)
        opened

end Script

/-- The value that a variable has after some moments, if it was given one in them or before. -/
def latest (name : String) (before : Option Value) : List Moment → Option Value
  | [] => before
  | .evaluation _ :: later => latest name before later
  | .assignment other value :: later =>
    latest name (if other = name then some value else before) later

theorem latest_append (name : String) (before : Option Value) (earlier later : List Moment) :
    latest name before (earlier ++ later) = latest name (latest name before earlier) later := by
  induction earlier generalizing before with
  | nil => rfl
  | cons moment rest ih =>
    cases moment with
    | evaluation state => exact ih before
    | assignment other value => exact ih _

def NotAssigned (name : String) (moments : List Moment) : Prop :=
  ∀ value, .assignment name value ∉ moments

/-- Up to the first assignment to a variable all expressions are evaluated on states with a
property. -/
def UntilAssigned (name : String) (property : RunState → Prop) (moments : List Moment) : Prop :=
  ∀ before state after, moments = before ++ .evaluation state :: after →
    NotAssigned name before → property state

namespace UntilAssigned

variable {name : String} {property : RunState → Prop} {moments later : List Moment}

theorem nil : UntilAssigned name property [] := by
  intro before state after parts
  cases before <;> cases parts

theorem evaluation {state : RunState} (holds : property state)
    (rest : UntilAssigned name property moments) :
    UntilAssigned name property (.evaluation state :: moments) := by
  intro before visited after parts unassigned
  cases before with
  | nil =>
    cases parts
    exact holds
  | cons moment others =>
    cases parts
    exact rest others visited after rfl fun value member =>
      unassigned value (List.mem_cons_of_mem _ member)

theorem assignment {other : String} {value : Value}
    (rest : other ≠ name → UntilAssigned name property moments) :
    UntilAssigned name property (.assignment other value :: moments) := by
  intro before state after parts unassigned
  cases before with
  | nil => cases parts
  | cons moment others =>
    cases parts
    have differ : other ≠ name := by
      rintro rfl
      exact unassigned value List.mem_cons_self
    exact rest differ others state after rfl fun value member =>
      unassigned value (List.mem_cons_of_mem _ member)

theorem afterwards {α : Type} {first : Eval α} {next : α → RunState → List Moment}
    {state : RunState}
    (rest : ∀ value after, Eval.outcome first state = (.ok value, after) →
      UntilAssigned name property (next value after)) :
    UntilAssigned name property (first.afterwards next state) := by
  unfold Eval.afterwards
  rcases ran : Eval.outcome first state with ⟨_ | value, after⟩
  · exact nil
  · exact rest value after ran

theorem append (first : UntilAssigned name property moments)
    (rest : NotAssigned name moments → UntilAssigned name property later) :
    UntilAssigned name property (moments ++ later) := by
  intro before state after parts unassigned
  rcases List.append_eq_append_iff.mp parts with ⟨others, split, behind⟩ | ⟨others, split, behind⟩
  · -- The evaluation stands in the second part, behind all of the first one.
    subst split
    refine rest (fun value member => ?_) others state after behind fun value member => ?_
    · exact unassigned value (List.mem_append_left _ member)
    · exact unassigned value (List.mem_append_right _ member)
  · cases others with
    | nil =>
      rw [List.append_nil] at split
      subst split
      exact rest unassigned [] state after behind.symm nofun
    | cons moment others =>
      cases behind
      exact first before state others split unassigned

end UntilAssigned

/-- What a slot can hold if a value was assigned last, on whatever bar. Only numbers are assigned
to a slot that holds numbers. A slot of another kind holds what was assigned last; a number there
is `na`. -/
inductive Slot.Follows : Option Value → Slot → Prop
  | numeric {last : Option Value} (values : Series Float)
      (number : ∀ value ∈ last, value.numeric? ≠ none) : Follows last (.numeric values)
  | scalar (value : Value) (missing : value.numeric? ≠ none → value.isNa = true) :
      Follows (some value) (.scalar value)

theorem Slot.Follows.assign {last : Option Value} {slot next : Slot} {name : String}
    {value : Value} (follows : slot.Follows last)
    (stored : Memory.assign name slot value = .ok next) : next.Follows (some value) := by
  cases number : value.numeric? with
  | some float =>
    have isNumber : ∀ other ∈ some value, other.numeric? ≠ none := by
      rintro _ ⟨⟩
      rw [number]
      exact nofun
    cases follows with
    | numeric values =>
      simp only [Memory.assign, number, Except.ok.injEq] at stored
      subst stored
      exact .numeric _ isNumber
    | scalar current =>
      simp only [Memory.assign, number] at stored
      split at stored
      case isTrue missing =>
        cases stored
        exact .scalar value fun _ => missing
      case isFalse => cases stored
  | none =>
    have notNumber : value.numeric? ≠ none → value.isNa = true := fun differ =>
      absurd number differ
    cases follows with
    | numeric values =>
      simp only [Memory.assign, number] at stored
      split at stored
      case isTrue =>
        cases stored
        exact .scalar value notNumber
      case isFalse => cases stored
    | scalar current =>
      simp only [Memory.assign, number, Except.ok.injEq] at stored
      subst stored
      exact .scalar value notNumber

theorem Slot.Follows.openSlot {last : Option Value} {slot : Slot} (follows : slot.Follows last) :
    (Memory.openSlot slot).Follows last := by
  cases follows with
  | numeric values number => exact .numeric _ number
  | scalar value missing => exact .scalar value missing

/-- What a read yields on a bar without an assignment so far: a string or a color if that was
assigned last, and `na` otherwise. -/
def Value.CarriedOver (last : Option Value) (value : Value) : Prop :=
  match last with
  | some (.string text) => value = .string text
  | some (.color shade) => value = .color shade
  | _ => value.isNa = true

theorem Value.carriedOver_self (value : Value)
    (missing : value.numeric? ≠ none → value.isNa = true) : value.CarriedOver (some value) := by
  cases value with
  | number number => exact missing nofun
  | boolean truth => exact absurd (missing nofun) nofun
  | string text => exact rfl
  | color color => exact rfl

theorem Value.carriedOver_of_isNa {value : Value} {last : Option Value}
    (number : ∀ value ∈ last, value.numeric? ≠ none) (missing : value.isNa = true) :
    value.CarriedOver last := by
  rcases last with _ | ⟨_ | _ | _ | _⟩
  · exact missing
  · exact missing
  · exact missing
  · exact absurd rfl (number _ rfl)
  · exact absurd rfl (number _ rfl)

/-- A variable is in its slot as the opening of a bar leaves it. -/
structure RunState.Untouched (name : String) (last : Option Value) (slot : Slot)
    (state : RunState) : Prop where
  found : state.memory.slots.get? name = some (Memory.openSlot slot)
  follows : slot.Follows last

theorem Eval.load_of_known {name : String} {state : RunState} {value : Value}
    (known : state.memory.load? name = some value) :
    outcome (load name) state = (.ok value, state) := by
  unfold Eval.load
  rw [outcome_bind, outcome_memory]
  simp only [known]
  rfl

theorem RunState.Untouched.load {name : String} {last : Option Value} {slot : Slot}
    {state : RunState} (untouched : state.Untouched name last slot) :
    ∃ value, Eval.outcome (Eval.load name) state = (.ok value, state) ∧
      value.CarriedOver last := by
  obtain ⟨found, follows⟩ := untouched
  cases follows with
  | numeric values number =>
    refine ⟨.na, Eval.load_of_known ?_, Value.carriedOver_of_isNa number (by decide)⟩
    simp only [Memory.load?, found, Memory.openSlot, Series.now_openBar]
    rfl
  | scalar value missing =>
    refine ⟨value, Eval.load_of_known ?_, value.carriedOver_self missing⟩
    simp only [Memory.load?, found, Memory.openSlot]

/-! ## Statements -/

theorem RunState.Step.slots {overrides : Table String Float} {before after : RunState}
    (step : RunState.Step overrides before after) : after.memory.slots = before.memory.slots := by
  cases step <;> rfl

theorem Expr.evaluate_slots (context : Context) (expr : Expr) {state final : RunState}
    {result : Except RunError Value}
    (ran : Eval.outcome (expr.evaluate context) state = (result, final)) :
    final.memory.slots = state.memory.slots :=
  (expr.evaluate_moves context).keeps (·.memory.slots = state.memory.slots)
    (fun _ _ step same => step.slots.trans same) ran rfl

theorem Eval.holds_slots (overrides : Table String Float) (condition : Expr)
    {state final : RunState} {holds : Bool}
    (ran : outcome (Eval.holds overrides condition) state = (.ok holds, final)) :
    final.memory.slots = state.memory.slots := by
  obtain ⟨value, after, evaluated, decided⟩ := of_outcome_bind_ok ran
  rw [outcome_lift] at decided
  obtain ⟨_, rfl⟩ := Prod.mk.inj decided
  exact condition.evaluate_slots _ evaluated

theorem Memory.of_store_ok {memory next : Memory} {name : String} {value : Value}
    (stored : memory.store name value = .ok next) :
    ∃ slot, Memory.assign name ((memory.slots.get? name).getD
        (.numeric (memory.bars.map fun _ => Numeral.nan))) value = .ok slot ∧
      next = { memory with slots := memory.slots.set name slot } := by
  unfold Memory.store at stored
  cases field : PriceField.ofName? name with
  | some _ =>
    rw [field] at stored
    cases stored
  | none =>
    rw [field] at stored
    obtain ⟨slot, assigns, stored⟩ := of_bind_ok stored
    exact ⟨slot, assigns, (Except.ok.inj stored).symm⟩

theorem Memory.notField_of_store {memory next : Memory} {name : String} {value : Value}
    (stored : memory.store name value = .ok next) : PriceField.ofName? name = none := by
  unfold Memory.store at stored
  cases field : PriceField.ofName? name with
  | none => rfl
  | some _ =>
    rw [field] at stored
    cases stored

theorem Memory.of_assign_numeric {name : String} {slot : Slot} {value : Value}
    {values : Series Float} (assigns : Memory.assign name slot value = .ok (.numeric values)) :
    ∃ before number, slot = .numeric before ∧ values = Series.setNow before number := by
  unfold Memory.assign at assigns
  split at assigns
  case h_1 before number _ =>
    cases assigns
    exact ⟨before, number, rfl, rfl⟩
  case h_4 => cases assigns
  all_goals split at assigns <;> cases assigns

theorem Eval.of_store_ok {name : String} {value : Value} {state final : RunState}
    (ran : outcome (Eval.store name value) state = (.ok (), final)) :
    ∃ memory, state.memory.store name value = .ok memory ∧
      final = { state with memory := memory } := by
  rw [outcome_store] at ran
  cases stored : state.memory.store name value with
  | error failure =>
    rw [stored] at ran
    cases ran
  | ok memory =>
    rw [stored] at ran
    cases ran
    exact ⟨memory, rfl, rfl⟩

/-- An assignment puts a slot that follows the assigned value in the place of one that followed
another, and changes no other variable. -/
theorem Eval.assigned_slot (overrides : Table String Float) (target : String) (expr : Expr)
    {state final : RunState} {value : Value} (name : String) (last : Option Value) (slot : Slot)
    (found : state.memory.slots.get? name = some slot) (follows : slot.Follows last)
    (ran : outcome (Eval.assigned overrides target expr) state = (.ok value, final)) :
    ∃ next, final.memory.slots.get? name = some next ∧
      (if target = name then next.Follows (some value) else next = slot) := by
  obtain ⟨assigned, after, evaluated, ran⟩ := of_outcome_bind_ok ran
  have slots := expr.evaluate_slots _ evaluated
  obtain ⟨_, _, stores, ran⟩ := of_outcome_bind_ok ran
  cases ran
  obtain ⟨memory, stored, rfl⟩ := Eval.of_store_ok stores
  obtain ⟨next, assigns, rfl⟩ := Memory.of_store_ok stored
  by_cases same : target = name
  · subst same
    rw [slots, found, Option.getD_some] at assigns
    exact ⟨next, Table.get?_set_self _ _ _, by rw [if_pos rfl]; exact follows.assign assigns⟩
  · refine ⟨slot, ?_, by rw [if_neg same]⟩
    rw [Table.get?_set_of_ne _ _ _ _ same, slots, found]

theorem Statement.execute_assign (overrides : Table String Float) (name : String) (value : Expr)
    (span : Span) :
    (Statement.assign name value span).execute overrides =
      Eval.assigned overrides name value >>= fun _ => pure () := by
  simp only [Statement.execute, Eval.assigned, bind_assoc, pure_bind, bind_pure_unit]

theorem Statement.execute_ifThen (overrides : Table String Float) (condition : Expr)
    (thenBranch : Statement) (span : Span) :
    (Statement.ifThen condition thenBranch span).execute overrides =
      Eval.holds overrides condition >>= fun holds =>
        if holds then thenBranch.execute overrides else pure () := by
  simp only [Statement.execute, Eval.holds, bind_assoc]

theorem Statement.execute_ifThenElse (overrides : Table String Float) (condition : Expr)
    (thenBranch elseBranch : Statement) (span : Span) :
    (Statement.ifThenElse condition thenBranch elseBranch span).execute overrides =
      Eval.holds overrides condition >>= fun holds =>
        if holds then thenBranch.execute overrides else elseBranch.execute overrides := by
  simp only [Statement.execute, Eval.holds, bind_assoc]

section Tracking

variable (overrides : Table String Float) (name : String)

theorem Statement.moments_untilAssigned (statement : Statement) (state : RunState) (slot : Slot)
    (found : state.memory.slots.get? name = some slot) :
    UntilAssigned name (·.memory.slots.get? name = some slot)
      (statement.moments overrides state) := by
  induction statement generalizing state with
  | assign target value span =>
    exact .evaluation found (.afterwards fun _ _ _ => .assignment fun _ => .nil)
  | expression value span => exact .evaluation found .nil
  | ifThen condition thenBranch span thenUntil =>
    refine .evaluation found (.afterwards fun holds after decided => ?_)
    have kept := Eval.holds_slots overrides condition decided
    cases holds with
    | false => exact .nil
    | true => exact thenUntil after (kept ▸ found)
  | ifThenElse condition thenBranch elseBranch span thenUntil elseUntil =>
    refine .evaluation found (.afterwards fun holds after decided => ?_)
    have kept := Eval.holds_slots overrides condition decided
    cases holds with
    | false => exact elseUntil after (kept ▸ found)
    | true => exact thenUntil after (kept ▸ found)

/-- A variable has been followed through some moments: its slot follows what was assigned last,
and is the same if nothing was assigned to it. -/
def FollowedThrough (moments : List Moment) (last : Option Value) (slot : Slot)
    (final : RunState) : Prop :=
  ∃ next, final.memory.slots.get? name = some next ∧ next.Follows (latest name last moments) ∧
    (NotAssigned name moments → next = slot)

theorem Statement.execute_followed (statement : Statement) (state final : RunState)
    (last : Option Value) (slot : Slot) (found : state.memory.slots.get? name = some slot)
    (follows : slot.Follows last)
    (ran : Eval.outcome (statement.execute overrides) state = (.ok (), final)) :
    FollowedThrough name (statement.moments overrides state) last slot final := by
  induction statement generalizing state with
  | assign target value span =>
    rw [Statement.execute_assign] at ran
    obtain ⟨assigned, _, stores, ran⟩ := Eval.of_outcome_bind_ok ran
    cases ran
    obtain ⟨next, known, changed⟩ :=
      Eval.assigned_slot overrides target value name last slot found follows stores
    refine ⟨next, known, ?_, ?_⟩
    · simp only [Statement.moments, Eval.afterwards_of_ok _ stores, latest]
      by_cases same : target = name
      · simpa only [same, if_true] using changed
      · simp only [same, if_false] at changed ⊢
        exact changed ▸ follows
    · intro unassigned
      by_cases same : target = name
      · subst same
        refine absurd ?_ (unassigned assigned)
        simp only [Statement.moments, Eval.afterwards_of_ok _ stores]
        exact List.mem_cons_of_mem _ List.mem_cons_self
      · simpa only [same, if_false] using changed
  | expression value span =>
    obtain ⟨_, _, evaluated, ran⟩ := Eval.of_outcome_bind_ok ran
    cases ran
    exact ⟨slot, (value.evaluate_slots _ evaluated) ▸ found, follows, fun _ => rfl⟩
  | ifThen condition thenBranch span thenFollowed =>
    rw [Statement.execute_ifThen] at ran
    obtain ⟨holds, after, decided, ran⟩ := Eval.of_outcome_bind_ok ran
    have kept := Eval.holds_slots overrides condition decided ▸ found
    unfold FollowedThrough
    simp only [Statement.moments, Eval.afterwards_of_ok _ decided]
    cases holds with
    | false =>
      cases ran
      exact ⟨slot, kept, follows, fun _ => rfl⟩
    | true =>
      obtain ⟨next, known, nextFollows, same⟩ := thenFollowed after kept ran
      exact ⟨next, known, nextFollows, fun unassigned =>
        same fun value member => unassigned value (List.mem_cons_of_mem _ member)⟩
  | ifThenElse condition thenBranch elseBranch span thenFollowed elseFollowed =>
    rw [Statement.execute_ifThenElse] at ran
    obtain ⟨holds, after, decided, ran⟩ := Eval.of_outcome_bind_ok ran
    have kept := Eval.holds_slots overrides condition decided ▸ found
    unfold FollowedThrough
    simp only [Statement.moments, Eval.afterwards_of_ok _ decided]
    cases holds with
    | false =>
      obtain ⟨next, known, nextFollows, same⟩ := elseFollowed after kept ran
      exact ⟨next, known, nextFollows, fun unassigned =>
        same fun value member => unassigned value (List.mem_cons_of_mem _ member)⟩
    | true =>
      obtain ⟨next, known, nextFollows, same⟩ := thenFollowed after kept ran
      exact ⟨next, known, nextFollows, fun unassigned =>
        same fun value member => unassigned value (List.mem_cons_of_mem _ member)⟩

theorem momentsOfAll_untilAssigned (statements : List Statement) (state : RunState)
    (last : Option Value) (slot : Slot) (found : state.memory.slots.get? name = some slot)
    (follows : slot.Follows last) :
    UntilAssigned name (·.memory.slots.get? name = some slot)
      (momentsOfAll overrides statements state) := by
  induction statements generalizing state with
  | nil => exact .nil
  | cons statement rest ih =>
    refine (statement.moments_untilAssigned overrides name state slot found).append ?_
    refine fun unassigned => .afterwards fun _ after executed => ?_
    obtain ⟨next, known, _, same⟩ :=
      statement.execute_followed overrides name state after last slot found follows executed
    exact ih after (same unassigned ▸ known)

theorem executeAll_followed (statements : List Statement) (state final : RunState)
    (last : Option Value) (slot : Slot) (found : state.memory.slots.get? name = some slot)
    (follows : slot.Follows last)
    (ran : Eval.outcome (executeAll overrides statements) state = (.ok (), final)) :
    FollowedThrough name (momentsOfAll overrides statements state) last slot final := by
  induction statements generalizing state last slot with
  | nil =>
    cases ran
    exact ⟨slot, found, follows, fun _ => rfl⟩
  | cons statement rest ih =>
    obtain ⟨_, after, executed, ran⟩ := Eval.of_outcome_bind_ok ran
    obtain ⟨next, known, nextFollows, same⟩ :=
      statement.execute_followed overrides name state after last slot found follows executed
    obtain ⟨ended, last, endedFollows, unchanged⟩ := ih after _ next known nextFollows ran
    unfold FollowedThrough
    simp only [momentsOfAll, Eval.afterwards_of_ok _ executed, latest_append]
    refine ⟨ended, last, endedFollows, fun unassigned => ?_⟩
    rw [unchanged fun value member => unassigned value (List.mem_append_right _ member),
      same fun value member => unassigned value (List.mem_append_left _ member)]

/-! ## Bars -/

/-- On every bar expressions find the variable untouched up to the first assignment to it. -/
def FoundUntouched (last : Option Value) (bars : List (List Moment)) : Prop :=
  ∀ older bar newer, bars = older ++ bar :: newer → ∃ slot,
    UntilAssigned name (RunState.Untouched name (latest name last older.flatten) slot) bar

theorem FoundUntouched.nil {last : Option Value} : FoundUntouched name last [] := by
  intro older bar newer parts
  cases older <;> cases parts

theorem FoundUntouched.afterwards {α : Type} {first : Eval α}
    {next : α → RunState → List (List Moment)} {state : RunState} {last : Option Value}
    (rest : ∀ value after, Eval.outcome first state = (.ok value, after) →
      FoundUntouched name last (next value after)) :
    FoundUntouched name last (first.afterwards next state) := by
  unfold Eval.afterwards
  rcases ran : Eval.outcome first state with ⟨_ | value, after⟩
  · exact .nil name
  · exact rest value after ran

theorem FoundUntouched.cons {last : Option Value} {slot : Slot} {bar : List Moment}
    {newer : List (List Moment)}
    (first : UntilAssigned name (·.memory.slots.get? name = some (Memory.openSlot slot)) bar)
    (follows : slot.Follows last) (rest : FoundUntouched name (latest name last bar) newer) :
    FoundUntouched name last (bar :: newer) := by
  intro older visited behind parts
  cases older with
  | nil =>
    cases parts
    exact ⟨slot, fun before state after split unassigned =>
      ⟨first before state after split unassigned, follows⟩⟩
  | cons oldest older =>
    cases parts
    obtain ⟨slot, untouched⟩ := rest older visited behind rfl
    rw [← latest_append] at untouched
    exact ⟨slot, untouched⟩

theorem RunState.get?_openBar (state : RunState) (candle : Candle) :
    (state.openBar candle).memory.slots.get? name =
      (state.memory.slots.get? name).map Memory.openSlot :=
  Table.get?_map _ _ _

theorem RunState.openBar_slot (state : RunState) (candle : Candle) {slot : Slot}
    (found : state.memory.slots.get? name = some slot) :
    (state.openBar candle).memory.slots.get? name = some (Memory.openSlot slot) := by
  rw [get?_openBar, found, Option.map_some]

end Tracking

namespace Script

variable (script : Script) (overrides : Table String Float) (name : String)

theorem barMoments_foundUntouched (candles : List Candle) (state : RunState)
    (last : Option Value) (slot : Slot) (found : state.memory.slots.get? name = some slot)
    (follows : slot.Follows last) :
    FoundUntouched name last (script.barMoments overrides candles state) := by
  induction candles generalizing state last slot with
  | nil => exact .nil name
  | cons candle newer ih =>
    have opened := state.openBar_slot name candle found
    have onBar := momentsOfAll_untilAssigned overrides name script.program.statements _ last _
      opened follows.openSlot
    refine .cons name onBar follows (.afterwards name fun _ after ran => ?_)
    obtain ⟨next, known, nextFollows, _⟩ := executeAll_followed overrides name _ _ after last _
      opened follows.openSlot ran
    exact ih after _ next known nextFollows

theorem heading_slots {state final : RunState} {heading : String × Bool}
    (ran : Eval.outcome (script.heading overrides) state = (.ok heading, final)) :
    final.memory.slots = state.memory.slots := by
  unfold Script.heading at ran
  cases declared : script.program.declaration with
  | none =>
    rw [declared] at ran
    cases ran
    rfl
  | some declaration =>
    rw [declared] at ran
    exact (declaration.evaluate_moves overrides).keeps
      (·.memory.slots = state.memory.slots) (fun _ _ step same => step.slots.trans same) ran rfl

/-- Before the first bar the variables of a script have no value on any bar. -/
theorem initial_slot (assignable : name ∈ script.assignedNames)
    (notField : PriceField.ofName? name = none) :
    script.initial.memory.slots.get? name = some (.numeric []) := by
  have kept : name ∈ script.assignedNames.filter (PriceField.ofName? · |>.isNone) :=
    List.mem_filter.mpr ⟨assignable, by rw [notField]; rfl⟩
  exact Table.get?_map_const name _ _ kept

theorem moments_foundUntouched (window : List Candle) (assignable : name ∈ script.assignedNames)
    (notField : PriceField.ofName? name = none) :
    FoundUntouched name none (script.moments overrides window) := by
  unfold Script.moments
  cases window.reverse with
  | nil => exact .nil name
  | cons oldest newer =>
    have opened := script.initial.openBar_slot name oldest
      (script.initial_slot name assignable notField)
    have empty : (Slot.numeric []).Follows none := .numeric [] nofun
    refine .cons name (.evaluation opened (.afterwards fun _ declared headed => ?_)) empty
      (.afterwards name fun _ declared headed => .afterwards name fun _ after ran => ?_)
    all_goals have known := script.heading_slots overrides headed ▸ opened
    · exact momentsOfAll_untilAssigned overrides name _ declared none _ known empty.openSlot
    · obtain ⟨next, known, nextFollows, _⟩ := executeAll_followed overrides name _ _ after none _
        known empty.openSlot ran
      have assignedLast := script.barMoments_foundUntouched overrides name newer after _ next known
        nextFollows
      rwa [latest, Eval.afterwards_of_ok _ headed]

/-- On a bar, a variable that has not been assigned to there reads as `na`. Only a string or a
color is kept from the bar on which the variable was last assigned to. -/
theorem read_before_assignment (window : List Candle) (older newer : List (List Moment))
    (before after : List Moment) (state reached : RunState)
    (bars : script.moments overrides window =
      older ++ (before ++ .evaluation state :: after) :: newer)
    (assignable : name ∈ script.assignedNames) (notField : PriceField.ofName? name = none)
    (unassigned : NotAssigned name before)
    (during : ReflTransGen (RunState.Step overrides) state reached) :
    ∃ value, (∀ context span, Eval.outcome ((Expr.name name span).evaluate context) reached =
        (.ok value, reached)) ∧
      value.CarriedOver (latest name none older.flatten) := by
  obtain ⟨slot, untouched⟩ :=
    script.moments_foundUntouched overrides name window assignable notField older _ newer bars
  have atStart := untouched before state after rfl unassigned
  have slots : reached.memory.slots = state.memory.slots := by
    clear bars
    induction during with
    | refl => rfl
    | tail _ last ih => exact last.slots.trans ih
  have atRead : reached.Untouched name (latest name none older.flatten) slot :=
    ⟨slots ▸ atStart.found, atStart.follows⟩
  obtain ⟨value, loaded, carried⟩ := atRead.load
  exact ⟨value, fun _ _ => loaded, carried⟩

/-- Assigns a text on some bars only. -/
def sometimesText : String :=
  "if close > 1\n  x = \"a\"\nplot(na(x) ? 1 : 0)"

/-- The text is assigned on the older of two bars. -/
def fallingCandles : List Candle :=
  [⟨2, 1.0, 1.0, 1.0, 1.0, 1.0⟩, ⟨1, 2.0, 2.0, 2.0, 2.0, 1.0⟩]

def isText (text : String) : Option Value → Bool
  | some (.string given) => given = text
  | _ => false

theorem eq_of_isText {text : String} {value : Option Value} (same : isText text value = true) :
    value = some (.string text) := by
  unfold isText at same
  split at same
  · rw [of_decide_eq_true same]
  · cases same

/-- On the newer of two bars a condition and a plot are evaluated, nothing is assigned, and the
variable has the text from the older one. -/
def keepsText (name text : String) : List (List Moment) → Bool
  | [oldest, [.evaluation _, .evaluation state]] =>
    isText text (latest name none oldest) && isText text (state.memory.load? name)
  | _ => false

theorem moments_sometimesText :
    ∃ script oldest condition state, Script.ofSource? sometimesText = some script ∧
      "x" ∈ script.assignedNames ∧
      script.moments [] fallingCandles =
        [oldest] ++ ([.evaluation condition] ++ .evaluation state :: []) :: [] ∧
      latest "x" none oldest = some (.string "a") ∧
      state.memory.load? "x" = some (.string "a") := by
  have runs : (Script.ofSource? sometimesText).any fun script =>
      decide ("x" ∈ script.assignedNames) &&
        keepsText "x" "a" (script.moments [] fallingCandles) := by decide +kernel
  obtain ⟨script, prepared, runs⟩ := (Option.any_eq_true _ _).mp runs
  rw [Bool.and_eq_true, decide_eq_true_eq] at runs
  obtain ⟨assignable, runs⟩ := runs
  unfold keepsText at runs
  split at runs
  case h_2 => cases runs
  case h_1 oldest condition state bars =>
    rw [Bool.and_eq_true] at runs
    exact ⟨script, oldest, condition, state, prepared, assignable, bars, eq_of_isText runs.1,
      eq_of_isText runs.2⟩

theorem notAssigned_evaluation (state : RunState) : NotAssigned name [.evaluation state] := by
  intro value member
  cases List.mem_singleton.mp member

theorem read_before_assignment_text :
    ∃ script oldest condition state value, Script.ofSource? sometimesText = some script ∧
      script.moments [] fallingCandles =
        [oldest] ++ ([.evaluation condition] ++ .evaluation state :: []) :: [] ∧
      (∀ context span, Eval.outcome ((Expr.name "x" span).evaluate context) state =
        (.ok value, state)) ∧ value = .string "a" := by
  obtain ⟨script, oldest, condition, state, prepared, assignable, bars, assigned, _⟩ :=
    moments_sometimesText
  obtain ⟨value, loaded, carried⟩ := script.read_before_assignment [] "x" fallingCandles [oldest]
    [] [.evaluation condition] [] state state bars assignable (by decide)
    (notAssigned_evaluation "x" condition) .refl
  rw [List.flatten_singleton, assigned] at carried
  exact ⟨script, oldest, condition, state, value, prepared, bars, loaded, carried⟩

/-- A variable that was given a text on an older bar is not `na` where nothing is assigned. -/
theorem text_read_before_assignment :
    ∃ script older before state after newer value,
      Script.ofSource? sometimesText = some script ∧ "x" ∈ script.assignedNames ∧
      script.moments [] fallingCandles = older ++ (before ++ .evaluation state :: after) :: newer ∧
      NotAssigned "x" before ∧
      Eval.outcome ((Expr.name "x" ⟨0, 0, 1, 1⟩).evaluate ⟨[], none⟩) state = (.ok value, state) ∧
      value.isNa = false := by
  obtain ⟨script, oldest, condition, state, prepared, assignable, bars, _, known⟩ :=
    moments_sometimesText
  exact ⟨script, [oldest], [.evaluation condition], state, [], [], .string "a", prepared,
    assignable, bars, notAssigned_evaluation "x" condition, Eval.load_of_known known, rfl⟩

end Script

end ChartScript
