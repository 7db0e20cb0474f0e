import ChartScript.Proofs.Outcome

/-!
# Errors of functions

What operators and functions can fail with. Their operands and arguments can be of a wrong kind or
out of range. Beyond that a function fails on a required argument only if it finds that argument
neither at its position nor under its name. For the id of an entry a missing value counts as no
argument.
-/

set_option autoImplicit false

namespace ChartScript

/-- All errors of a computation are among some. -/
def Raises {α : Type} (allowed : RunError → Prop) (result : Except RunError α) : Prop :=
  ∀ error, result = .error error → allowed error

namespace Raises

variable {α β : Type} {allowed : RunError → Prop}

theorem ok (value : α) : Raises allowed (.ok value) :=
  nofun

theorem error {failure : RunError} (isAllowed : allowed failure) :
    Raises allowed (.error failure : Except RunError α) := by
  rintro _ ⟨⟩
  exact isAllowed

/-- What comes behind a computation can rely on the value of it. -/
theorem bind_ok {result : Except RunError α} {next : α → Except RunError β}
    (raises : Raises allowed result)
    (rest : ∀ value, result = .ok value → Raises allowed (next value)) :
    Raises allowed (result >>= next) := by
  cases result with
  | error failure => exact error (raises failure rfl)
  | ok value => exact rest value rfl

theorem bind {result : Except RunError α} {next : α → Except RunError β}
    (raises : Raises allowed result) (rest : ∀ value, Raises allowed (next value)) :
    Raises allowed (result >>= next) :=
  bind_ok raises fun value _ => rest value

theorem map {result : Except RunError α} (view : α → β) (raises : Raises allowed result) :
    Raises allowed (view <$> result) := by
  cases result with
  | error failure => exact error (raises failure rfl)
  | ok value => exact ok _

theorem mono {others : RunError → Prop} {result : Except RunError α}
    (raises : Raises allowed result) (among : ∀ error, allowed error → others error) :
    Raises others result :=
  fun error failed => among error (raises error failed)

theorem mapM {items : List α} {compute : α → Except RunError β}
    (raises : ∀ item, Raises allowed (compute item)) : Raises allowed (items.mapM compute) := by
  induction items with
  | nil => exact ok []
  | cons item rest ih =>
    rw [List.mapM_cons]
    exact bind (raises item) fun _ => bind ih fun _ => ok _

end Raises

/-! ## Operands and arguments -/

/-- The errors that come from the values of operands. -/
inductive RunError.OfOperands : RunError → Prop
  | typeMismatch (operation : String) {expected got : ValueType} (differ : expected ≠ got) :
      OfOperands (.typeMismatch operation expected got)
  | invalidArgument (function argument explanation : String) :
      OfOperands (.invalidArgument function argument explanation)

/-- What reading arguments can fail with: a value of another type or out of range, or an argument
that is passed neither at its position nor by its name. -/
inductive Arguments.Fails (arguments : Arguments) : RunError → Prop
  | operands {error : RunError} (operands : error.OfOperands) : Fails arguments error
  | absent (position : Nat) {parameter : String}
      (absent : arguments.get? position parameter = none) :
      Fails arguments (.missingArgument arguments.function parameter)

/-- What a function can fail with on arguments that were evaluated. -/
inductive Builtin.Fails : Builtin → Arguments → RunError → Prop
  | arguments {builtin : Builtin} {arguments : Arguments} {error : RunError}
      (fails : arguments.Fails error) : Fails builtin arguments error
  /-- An entry needs the text of its id. -/
  | id {arguments : Arguments} (absent : arguments.string? 0 "id" = .ok none) :
      Fails .strategyEntry arguments (.missingArgument "strategy.entry" "id")

open RunError (OfOperands)

theorem Raises.ofOperands {α : Type} {arguments : Arguments} {result : Except RunError α}
    (raises : Raises OfOperands result) : Raises arguments.Fails result :=
  raises.mono fun _ => .operands

theorem Value.mismatch_ofOperands {value : Value} {expected : ValueType} (operation : String)
    (differ : expected ≠ value.type) : OfOperands (value.mismatch operation expected) :=
  .typeMismatch operation differ

theorem Value.asNumber_raises (value : Value) (operation : String) :
    Raises OfOperands (value.asNumber operation) := by
  cases value with
  | number | boolean => exact .ok _
  | string | color => exact .error (mismatch_ofOperands operation nofun)

theorem Value.truthy_raises (value : Value) (operation : String) :
    Raises OfOperands (value.truthy operation) := by
  cases value with
  | number | boolean => exact .ok _
  | string | color => exact .error (mismatch_ofOperands operation nofun)

theorem UnaryOp.apply_raises (op : UnaryOp) (operand : Value) :
    Raises OfOperands (op.apply operand) := by
  cases op with
  | negate => exact (operand.asNumber_raises _).map _
  | logicalNot => exact (operand.truthy_raises _).map _

namespace BinaryOp

theorem onNumbers_raises {α : Type} (op : BinaryOp) (left right : Value)
    (combine : Float → Float → α) : Raises OfOperands (op.onNumbers left right combine) :=
  .bind (left.asNumber_raises _) fun _ => .bind (right.asNumber_raises _) fun _ => .ok _

theorem areEqual_raises (op : BinaryOp) (left right : Value) :
    Raises OfOperands (op.areEqual left right) := by
  cases left <;> cases right
  -- Numbers and truth values can be compared, and so can values of one type.
  case number.number | number.boolean | boolean.number | boolean.boolean | string.string
    | color.color => exact .ok _
  all_goals exact .error (Value.mismatch_ofOperands op.symbol nofun)

theorem apply_raises (op : BinaryOp) (left right : Value) :
    Raises OfOperands (op.apply left right) := by
  cases op with
  | add =>
    have sum := (add.onNumbers_raises left right (· + ·)).map Value.number
    cases left <;> cases right
    case string.string => exact .ok _
    all_goals exact sum
  | subtract | multiply => exact (onNumbers_raises _ left right _).map _
  | divide | modulo => exact onNumbers_raises _ left right _
  | equal | notEqual => exact (areEqual_raises _ left right).map _
  | greater | greaterEqual | less | lessEqual => exact (onNumbers_raises _ left right _).map _
  | logicalAnd =>
    refine .bind (left.truthy_raises _) fun truth => ?_
    cases truth with
    | false => exact .ok _
    | true => exact (right.truthy_raises _).map _
  | logicalOr =>
    refine .bind (left.truthy_raises _) fun truth => ?_
    cases truth with
    | false => exact (right.truthy_raises _).map _
    | true => exact .ok _

end BinaryOp

theorem historyOffset_raises (offset : Float) : Raises OfOperands (historyOffset offset) := by
  unfold historyOffset
  split
  · exact .error (.invalidArgument ..)
  · exact .ok _

namespace Arguments

variable (arguments : Arguments) (position : Nat) (name : String)

theorem required_raises : Raises arguments.Fails (arguments.required position name) := by
  unfold required
  cases found : arguments.get? position name with
  | some value => exact .ok value
  | none => exact .error (.absent position found)

theorem requiredNumber_raises : Raises arguments.Fails (arguments.requiredNumber position name) :=
  .bind (arguments.required_raises position name) fun value => (value.asNumber_raises _).ofOperands

theorem number?_raises : Raises arguments.Fails (arguments.number? position name) := by
  unfold number?
  cases arguments.get? position name with
  | some value => exact (value.asNumber_raises _).ofOperands.map _
  | none => exact .ok none

theorem readFlag_raises (passed : Option Value) :
    Raises OfOperands (arguments.readFlag name passed) := by
  cases passed with
  | none => exact .ok none
  | some value => exact (value.truthy_raises _).map _

theorem readString_raises (passed : Option Value) :
    Raises OfOperands (arguments.readString name passed) := by
  rcases passed with _ | value
  · exact .ok none
  · cases value with
    | string text => exact .ok _
    | number | boolean | color =>
      simp only [readString]
      split
      · exact .ok none
      · exact .error (Value.mismatch_ofOperands _ nofun)

theorem readColor_raises (passed : Option Value) :
    Raises OfOperands (arguments.readColor name passed) := by
  rcases passed with _ | value
  · exact .ok none
  · cases value with
    | color color => exact .ok _
    | number | boolean | string =>
      simp only [readColor]
      split
      · exact .ok none
      · exact .error (Value.mismatch_ofOperands _ nofun)

theorem string?_raises : Raises arguments.Fails (arguments.string? position name) :=
  (arguments.readString_raises name _).ofOperands

theorem color?_raises : Raises arguments.Fails (arguments.color? position name) :=
  (arguments.readColor_raises name _).ofOperands

theorem length_raises : Raises arguments.Fails (arguments.length position name) := by
  refine .bind (arguments.requiredNumber_raises position name) fun length => ?_
  split
  · exact .error (.operands (.invalidArgument ..))
  · exact .ok _

theorem extreme_raises (choose : Float → Float → Float) :
    Raises arguments.Fails (arguments.extreme choose) := by
  refine .bind (.mapM fun value => (value.asNumber_raises _).ofOperands) fun numbers => ?_
  cases numbers with
  | nil | cons => exact .ok _

theorem input_raises (target : Option String) (site : Nat) :
    Raises arguments.Fails (arguments.input target site) :=
  .bind (arguments.requiredNumber_raises 0 "defval") fun _ =>
    .bind (arguments.string?_raises 1 "title") fun _ => .ok _

end Arguments

/-! ## Drawing and computing -/

namespace Recorder

variable (recorder : Recorder) (site bar bars : Nat) (arguments : Arguments)

theorem plot_raises : Raises arguments.Fails (recorder.plot site arguments) :=
  .bind (arguments.requiredNumber_raises 0 "series") fun _ =>
    .bind (arguments.string?_raises 1 "title") fun _ =>
    .bind (arguments.color?_raises 2 "color") fun _ =>
    .bind (arguments.number?_raises 3 "linewidth") fun _ => .ok _

theorem lineStyle_raises : Raises arguments.Fails (lineStyle arguments) := by
  refine .bind (arguments.string?_raises 3 "linestyle") fun style => ?_
  cases style with
  | none => exact .ok _
  | some name =>
    simp only
    cases LineStyle.ofName? name with
    | some style => exact .ok style
    | none => exact .error (.operands (.invalidArgument ..))

theorem line_raises : Raises arguments.Fails (recorder.line site arguments) := by
  unfold line
  cases Table.get? recorder.lines site with
  | some known => exact .ok recorder
  | none =>
    exact .bind (arguments.requiredNumber_raises 0 "price") fun _ =>
      .bind (arguments.string?_raises 1 "title") fun _ =>
      .bind (arguments.color?_raises 2 "color") fun _ =>
      .bind (lineStyle_raises arguments) fun _ => .ok _

theorem markerStyle_raises (kind : MarkerKind) : Raises arguments.Fails (markerStyle kind arguments) := by
  cases kind with
  | shape =>
    exact .bind (arguments.string?_raises 2 "style") fun _ =>
      .bind (arguments.readString_raises "text" _).ofOperands fun _ => .ok _
  | character => exact .bind (arguments.string?_raises 2 "char") fun _ => .ok _

theorem marker_raises (kind : MarkerKind) :
    Raises arguments.Fails (recorder.marker bar kind arguments) := by
  refine .bind (arguments.required_raises 0 "series") fun condition => ?_
  refine .bind (condition.truthy_raises _).ofOperands fun holds => ?_
  cases holds with
  | false => exact .ok _
  | true =>
    exact .bind (markerStyle_raises arguments kind) fun _ =>
      .bind (arguments.string?_raises 3 "location") fun _ =>
      .bind (arguments.color?_raises 4 "color") fun _ => .ok _

theorem background_raises : Raises arguments.Fails (recorder.background bar arguments) := by
  refine .bind (arguments.required_raises 0 "color") fun _ => ?_
  refine .bind (arguments.color?_raises 0 "color") fun color => ?_
  cases color with
  | none | some => exact .ok _

theorem alertParts_raises : Raises arguments.Fails (recorder.alertParts arguments) := by
  refine .bind (arguments.required_raises 0 "condition") fun condition => ?_
  cases condition with
  | string message => exact .bind (arguments.readString_raises "title" _).ofOperands fun _ => .ok _
  | number | boolean | color =>
    exact .bind (Value.truthy_raises _ _).ofOperands fun _ =>
      .bind (arguments.string?_raises 1 "title") fun _ =>
      .bind (arguments.string?_raises 2 "message") fun _ => .ok _

theorem alert_raises : Raises arguments.Fails (recorder.alert site bars arguments) :=
  .bind (recorder.alertParts_raises arguments) fun _ => .ok _

theorem entryKind_raises (direction : String) : Raises OfOperands (entryKind direction) := by
  unfold entryKind
  split
  · exact .ok _
  · exact .ok _
  · exact .error (.invalidArgument ..)

theorem entry_raises :
    Raises (Builtin.Fails .strategyEntry arguments) (recorder.entry bar arguments) := by
  refine .bind_ok ((arguments.string?_raises 0 "id").mono fun _ => .arguments) fun id read => ?_
  cases id with
  | none => exact .error (.id read)
  | some id =>
    refine .mono (?_ : Raises arguments.Fails _) fun _ => .arguments
    exact .bind (arguments.string?_raises 1 "direction") fun _ =>
      .bind (entryKind_raises _).ofOperands fun _ =>
      .bind (arguments.readFlag_raises "when" _).ofOperands fun _ => .ok _

theorem signalParts_raises (id : Option String) (holds : Option Bool) (values : List Value) :
    Raises arguments.Fails (signalParts arguments id holds values) := by
  fun_induction signalParts arguments id holds values with
  | case1 => exact .ok _
  | case2 holds text rest ih => exact ih
  | case3 id value rest other ih => exact .bind (value.truthy_raises _).ofOperands ih
  | case4 id holds value rest other ih => exact ih

theorem signal_raises (kind : SignalKind) :
    Raises arguments.Fails (recorder.signal bar kind arguments) :=
  .bind (arguments.readString_raises "id" _).ofOperands fun _ =>
    .bind (arguments.readFlag_raises "when" _).ofOperands fun _ =>
    .bind (signalParts_raises arguments _ _ _) fun _ => .ok _

end Recorder

theorem Builtin.compute_raises (builtin : Builtin) (arguments : Arguments) :
    Raises arguments.Fails (builtin.compute arguments) := by
  unfold Builtin.compute
  split
  · refine .bind (arguments.required_raises 0 "source") fun value => ?_
    split
    · exact .bind (arguments.number?_raises 1 "replacement") fun _ => .ok _
    · exact .ok _
  · exact .bind (arguments.required_raises 0 "source") fun _ => .ok _
  · exact .bind (arguments.requiredNumber_raises 0 "x") fun _ => .ok _
  · exact .bind (arguments.extreme_raises _) fun _ => .ok _
  · exact .bind (arguments.extreme_raises _) fun _ => .ok _
  · refine .bind (arguments.number?_raises 1 "transp") fun _ => ?_
    refine .bind (arguments.color?_raises 0 "color") fun color => ?_
    cases color with
    | none | some => exact .ok _
  · exact .ok _

end ChartScript
