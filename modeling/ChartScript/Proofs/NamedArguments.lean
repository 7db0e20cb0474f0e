import ChartScript.Proofs.Outcome

/-!
# Named arguments behind positional ones

A parameter that a position passes is not looked up by its name, so a named argument for it can be
left out. `Builtin.SameFor` says what a function looks up at all, and that it finds the same in two
lists of arguments. Signals are the exception, and an alert on a message with its title: they look
the name up first.
-/

set_option autoImplicit false

namespace ChartScript

open Eval

namespace Builtin

/-- The parameters that a function takes by their positions. Of what `max` and `min` combine only
the first value has a name, and a signal takes nothing by its position, but by the type of what is
passed. -/
def parameters : Builtin → List String
  | plot => ["series", "title", "color", "linewidth"]
  | hline => ["price", "title", "color", "linestyle"]
  | plotShape => ["series", "title", "style", "location", "color"]
  | plotChar => ["series", "title", "char", "location", "color"]
  | backgroundColor => ["color"]
  | alert => ["condition", "title", "message"]
  | strategyEntry => ["id", "direction"]
  | strategyLong | strategyShort | strategyClose => []
  | input => ["defval", "title"]
  | sma | ema | rsi | stdev | highest | lowest | change => ["source", "length"]
  | crossover | crossunder => ["source", "source"]
  | nz => ["source", "replacement"]
  | na => ["source"]
  | abs | max | min => ["x"]
  | colorNew => ["color", "transp"]

def isSignal : Builtin → Bool
  | strategyLong | strategyShort | strategyClose => true
  | _ => false

/-- A positional argument passes a parameter: the one at its position, and to a signal its id if it
is a string, and its condition if it is a number or a truth value. -/
inductive Passes (builtin : Builtin) (arguments : List Expr) : String → Prop
  | position {position : Nat} {name : String} (within : position < arguments.length)
      (declared : builtin.parameters[position]? = some name) : Passes builtin arguments name
  | id {text : String} {span : Span} (signal : builtin.isSignal = true)
      (passed : .string text span ∈ arguments) : Passes builtin arguments "id"
  | condition {value : Bool} {span : Span} (signal : builtin.isSignal = true)
      (passed : .boolean value span ∈ arguments) : Passes builtin arguments "when"
  | number {value : Float} {span : Span} (signal : builtin.isSignal = true)
      (passed : .number value span ∈ arguments) : Passes builtin arguments "when"

/-- The function looks a parameter up by its name although a position passes it. -/
def prefersNamed : Builtin → List Expr → String → Bool
  | alert, .string _ _ :: _, name => name = "title"
  | builtin, _, _ => builtin.isSignal

end Builtin

/-- A function finds the same in two lists of arguments: at the positions of its parameters behind
the series, and under the names that are none of those. -/
structure Builtin.SameFor (builtin : Builtin) (first second : Arguments) : Prop where
  function : first.function = second.function
  positional : first.positional = second.positional
  position : ∀ {position : Nat} {name : String}, builtin.parameters[position]? = some name →
    builtin.seriesArity ≤ position → first.get? position name = second.get? position name
  named : ∀ name : String, name ∉ builtin.parameters →
    first.named? name = second.named? name
  /-- The title of an alert on a message is looked up by its name only. -/
  message : builtin = .alert → ∀ {text : String},
    first.get? 0 "condition" = some (.string text) → first.named? "title" = second.named? "title"

namespace Builtin.SameFor

variable {builtin : Builtin} {first second : Arguments} (same : builtin.SameFor first second)

include same

/-! Typed parameters. -/

section Position

variable (position : Nat) (name : String) (declared : builtin.parameters[position]? = some name)
  (behind : builtin.seriesArity ≤ position)

include declared behind

theorem required : first.required position name = second.required position name := by
  simp only [Arguments.required, same.position declared behind, same.function]

theorem requiredNumber :
    first.requiredNumber position name = second.requiredNumber position name := by
  simp only [Arguments.requiredNumber, same.required position name declared behind,
    Arguments.operation, same.function]

theorem number? : first.number? position name = second.number? position name := by
  simp only [Arguments.number?, same.position declared behind, Arguments.operation, same.function]

theorem string? : first.string? position name = second.string? position name := by
  simp only [Arguments.string?, same.position declared behind, Arguments.readString,
    Arguments.operation, same.function]

theorem color? : first.color? position name = second.color? position name := by
  simp only [Arguments.color?, same.position declared behind, Arguments.readColor,
    Arguments.operation, same.function]

theorem length : first.length position name = second.length position name := by
  simp only [Arguments.length, same.requiredNumber position name declared behind, same.function]

end Position

theorem namedString? {name : String} (found : first.named? name = second.named? name) :
    first.namedString? name = second.namedString? name := by
  simp only [Arguments.namedString?, found, Arguments.readString, Arguments.operation,
    same.function]

theorem namedFlag? {name : String} (found : first.named? name = second.named? name) :
    first.namedFlag? name = second.namedFlag? name := by
  simp only [Arguments.namedFlag?, found, Arguments.readFlag, Arguments.operation, same.function]

end Builtin.SameFor

/-! ## What functions do -/

/-- The function that draws markers of a kind. -/
def MarkerKind.builtin : MarkerKind → Builtin
  | shape => .plotShape
  | character => .plotChar

namespace Builtin.SameFor

variable {builtin : Builtin} {first second : Arguments} {context : Context}

theorem plot (same : Builtin.plot.SameFor first second) (recorder : Recorder) (site : Nat) :
    recorder.plot site first = recorder.plot site second := by
  have series := same.requiredNumber 0 "series" rfl (Nat.zero_le 0)
  have title := same.string? 1 "title" rfl (Nat.zero_le 1)
  have color := same.color? 2 "color" rfl (Nat.zero_le 2)
  have width := same.number? 3 "linewidth" rfl (Nat.zero_le 3)
  simp only [Recorder.plot, series, title, color, width]

theorem line (same : hline.SameFor first second) (recorder : Recorder) (site : Nat) :
    recorder.line site first = recorder.line site second := by
  have price := same.requiredNumber 0 "price" rfl (Nat.zero_le 0)
  have title := same.string? 1 "title" rfl (Nat.zero_le 1)
  have color := same.color? 2 "color" rfl (Nat.zero_le 2)
  have style := same.string? 3 "linestyle" rfl (Nat.zero_le 3)
  simp only [Recorder.line, Recorder.lineStyle, price, title, color, style]

theorem markerStyle {kind : MarkerKind} (same : kind.builtin.SameFor first second) :
    Recorder.markerStyle kind first = Recorder.markerStyle kind second := by
  cases kind with
  | shape =>
    have style := same.string? 2 "style" rfl (Nat.zero_le 2)
    have text := same.namedString? (same.named "text" (by decide))
    simp only [Recorder.markerStyle, style, text]
  | character =>
    have character := same.string? 2 "char" rfl (Nat.zero_le 2)
    simp only [Recorder.markerStyle, character]

theorem marker {kind : MarkerKind} (same : kind.builtin.SameFor first second) (recorder : Recorder)
    (bar : Nat) : recorder.marker bar kind first = recorder.marker bar kind second := by
  have declared : kind.builtin.parameters[0]? = some "series" ∧
      kind.builtin.parameters[3]? = some "location" ∧
      kind.builtin.parameters[4]? = some "color" ∧ kind.builtin.seriesArity = 0 := by
    cases kind <;> decide
  obtain ⟨isSeries, isLocation, isColor, noSeries⟩ := declared
  have series := same.required 0 "series" isSeries (noSeries ▸ Nat.zero_le 0)
  have location := same.string? 3 "location" isLocation (noSeries ▸ Nat.zero_le 3)
  have color := same.color? 4 "color" isColor (noSeries ▸ Nat.zero_le 4)
  simp only [Recorder.marker, series, same.markerStyle, location, color, Arguments.operation,
    same.function]

theorem background (same : backgroundColor.SameFor first second) (recorder : Recorder)
    (bar : Nat) : recorder.background bar first = recorder.background bar second := by
  have given := same.required 0 "color" rfl (Nat.zero_le 0)
  have color := same.color? 0 "color" rfl (Nat.zero_le 0)
  simp only [Recorder.background, given, color]

/-- On a message only the named title counts, and otherwise the positions. -/
theorem alertParts (same : Builtin.alert.SameFor first second) (recorder : Recorder) :
    recorder.alertParts first = recorder.alertParts second := by
  have condition := same.required 0 "condition" rfl (Nat.zero_le 0)
  have title := same.string? 1 "title" rfl (Nat.zero_le 1)
  have message := same.string? 2 "message" rfl (Nat.zero_le 2)
  unfold Recorder.alertParts
  rw [← condition]
  cases given : first.get? 0 "condition" with
  | none => simp only [Arguments.required, given, bind, Except.bind]
  | some value =>
    simp only [Arguments.required, given, bind, Except.bind]
    cases value with
    | string text => rw [same.namedString? (same.message rfl given)]
    | number | boolean | color =>
      simp only [title, message, Arguments.operation, same.function]

theorem alert (same : Builtin.alert.SameFor first second) (recorder : Recorder) (site bars : Nat) :
    recorder.alert site bars first = recorder.alert site bars second := by
  simp only [Recorder.alert, same.alertParts]

theorem entry (same : strategyEntry.SameFor first second) (recorder : Recorder) (bar : Nat) :
    recorder.entry bar first = recorder.entry bar second := by
  have id := same.string? 0 "id" rfl (Nat.zero_le 0)
  have direction := same.string? 1 "direction" rfl (Nat.zero_le 1)
  have holds := same.namedFlag? (same.named "when" (by decide))
  simp only [Recorder.entry, id, direction, holds]

theorem input (same : Builtin.input.SameFor first second) (site : Nat) :
    Eval.input context site first = Eval.input context site second := by
  have default := same.requiredNumber 0 "defval" rfl (Nat.zero_le 0)
  have title := same.string? 1 "title" rfl (Nat.zero_le 1)
  simp only [Eval.input, Arguments.input, default, title]

/-- An indicator looks up its length, if it has one. -/
theorem indicator (same : builtin.SameFor first second) (isSeries : builtin.isSeries = true)
    (site : Nat) (sources : List (Series Float)) :
    Eval.indicator builtin site sources first = Eval.indicator builtin site sources second := by
  cases builtin
  case crossover | crossunder => rfl
  case sma | ema | rsi | stdev | highest | lowest | change =>
    have given := @same.position 1 "length" rfl (Nat.le_refl 1)
    have length := same.length 1 "length" rfl (Nat.le_refl 1)
    simp only [Eval.indicator, given, length]
  all_goals cases isSeries

theorem extreme (same : builtin.SameFor first second) (choose : Float → Float → Float) :
    first.extreme choose = second.extreme choose := by
  simp only [Arguments.extreme, Arguments.values, same.positional, Arguments.operation,
    same.function]

theorem compute (same : builtin.SameFor first second) :
    builtin.compute first = builtin.compute second := by
  cases builtin
  case nz =>
    have source := same.required 0 "source" rfl (Nat.zero_le 0)
    have replacement := same.number? 1 "replacement" rfl (Nat.zero_le 1)
    simp only [Builtin.compute, source, replacement]
  case na =>
    have source := same.required 0 "source" rfl (Nat.zero_le 0)
    simp only [Builtin.compute, source]
  case abs =>
    have number := same.requiredNumber 0 "x" rfl (Nat.zero_le 0)
    simp only [Builtin.compute, number]
  case max | min => simp only [Builtin.compute, same.extreme]
  case colorNew =>
    have transparency := same.number? 1 "transp" rfl (Nat.zero_le 1)
    have color := same.color? 0 "color" rfl (Nat.zero_le 0)
    simp only [Builtin.compute, transparency, color]
  all_goals rfl

theorem apply (same : builtin.SameFor first second) (unsignalled : builtin.isSignal = false)
    (site : Nat) (sources : List (Series Float)) :
    builtin.apply context site sources first = builtin.apply context site sources second := by
  unfold Builtin.apply
  cases isSeries : builtin.isSeries with
  | true => simp only [if_true, same.indicator isSeries]
  | false =>
    simp only [Bool.false_eq_true, if_false]
    cases builtin
    case strategyLong | strategyShort | strategyClose => cases unsignalled
    case plot => simp only [same.plot]
    case hline => simp only [same.line]
    case plotShape => simp only [@marker _ _ .shape same]
    case plotChar => simp only [@marker _ _ .character same]
    case backgroundColor => simp only [same.background]
    case alert => simp only [same.alert]
    case strategyEntry => simp only [same.entry]
    case input => simp only [same.input]
    all_goals simp only [same.compute]

end Builtin.SameFor

namespace Expr

def literal? : Expr → Option Value
  | number value _ => some (.number value)
  | string text _ => some (.string text)
  | boolean value _ => some (.boolean value)
  | color value _ => some (.color value)
  | _ => none

theorem evaluate_literal {expr : Expr} {value : Value} (literal : expr.literal? = some value)
    (context : Context) : expr.evaluate context = pure value := by
  cases expr <;> cases literal <;> rfl

/-- What positional literals pass behind the first `skipped`. -/
def positionalValues : Nat → List Expr → List (Option Value)
  | _, [] => []
  | skipped + 1, _ :: arguments => none :: positionalValues skipped arguments
  | 0, argument :: arguments => argument.literal? :: positionalValues 0 arguments

theorem evaluatePositional_literals (context : Context) (skipped : Nat) (arguments : List Expr)
    (literals : ∀ argument ∈ arguments, argument.literal?.isSome = true) :
    evaluatePositional context skipped arguments =
      pure (positionalValues skipped arguments) := by
  induction skipped, arguments using positionalValues.induct with
  | case1 skipped => rfl
  | case2 skipped argument arguments ih =>
    rw [evaluatePositional, ih fun other member => literals other (.tail _ member), pure_bind]
    rfl
  | case3 argument arguments ih =>
    obtain ⟨value, literal⟩ := Option.isSome_iff_exists.mp (literals argument (.head _))
    rw [evaluatePositional, evaluate_literal literal, pure_bind,
      ih fun other member => literals other (.tail _ member), pure_bind, positionalValues, literal]

theorem positionalValues_behind {skipped position : Nat} (arguments : List Expr)
    (behind : skipped ≤ position) :
    (positionalValues skipped arguments)[position]? = arguments[position]?.map literal? := by
  induction skipped, arguments using positionalValues.induct generalizing position with
  | case1 skipped => rfl
  | case2 skipped argument arguments ih =>
    cases position with
    | zero => cases behind
    | succ position => exact ih (Nat.le_of_succ_le_succ behind)
  | case3 argument arguments ih =>
    cases position with
    | zero => rfl
    | succ position => exact ih (Nat.zero_le position)

end Expr

/-- The arguments are literals. -/
structure Call.OnLiterals (call : Call) : Prop where
  positional : ∀ argument ∈ call.arguments, argument.literal?.isSome = true
  named : ∀ argument ∈ call.named, argument.value.literal?.isSome = true

namespace NamedArgument

/-- What a named literal passes. -/
def passed? (argument : NamedArgument) : Option (String × Value) :=
  argument.value.literal?.map (argument.name, ·)

theorem evaluateAll_literals (context : Context) (arguments : List NamedArgument)
    (literals : ∀ argument ∈ arguments, argument.value.literal?.isSome = true) :
    evaluateAll context arguments = pure (arguments.filterMap passed?) := by
  induction arguments with
  | nil => rfl
  | cons argument arguments ih =>
    obtain ⟨name, expr, span⟩ := argument
    obtain ⟨value, literal⟩ := Option.isSome_iff_exists.mp (literals _ (.head _))
    have literal : expr.literal? = some value := literal
    have passed : passed? (.mk name expr span) = some (name, value) :=
      congrArg (Option.map (name, ·)) literal
    rw [evaluateAll, Expr.evaluate_literal literal, pure_bind,
      ih fun other member => literals other (.tail _ member), pure_bind,
      List.filterMap_cons_some passed]

end NamedArgument

/-! ## Leaving a named argument out -/

theorem Arguments.named?_without {function : String} {positional : List (Option Value)}
    {before after : List (String × Value)} {name other : String} (value : Value)
    (different : other ≠ name) :
    (Arguments.mk function positional (before ++ (name, value) :: after)).named? other =
      (Arguments.mk function positional (before ++ after)).named? other := by
  have skipped : decide (name = other) = false := decide_eq_false different.symm
  simp only [Arguments.named?, List.find?_append, List.find?_cons, skipped]

namespace Builtin

/-- Behind the series no two parameters have the same name. -/
theorem parameters_injective {builtin : Builtin} {name : String} {first second : Nat}
    (declaredFirst : builtin.parameters[first]? = some name)
    (declaredSecond : builtin.parameters[second]? = some name)
    (behind : builtin.seriesArity ≤ second) : first = second := by
  have firstWithin := (List.getElem?_eq_some_iff.mp declaredFirst).1
  have secondWithin := (List.getElem?_eq_some_iff.mp declaredSecond).1
  have distinct : builtin.parameters.Nodup ∨ builtin.parameters.length ≤ builtin.seriesArity := by
    cases builtin <;> decide
  rcases distinct with distinct | series
  · exact (List.getElem?_inj firstWithin distinct).mp (declaredFirst.trans declaredSecond.symm)
  · omega

theorem unsignalled_of_prefersNamed {builtin : Builtin} {arguments : List Expr} {name : String}
    (positionFirst : builtin.prefersNamed arguments name = false) : builtin.isSignal = false := by
  cases builtin
  case strategyLong | strategyShort | strategyClose => cases positionFirst
  all_goals rfl

theorem Passes.declared {builtin : Builtin} {arguments : List Expr} {name : String}
    (passes : builtin.Passes arguments name) (unsignalled : builtin.isSignal = false) :
    ∃ position < arguments.length, builtin.parameters[position]? = some name := by
  cases passes with
  | position within declared => exact ⟨_, within, declared⟩
  | id signal | condition signal | number signal =>
    rw [unsignalled] at signal
    cases signal

/-- A passed parameter is found at its position. -/
theorem sameFor_without {builtin : Builtin} {function name : String} {arguments : List Expr}
    {before after : List (String × Value)} (value : Value)
    (literals : ∀ argument ∈ arguments, argument.literal?.isSome = true)
    (passes : builtin.Passes arguments name)
    (positionFirst : builtin.prefersNamed arguments name = false) :
    builtin.SameFor
      ⟨function, Expr.positionalValues builtin.seriesArity arguments,
        before ++ (name, value) :: after⟩
      ⟨function, Expr.positionalValues builtin.seriesArity arguments, before ++ after⟩ := by
  obtain ⟨passed, within, declared⟩ :=
    passes.declared (unsignalled_of_prefersNamed positionFirst)
  refine ⟨rfl, rfl, ?position, ?named, ?message⟩
  case position =>
    intro position other otherDeclared behind
    have found := Expr.positionalValues_behind arguments behind
    by_cases inside : position < arguments.length
    · obtain ⟨value, literal⟩ := Option.isSome_iff_exists.mp
        (literals _ (List.getElem_mem inside))
      rw [List.getElem?_eq_getElem inside, Option.map_some, literal] at found
      simp only [Arguments.get?, found]
    · rw [List.getElem?_eq_none (Nat.le_of_not_lt inside), Option.map_none] at found
      have different : other ≠ name := by
        rintro rfl
        exact inside (parameters_injective declared otherDeclared behind ▸ within)
      simp only [Arguments.get?, found, Arguments.named?_without value different]
  case named =>
    intro other unplaced
    refine Arguments.named?_without value ?_
    rintro rfl
    exact unplaced (List.mem_of_getElem? declared)
  case message =>
    rintro rfl text given
    refine Arguments.named?_without value ?_
    rintro rfl
    cases arguments with
    | nil => cases within
    | cons condition rest =>
      obtain ⟨value, literal⟩ := Option.isSome_iff_exists.mp (literals _ (.head _))
      have isString : value = .string text := by
        simpa [Arguments.get?, seriesArity, Expr.positionalValues, literal] using given
      subst isString
      cases condition <;> cases literal
      cases positionFirst

end Builtin

namespace Call

/-- A named argument for a parameter that a position passes can be left out, unless the function
prefers the named one. -/
theorem evaluate_without_named {builtin : Builtin} {function : String} {site : Nat}
    {arguments : List Expr} {before after : List NamedArgument} {repeated : NamedArgument}
    (known : Builtin.ofName? function = some builtin)
    (literals : (Call.mk function site arguments (before ++ repeated :: after)).OnLiterals)
    (passes : builtin.Passes arguments repeated.name)
    (positionFirst : builtin.prefersNamed arguments repeated.name = false)
    (context : Context) (state : RunState) :
    outcome ((Call.mk function site arguments (before ++ repeated :: after)).evaluate context)
        state =
      outcome ((Call.mk function site arguments (before ++ after)).evaluate context) state := by
  have positional := Expr.evaluatePositional_literals context builtin.seriesArity arguments
    literals.positional
  have allNamed := NamedArgument.evaluateAll_literals context (before ++ repeated :: after)
    literals.named
  have otherNamed := NamedArgument.evaluateAll_literals context (before ++ after)
    fun argument member => literals.named argument <|
      List.mem_append.mpr ((List.mem_append.mp member).imp id (List.mem_cons_of_mem _))
  obtain ⟨value, literal⟩ := Option.isSome_iff_exists.mp
    (literals.named repeated (List.mem_append_cons_self))
  have passed : repeated.passed? = some (repeated.name, value) := by
    rw [NamedArgument.passed?, literal, Option.map_some]
  rw [List.filterMap_append, List.filterMap_cons_some passed] at allNamed
  rw [List.filterMap_append] at otherNamed
  have same := @Builtin.sameFor_without builtin function repeated.name arguments
    (before.filterMap NamedArgument.passed?) (after.filterMap NamedArgument.passed?) value
    literals.positional passes positionFirst
  have unsignalled := Builtin.unsignalled_of_prefersNamed positionFirst
  simp only [evaluate, known, positional, allNamed, otherNamed, pure_bind,
    same.apply unsignalled]

/-- A state before the first bar. -/
def unrecorded : RunState := ⟨.empty [] 1, .empty⟩

theorem evaluate_without_named_title :
    outcome ((Call.mk "plot" 0 [.number 1 ⟨5, 6, 1, 6⟩, .string "A" ⟨8, 11, 1, 9⟩]
      [.mk "title" (.string "B" ⟨19, 22, 1, 20⟩) ⟨13, 22, 1, 14⟩]).evaluate ⟨[], none⟩) unrecorded =
    outcome ((Call.mk "plot" 0 [.number 1 ⟨5, 6, 1, 6⟩, .string "A" ⟨8, 11, 1, 9⟩]
      []).evaluate ⟨[], none⟩) unrecorded := by
  have passes : Builtin.plot.Passes [.number 1 ⟨5, 6, 1, 6⟩, .string "A" ⟨8, 11, 1, 9⟩] "title" :=
    .position (Nat.lt_succ_self 1) rfl
  exact @evaluate_without_named .plot _ _ _ [] [] _ rfl (by constructor <;> decide) passes rfl _ _

/-- A signal does not draw where its condition is false by name, and true at a position. -/
theorem evaluate_without_named_signal :
    ¬ ∀ (builtin : Builtin) (function : String) (site : Nat) (arguments : List Expr)
      (before after : List NamedArgument) (repeated : NamedArgument),
      Builtin.ofName? function = some builtin →
      (Call.mk function site arguments (before ++ repeated :: after)).OnLiterals →
      builtin.Passes arguments repeated.name →
      ∀ (context : Context) (state : RunState),
        outcome ((Call.mk function site arguments (before ++ repeated :: after)).evaluate context)
            state =
          outcome ((Call.mk function site arguments (before ++ after)).evaluate context) state := by
  intro claimed
  have same := claimed .strategyLong "strategy.long" 0 [.boolean true ⟨14, 18, 1, 15⟩] [] []
    (.mk "when" (.boolean false ⟨25, 30, 1, 26⟩) ⟨20, 30, 1, 21⟩) rfl (by constructor <;> decide)
    (.condition rfl (.head _)) ⟨[], none⟩ unrecorded
  have signals := congrArg (·.2.recorder.signals.size) same
  revert signals
  decide +kernel

end Call

end ChartScript
