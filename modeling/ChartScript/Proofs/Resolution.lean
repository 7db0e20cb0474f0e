import ChartScript.Proofs.ErrorOrigins
import ChartScript.Proofs.SiteNumbers

/-!
# Resolution of calls

Preparation looks at every call of a program except the declaration's own, also at those that no
run reaches. So a run of what has been prepared finds every function that it calls, and a variable
that it does not find is assigned to nowhere. As no two calls share a site, a table with one entry
for each site would find the same functions.
-/

set_option autoImplicit false

namespace ChartScript

def Expr.call? : Expr → Option Call
  | .call passed _ => some passed
  | _ => none

theorem Expr.call?_eq_some {expr : Expr} {call : Call} :
    expr.call? = some call ↔ ∃ span, expr = .call call span := by
  cases expr with
  | call found span => simp [call?, eq_comm]
  | _ => simp [call?]

theorem Call.inner_eq_of {function : String} {site : Nat} {arguments : List Expr}
    {named : List NamedArgument}
    (known : ∀ argument ∈ arguments, argument.calls = argument.parts.filterMap Expr.call?)
    (knownNamed : ∀ argument ∈ named,
      argument.value.calls = argument.value.parts.filterMap Expr.call?) :
    (Call.mk function site arguments named).inner =
      (Call.mk function site arguments named).parts.filterMap Expr.call? := by
  rw [Call.inner, Call.parts, Expr.callsOfAll_eq_flatMap, NamedArgument.callsOfAll_eq_flatMap,
    Expr.partsOfAll_eq_flatMap, NamedArgument.partsOfAll_eq_flatMap, List.filterMap_append,
    List.filterMap_flatMap, List.filterMap_flatMap, List.flatMap_congr known,
    List.flatMap_congr knownNamed]

theorem Expr.calls_eq_filterMap (expr : Expr) : expr.calls = expr.parts.filterMap Expr.call? := by
  induction expr with
  | number | string | boolean | color | name => rfl
  | member object name span known | unary op object span known => exact known
  | history left right site span known knownRight | binary left op right span known knownRight =>
    rw [calls, known, knownRight, parts, List.filterMap_cons_none rfl, List.filterMap_append]
  | ternary condition whenTrue whenFalse span known knownTrue knownFalse =>
    rw [calls, known, knownTrue, knownFalse, parts, List.filterMap_cons_none rfl,
      List.filterMap_append, List.filterMap_append]
  | call function site arguments named span known knownNamed =>
    rw [calls, Call.inner_eq_of known knownNamed]
    rfl

theorem Call.inner_eq_filterMap (call : Call) : call.inner = call.parts.filterMap Expr.call? := by
  obtain ⟨function, site, arguments, named⟩ := call
  exact inner_eq_of (fun _ _ => Expr.calls_eq_filterMap _) fun _ _ => Expr.calls_eq_filterMap _

theorem Statement.calls_eq_filterMap (statement : Statement) :
    statement.calls = statement.parts.filterMap Expr.call? := by
  induction statement with
  | assign name value span | expression value span => exact value.calls_eq_filterMap
  | ifThen condition thenBranch span known =>
    rw [calls, parts, List.filterMap_append, known, condition.calls_eq_filterMap]
  | ifThenElse condition thenBranch elseBranch span known knownElse =>
    rw [calls, parts, List.filterMap_append, List.filterMap_append, known, knownElse,
      condition.calls_eq_filterMap]

namespace Program

variable {program : Program}

theorem calls_eq_filterMap : program.calls = program.parts.filterMap Expr.call? := by
  rw [calls, parts, List.filterMap_append, List.filterMap_flatMap]
  refine congrArg₂ (· ++ ·) ?_ ?_
  case refine_2 => exact List.flatMap_congr fun statement _ => statement.calls_eq_filterMap
  cases program.declaration with
  | none => rfl
  | some declaration => exact declaration.call.inner_eq_filterMap

theorem mem_calls {call : Call} :
    call ∈ program.calls ↔ ∃ span, .call call span ∈ program.parts := by
  simp only [calls_eq_filterMap, List.mem_filterMap, Expr.call?_eq_some]
  constructor
  · rintro ⟨_, member, span, rfl⟩
    exact ⟨span, member⟩
  · rintro ⟨span, member⟩
    exact ⟨_, member, span, rfl⟩

theorem sites_of_calls_sublist (parts : List Expr) :
    ((parts.filterMap Expr.call?).map Call.site).Sublist (parts.filterMap Expr.site?) := by
  induction parts with
  | nil => exact .slnil
  | cons part rest ih =>
    cases part with
    | call call span => exact ih.cons_cons call.site
    | history series offset site span => exact ih.cons site
    | _ => exact ih

theorem calls_sites_sublist (program : Program) :
    (program.calls.map Call.site).Sublist program.sites := by
  rw [calls_eq_filterMap]
  exact (sites_of_calls_sublist _).trans program.sites_parts_sublist

theorem site_mem_sites {call : Call} (member : call ∈ program.calls) :
    call.site ∈ program.sites :=
  program.calls_sites_sublist.subset (List.mem_map_of_mem member)

end Program

theorem Expr.site_mem_sites {expr : Expr} {call : Call} (member : call ∈ expr.calls) :
    call.site ∈ expr.sites := by
  rw [calls_eq_filterMap] at member
  exact (Program.sites_of_calls_sublist _).subset (List.mem_map_of_mem member)

/-! ## Preparation -/

/-- The call names a function and passes as many arguments as the function needs. -/
def Call.Resolves (call : Call) : Prop :=
  ∃ builtin, Builtin.ofName? call.function = some builtin ∧
    builtin.minArguments ≤ call.argumentCount

theorem Call.check_eq_ok {call : Call} : call.check = .ok () ↔ call.Resolves := by
  unfold check Resolves
  cases Builtin.ofName? call.function with
  | none => simp
  | some builtin =>
    simp only
    split
    case isTrue fewer => simpa using fewer
    case isFalse enough => simpa using enough

theorem forM_eq_ok {α : Type} {items : List α} {check : α → Except RunError Unit} :
    items.forM check = .ok () ↔ ∀ item ∈ items, check item = .ok () := by
  induction items with
  | nil => simp [pure, Except.pure]
  | cons item rest ih =>
    have unfolded : (item :: rest).forM check = check item >>= fun _ => rest.forM check := rfl
    rw [unfolded, List.forall_mem_cons, ← ih]
    cases check item with
    | error failure => exact ⟨nofun, fun both => nomatch both.1⟩
    | ok _ => exact ⟨fun ran => ⟨rfl, ran⟩, fun both => both.2⟩

namespace Program

variable {program : Program} {script : Script}

theorem resolves_of_prepare (prepared : program.prepare = .ok script) :
    ∀ call ∈ program.calls, call.Resolves := by
  obtain ⟨_, checked, _⟩ := of_bind_ok prepared
  exact fun call member => Call.check_eq_ok.mp (forM_eq_ok.mp checked call member)

theorem prepare_of_resolves (resolves : ∀ call ∈ program.calls, call.Resolves) :
    program.prepare =
      .ok ⟨program, program.assignedNames, program.calls.filterMap Call.plot?⟩ := by
  have checked : program.calls.forM Call.check = .ok () :=
    forM_eq_ok.mpr fun call member => Call.check_eq_ok.mpr (resolves call member)
  rw [prepare, checked]
  rfl

theorem eq_of_prepare (prepared : program.prepare = .ok script) :
    script = ⟨program, program.assignedNames, program.calls.filterMap Call.plot?⟩ :=
  Except.ok.inj (prepared.symm.trans (prepare_of_resolves (resolves_of_prepare prepared)))

/-- The functions that the calls of a program name, under the sites of the calls. -/
def functions (program : Program) : Array (Option Builtin) :=
  program.calls.foldl
    (fun functions call => functions.setIfInBounds call.site (Builtin.ofName? call.function))
    (Array.replicate program.siteCount none)

end Program

section Functions

variable {functions : Array (Option Builtin)} {calls : List Call}

/-- What is entered for calls at other sites does not matter. -/
theorem getElem?_enter_of_notMem {site : Nat} (other : site ∉ calls.map Call.site) :
    (calls.foldl (fun functions call =>
      functions.setIfInBounds call.site (Builtin.ofName? call.function)) functions)[site]? =
      functions[site]? := by
  induction calls generalizing functions with
  | nil => rfl
  | cons call rest ih =>
    rw [List.map_cons, List.mem_cons, not_or] at other
    rw [List.foldl_cons, ih other.2, Array.getElem?_setIfInBounds_ne (Ne.symm other.1)]

theorem getElem?_enter {call : Call} (member : call ∈ calls)
    (nodup : (calls.map Call.site).Nodup) (within : call.site < functions.size) :
    (calls.foldl (fun functions call =>
      functions.setIfInBounds call.site (Builtin.ofName? call.function)) functions)[call.site]? =
      some (Builtin.ofName? call.function) := by
  induction calls generalizing functions with
  | nil => cases member
  | cons first rest ih =>
    rw [List.map_cons, List.nodup_cons] at nodup
    rw [List.foldl_cons]
    rcases List.mem_cons.mp member with rfl | behind
    · rw [getElem?_enter_of_notMem nodup.1, Array.getElem?_setIfInBounds_self_of_lt within]
    · exact ih behind nodup.2 (by rwa [Array.size_setIfInBounds])

end Functions

/-- The table has an entry for each call, and it is the call's own function. -/
theorem Program.functions_site {tokens : List Token} {program : Program}
    (parsed : parseTokens tokens = .ok program) {call : Call} (member : call ∈ program.calls) :
    program.functions[call.site]? = some (Builtin.ofName? call.function) := by
  have numbered := numbered_of_parseTokens parsed
  refine getElem?_enter member (numbered.nodup.sublist program.calls_sites_sublist) ?_
  rw [Array.size_replicate]
  exact List.mem_range.mp (numbered.perm_range.mem_iff.mp (site_mem_sites member))

/-! ## Errors of resolved calls -/

/-- The error is not that a function is unknown or has too few arguments, and if it is that a
variable is unknown, then the state has no value of that name. -/
structure RunError.OfResolved (stopped : RunState) (error : RunError) : Prop where
  notFunction : ∀ name, error ≠ .undefinedFunction name
  notArguments : ∀ function expected found, error ≠ .tooFewArguments function expected found
  notVariable : ∀ name, error = .undefinedVariable name →
    stopped.memory.load? name = none ∧ Value.constant? name = none

section Resolved

variable {stopped : RunState} {error : RunError}

theorem RunError.OfOperands.ofResolved (operands : error.OfOperands) : error.OfResolved stopped := by
  cases operands <;> exact ⟨nofun, nofun, nofun⟩

theorem Builtin.Fails.ofResolved {builtin : Builtin} {arguments : Arguments}
    (fails : builtin.Fails arguments error) : error.OfResolved stopped := by
  rcases fails with (operands | _) | _
  · exact operands.ofResolved
  · exact ⟨nofun, nofun, nofun⟩
  · exact ⟨nofun, nofun, nofun⟩

/-- A call whose function exists does not fail on its function. -/
theorem Call.FailsItself.ofResolved {context : Context} {call : Call} {state : RunState}
    (failed : call.FailsItself context state error stopped) (resolves : call.Resolves) :
    error.OfResolved stopped := by
  obtain ⟨builtin, found, _⟩ := resolves
  cases failed with
  | undefinedFunction unknown =>
    rw [found] at unknown
    cases unknown
  | missingSeries => exact ⟨nofun, nofun, nofun⟩
  | function _ _ failed => exact (Builtin.apply_stopsWith _ _ _ _ _ _ _ _ failed).ofResolved

theorem Program.Stops.ofResolved {program : Program} (stops : program.Stops stopped error)
    (resolves : ∀ call ∈ program.calls, call.Resolves) : error.OfResolved stopped := by
  rcases stops with expression | ⟨_, failed⟩
  · cases expression with
    | operands operands => exact operands.ofResolved
    | notSeries | unsupportedMember => exact ⟨nofun, nofun, nofun⟩
    | undefinedVariable notLoaded notConstant =>
      refine ⟨nofun, nofun, ?_⟩
      rintro _ ⟨⟩
      exact ⟨notLoaded, notConstant⟩
    | call member failed => exact failed.ofResolved (resolves _ member)
  · obtain rfl | ⟨_, _, rfl, _⟩ := Memory.of_store_error failed
    · exact ⟨nofun, nofun, nofun⟩
    · exact ⟨nofun, nofun, nofun⟩

end Resolved

theorem Memory.of_load?_eq_none {memory : Memory} {name : String}
    (notLoaded : memory.load? name = none) :
    memory.slots.get? name = none ∧ PriceField.ofName? name = none := by
  unfold Memory.load? at notLoaded
  split at notLoaded
  case h_1 => cases notLoaded
  case h_2 => cases notLoaded
  case h_3 noSlot => exact ⟨noSlot, Option.map_eq_none_iff.mp notLoaded⟩

namespace Program

/-- A program is prepared exactly if all its calls name a function and pass it enough arguments,
the declaration's own call aside. Then a run fails on no function, and on a variable only if the
name is assigned to nowhere and is that of no price field and no constant. -/
theorem prepare_iff_resolves {tokens : List Token} {program : Program}
    (parsed : parseTokens tokens = .ok program) :
    ((∃ script, program.prepare = .ok script) ↔
      ∀ call span, .call call span ∈ program.parts → call.Resolves) ∧
    (∀ call span, .call call span ∈ program.parts →
      program.functions[call.site]? = some (Builtin.ofName? call.function)) ∧
    ∀ script, program.prepare = .ok script → ∀ window overrides error,
      script.run window overrides = .error error →
        (∀ name, error ≠ .undefinedFunction name) ∧
        (∀ function expected found, error ≠ .tooFewArguments function expected found) ∧
        ∀ name, error = .undefinedVariable name →
          (∀ statement ∈ program.statements, name ∉ statement.assigned) ∧
          PriceField.ofName? name = none ∧ Value.constant? name = none := by
  refine ⟨⟨fun ⟨script, prepared⟩ call span member => ?_, fun resolves => ?_⟩, ?_, ?_⟩
  · exact resolves_of_prepare prepared call (mem_calls.mpr ⟨span, member⟩)
  · refine ⟨_, prepare_of_resolves fun call member => ?_⟩
    obtain ⟨span, member⟩ := mem_calls.mp member
    exact resolves call span member
  · exact fun call span member => functions_site parsed (mem_calls.mpr ⟨span, member⟩)
  · intro script prepared window overrides error failed
    have resolves := resolves_of_prepare prepared
    obtain rfl := eq_of_prepare prepared
    obtain ⟨stopped, _, has, stops⟩ := Script.stops_of_run _ overrides failed
    obtain ⟨notFunction, notArguments, notVariable⟩ := stops.ofResolved resolves
    refine ⟨notFunction, notArguments, fun name unknown => ?_⟩
    obtain ⟨notLoaded, notConstant⟩ := notVariable name unknown
    obtain ⟨noSlot, notField⟩ := Memory.of_load?_eq_none notLoaded
    refine ⟨fun statement member assigned => ?_, notField, notConstant⟩
    have target := mem_assignedNames.mpr ⟨statement, member, assigned⟩
    obtain ⟨slot, _, found, _⟩ := has name target notField
    rw [noSlot] at found
    cases found

/-- The branch that assigns to `seen` is not taken on the first bar, and `unseen` is assigned to
nowhere. -/
def unassignedSource : String :=
  "indicator(\"T\", overlay = na(close))\nif close > 2\n  seen = abs(close)[min(0, 1)]\n" ++
    "plot(seen)\nplot(unseen)"

theorem prepare_iff_resolves_unassigned :
    ∃ tokens program script, tokenize unassignedSource = .ok tokens ∧
      parseTokens tokens = .ok program ∧ program.prepare = .ok script ∧
      (∀ call span, .call call span ∈ program.parts → call.Resolves) ∧
      script.run Script.risingCandles [] = .error (.undefinedVariable "unseen") ∧
      ∀ statement ∈ program.statements, "unseen" ∉ statement.assigned := by
  have reads : (tokenize unassignedSource).toOption.any fun tokens =>
      (parseTokens tokens).toOption.any fun program => program.prepare.toOption.any fun script =>
        errorOf? (script.run Script.risingCandles []) = some (.undefinedVariable "unseen") := by
    decide +kernel
  obtain ⟨tokens, scanned, reads⟩ := of_toOption_any reads
  obtain ⟨program, parsed, reads⟩ := of_toOption_any reads
  obtain ⟨script, prepared, reads⟩ := of_toOption_any reads
  obtain ⟨resolution, _, fails⟩ := prepare_iff_resolves parsed
  have failed := of_errorOf? (of_decide_eq_true reads)
  refine ⟨tokens, program, script, scanned, parsed, prepared,
    resolution.mp ⟨script, prepared⟩, failed, ?_⟩
  exact ((fails script prepared _ _ _ failed).2.2 "unseen" rfl).1

end Program

end ChartScript
