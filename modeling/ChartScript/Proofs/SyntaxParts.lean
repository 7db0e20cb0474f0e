import ChartScript.Syntax.Display

/-!
# Parts of expressions

An induction over expressions that reaches into argument lists, and what is defined along it: the
expressions within an expression, the sites it has, and the same expression with other sites and
at other places.
-/

set_option autoImplicit false

namespace ChartScript

namespace Expr

@[induction_eliminator]
theorem induct {motive : Expr → Prop} (number : ∀ value span, motive (.number value span))
    (string : ∀ text span, motive (.string text span))
    (boolean : ∀ value span, motive (.boolean value span))
    (color : ∀ value span, motive (.color value span))
    (name : ∀ path span, motive (.name path span))
    (member : ∀ object name span, motive object → motive (.member object name span))
    (history : ∀ series offset site span, motive series → motive offset →
      motive (.history series offset site span))
    (unary : ∀ op operand span, motive operand → motive (.unary op operand span))
    (binary : ∀ left op right span, motive left → motive right →
      motive (.binary left op right span))
    (ternary : ∀ condition whenTrue whenFalse span, motive condition → motive whenTrue →
      motive whenFalse → motive (.ternary condition whenTrue whenFalse span))
    (call : ∀ function site arguments named span, (∀ argument ∈ arguments, motive argument) →
      (∀ argument ∈ named, motive argument.value) →
      motive (.call (.mk function site arguments named) span)) (expr : Expr) : motive expr :=
  @Expr.rec motive (fun call => ∀ span, motive (.call call span))
    (fun argument => motive argument.value) (fun arguments => ∀ argument ∈ arguments, motive argument)
    (fun named => ∀ argument ∈ named, motive argument.value) number string boolean color name member
    history unary binary ternary (fun _ span known => known span)
    (fun function site arguments named known knownNamed span =>
      call function site arguments named span known knownNamed)
    (fun _ _ _ known => known) nofun (fun _ _ first rest => List.forall_mem_cons.mpr ⟨first, rest⟩)
    nofun (fun _ _ first rest => List.forall_mem_cons.mpr ⟨first, rest⟩) expr

end Expr

/-! ## Parts -/

mutual

/-- An expression and all expressions within it. -/
@[simp]
def Expr.parts : Expr → List Expr
  | .number value span => [.number value span]
  | .string text span => [.string text span]
  | .boolean value span => [.boolean value span]
  | .color value span => [.color value span]
  | .name path span => [.name path span]
  | .member object name span => .member object name span :: object.parts
  | .history series offset site span =>
    .history series offset site span :: (series.parts ++ offset.parts)
  | .unary op operand span => .unary op operand span :: operand.parts
  | .binary left op right span => .binary left op right span :: (left.parts ++ right.parts)
  | .ternary condition whenTrue whenFalse span =>
    .ternary condition whenTrue whenFalse span ::
      (condition.parts ++ whenTrue.parts ++ whenFalse.parts)
  | .call call span => .call call span :: call.parts

/-- All expressions that are passed to a call. -/
@[simp]
def Call.parts : Call → List Expr
  | .mk _ _ arguments named => Expr.partsOfAll arguments ++ NamedArgument.partsOfAll named

def Expr.partsOfAll : List Expr → List Expr
  | [] => []
  | argument :: rest => argument.parts ++ Expr.partsOfAll rest

def NamedArgument.partsOfAll : List NamedArgument → List Expr
  | [] => []
  | .mk _ value _ :: rest => value.parts ++ NamedArgument.partsOfAll rest

end

theorem Expr.mem_parts_self (expr : Expr) : expr ∈ expr.parts := by
  cases expr <;> exact List.mem_cons_self

theorem Expr.partsOfAll_eq_flatMap (arguments : List Expr) :
    Expr.partsOfAll arguments = arguments.flatMap Expr.parts := by
  induction arguments with
  | nil => rfl
  | cons argument rest ih => rw [Expr.partsOfAll, ih, List.flatMap_cons]

theorem NamedArgument.partsOfAll_eq_flatMap (arguments : List NamedArgument) :
    NamedArgument.partsOfAll arguments = arguments.flatMap (·.value.parts) := by
  induction arguments with
  | nil => rfl
  | cons argument rest ih =>
    obtain ⟨name, value, span⟩ := argument
    rw [NamedArgument.partsOfAll, ih, List.flatMap_cons]
    rfl

section ForallParts

variable {holds : Expr → Prop} {span : Span}

theorem Expr.forall_parts_member {object : Expr} {name : String} :
    (∀ part ∈ (Expr.member object name span).parts, holds part) ↔
      holds (.member object name span) ∧ ∀ part ∈ object.parts, holds part := by
  rw [parts, List.forall_mem_cons]

theorem Expr.forall_parts_history {series offset : Expr} {site : Nat} :
    (∀ part ∈ (Expr.history series offset site span).parts, holds part) ↔
      holds (.history series offset site span) ∧ (∀ part ∈ series.parts, holds part) ∧
      ∀ part ∈ offset.parts, holds part := by
  rw [parts, List.forall_mem_cons, List.forall_mem_append]

theorem Expr.forall_parts_unary {op : UnaryOp} {operand : Expr} :
    (∀ part ∈ (Expr.unary op operand span).parts, holds part) ↔
      holds (.unary op operand span) ∧ ∀ part ∈ operand.parts, holds part := by
  rw [parts, List.forall_mem_cons]

theorem Expr.forall_parts_binary {left right : Expr} {op : BinaryOp} :
    (∀ part ∈ (Expr.binary left op right span).parts, holds part) ↔
      holds (.binary left op right span) ∧ (∀ part ∈ left.parts, holds part) ∧
      ∀ part ∈ right.parts, holds part := by
  rw [parts, List.forall_mem_cons, List.forall_mem_append]

theorem Expr.forall_parts_ternary {condition whenTrue whenFalse : Expr} :
    (∀ part ∈ (Expr.ternary condition whenTrue whenFalse span).parts, holds part) ↔
      holds (.ternary condition whenTrue whenFalse span) ∧
      (∀ part ∈ condition.parts, holds part) ∧ (∀ part ∈ whenTrue.parts, holds part) ∧
      ∀ part ∈ whenFalse.parts, holds part := by
  rw [parts, List.forall_mem_cons, List.forall_mem_append, List.forall_mem_append, and_assoc]

theorem Expr.forall_parts_call {function : String} {site : Nat} {arguments : List Expr}
    {named : List NamedArgument} :
    (∀ part ∈ (Expr.call (.mk function site arguments named) span).parts, holds part) ↔
      holds (.call (.mk function site arguments named) span) ∧
      (∀ argument ∈ arguments, ∀ part ∈ argument.parts, holds part) ∧
      ∀ argument ∈ named, ∀ part ∈ argument.value.parts, holds part := by
  rw [parts, Call.parts, partsOfAll_eq_flatMap, NamedArgument.partsOfAll_eq_flatMap,
    List.forall_mem_cons, List.forall_mem_append, List.forall_mem_flatMap, List.forall_mem_flatMap]

end ForallParts

/-- All expressions within a statement. -/
def Statement.parts : Statement → List Expr
  | .assign _ value _ => value.parts
  | .expression value _ => value.parts
  | .ifThen condition thenBranch _ => condition.parts ++ thenBranch.parts
  | .ifThenElse condition thenBranch elseBranch _ =>
    condition.parts ++ thenBranch.parts ++ elseBranch.parts

/-- All expressions within a program. -/
def Program.parts (program : Program) : List Expr :=
  program.declaration.elim [] (·.call.parts) ++ program.statements.flatMap Statement.parts

theorem sublist_flatMap {α : Type} {items : List α} {within : α → List Expr} {part : Expr}
    (known : ∀ item ∈ items, part ∈ within item → part.parts.Sublist (within item))
    (member : part ∈ items.flatMap within) : part.parts.Sublist (items.flatMap within) := by
  obtain ⟨item, present, inside⟩ := List.mem_flatMap.mp member
  exact (known item present inside).trans
    (List.sublist_flatten_of_mem (List.mem_map_of_mem present))

theorem Call.parts_sublist_of {function : String} {site : Nat} {arguments : List Expr}
    {named : List NamedArgument} {part : Expr}
    (known : ∀ argument ∈ arguments, part ∈ argument.parts → part.parts.Sublist argument.parts)
    (knownNamed : ∀ argument ∈ named, part ∈ argument.value.parts →
      part.parts.Sublist argument.value.parts)
    (within : part ∈ (Call.mk function site arguments named).parts) :
    part.parts.Sublist (Call.mk function site arguments named).parts := by
  rw [Call.parts, Expr.partsOfAll_eq_flatMap, NamedArgument.partsOfAll_eq_flatMap] at within ⊢
  rcases List.mem_append.mp within with passed | passed
  · exact (sublist_flatMap known passed).trans (List.sublist_append_left _ _)
  · exact (sublist_flatMap knownNamed passed).trans (List.sublist_append_right _ _)

namespace Expr

theorem parts_sublist {expr part : Expr} (within : part ∈ expr.parts) :
    part.parts.Sublist expr.parts := by
  induction expr with
  | number | string | boolean | color | name =>
    cases List.mem_singleton.mp within
    exact .refl _
  | member object name span known | unary op object span known =>
    rcases List.mem_cons.mp within with rfl | inside
    · exact .refl _
    · exact (known inside).cons _
  | history left right site span known knownRight | binary left op right span known knownRight =>
    rcases List.mem_cons.mp within with rfl | inside
    · exact .refl _
    · rcases List.mem_append.mp inside with inside | inside
      · exact ((known inside).trans (List.sublist_append_left _ _)).cons _
      · exact ((knownRight inside).trans (List.sublist_append_right _ _)).cons _
  | ternary condition whenTrue whenFalse span known knownTrue knownFalse =>
    rcases List.mem_cons.mp within with rfl | inside
    · exact .refl _
    · rcases List.mem_append.mp inside with inside | inside
      · rcases List.mem_append.mp inside with inside | inside
        · exact (((known inside).trans (List.sublist_append_left _ _)).trans
            (List.sublist_append_left _ _)).cons _
        · exact (((knownTrue inside).trans (List.sublist_append_right _ _)).trans
            (List.sublist_append_left _ _)).cons _
      · exact ((knownFalse inside).trans (List.sublist_append_right _ _)).cons _
  | call function site arguments named span known knownNamed =>
    rcases List.mem_cons.mp within with rfl | inside
    · exact .refl _
    · exact (Call.parts_sublist_of known knownNamed inside).cons _

end Expr

theorem Call.parts_sublist {call : Call} {part : Expr} (within : part ∈ call.parts) :
    part.parts.Sublist call.parts := by
  obtain ⟨function, site, arguments, named⟩ := call
  exact Call.parts_sublist_of (fun _ _ => Expr.parts_sublist) (fun _ _ => Expr.parts_sublist) within

theorem Statement.parts_sublist {statement : Statement} {part : Expr}
    (within : part ∈ statement.parts) : part.parts.Sublist statement.parts := by
  induction statement with
  | assign | expression => exact Expr.parts_sublist within
  | ifThen condition thenBranch span known =>
    rcases List.mem_append.mp within with inside | inside
    · exact (Expr.parts_sublist inside).trans (List.sublist_append_left _ _)
    · exact (known inside).trans (List.sublist_append_right _ _)
  | ifThenElse condition thenBranch elseBranch span known knownElse =>
    rcases List.mem_append.mp within with inside | inside
    · refine .trans ?_ (List.sublist_append_left _ _)
      rcases List.mem_append.mp inside with inside | inside
      · exact (Expr.parts_sublist inside).trans (List.sublist_append_left _ _)
      · exact (known inside).trans (List.sublist_append_right _ _)
    · exact (knownElse inside).trans (List.sublist_append_right _ _)

theorem Program.parts_sublist {program : Program} {part : Expr} (within : part ∈ program.parts) :
    part.parts.Sublist program.parts := by
  rcases List.mem_append.mp within with inside | inside
  · refine .trans ?_ (List.sublist_append_left _ _)
    cases declared : program.declaration with
    | none =>
      rw [declared] at inside
      cases inside
    | some declaration =>
      rw [declared] at inside
      exact Call.parts_sublist inside
  · refine .trans ?_ (List.sublist_append_right _ _)
    exact sublist_flatMap (fun _ _ => Statement.parts_sublist) inside

/-! ## Sites -/

/-- The site of a call or of a history reference. -/
def Expr.site? : Expr → Option Nat
  | .history _ _ site _ => some site
  | .call passed _ => some passed.site
  | _ => none

def Expr.sites (expr : Expr) : List Nat :=
  expr.parts.filterMap Expr.site?

def Call.sites (call : Call) : List Nat :=
  call.site :: call.parts.filterMap Expr.site?

def Statement.sites (statement : Statement) : List Nat :=
  statement.parts.filterMap Expr.site?

def Program.sites (program : Program) : List Nat :=
  program.declaration.elim [] (·.call.sites) ++ program.statements.flatMap Statement.sites

section Relabel

variable (site : Nat → Nat) (place : Span → Span)

mutual

/-- The same expression with other sites and at other places. -/
@[simp]
def Expr.relabel : Expr → Expr
  | .number value span => .number value (place span)
  | .string text span => .string text (place span)
  | .boolean value span => .boolean value (place span)
  | .color value span => .color value (place span)
  | .name path span => .name path (place span)
  | .member object name span => .member object.relabel name (place span)
  | .history series offset number span =>
    .history series.relabel offset.relabel (site number) (place span)
  | .unary op operand span => .unary op operand.relabel (place span)
  | .binary left op right span => .binary left.relabel op right.relabel (place span)
  | .ternary condition whenTrue whenFalse span =>
    .ternary condition.relabel whenTrue.relabel whenFalse.relabel (place span)
  | .call call span => .call call.relabel (place span)

@[simp]
def Call.relabel : Call → Call
  | .mk function number arguments named =>
    .mk function (site number) (Expr.relabelAll arguments) (NamedArgument.relabelAll named)

def Expr.relabelAll : List Expr → List Expr
  | [] => []
  | argument :: rest => argument.relabel :: Expr.relabelAll rest

@[simp]
def NamedArgument.relabel : NamedArgument → NamedArgument
  | .mk name value span => .mk name value.relabel (place span)

def NamedArgument.relabelAll : List NamedArgument → List NamedArgument
  | [] => []
  | argument :: rest => argument.relabel :: NamedArgument.relabelAll rest

end

theorem Expr.relabelAll_eq_map (arguments : List Expr) :
    Expr.relabelAll site place arguments = arguments.map (Expr.relabel site place) := by
  induction arguments with
  | nil => rfl
  | cons argument rest ih => rw [Expr.relabelAll, ih, List.map_cons]

theorem NamedArgument.relabelAll_eq_map (arguments : List NamedArgument) :
    NamedArgument.relabelAll site place arguments =
      arguments.map (NamedArgument.relabel site place) := by
  induction arguments with
  | nil => rfl
  | cons argument rest ih => rw [NamedArgument.relabelAll, ih, List.map_cons]

@[simp]
theorem NamedArgument.relabel_name (argument : NamedArgument) :
    (argument.relabel site place).name = argument.name := by
  cases argument
  rfl

@[simp]
theorem NamedArgument.relabel_value (argument : NamedArgument) :
    (argument.relabel site place).value = argument.value.relabel site place := by
  cases argument
  rfl

def Statement.relabel : Statement → Statement
  | .assign name value span => .assign name (value.relabel site place) (place span)
  | .expression value span => .expression (value.relabel site place) (place span)
  | .ifThen condition thenBranch span =>
    .ifThen (condition.relabel site place) thenBranch.relabel (place span)
  | .ifThenElse condition thenBranch elseBranch span =>
    .ifThenElse (condition.relabel site place) thenBranch.relabel elseBranch.relabel (place span)

end Relabel

theorem Expr.relabel_id (expr : Expr) : expr.relabel id id = expr := by
  induction expr with
  | number | string | boolean | color | name => rfl
  | member object name span object_id => rw [Expr.relabel, object_id, id]
  | history series offset number span series_id offset_id =>
    rw [Expr.relabel, series_id, offset_id, id, id]
  | unary op operand span operand_id => rw [Expr.relabel, operand_id, id]
  | binary left op right span left_id right_id => rw [Expr.relabel, left_id, right_id, id]
  | ternary condition whenTrue whenFalse span condition_id true_id false_id =>
    rw [Expr.relabel, condition_id, true_id, false_id, id]
  | call function number arguments named span arguments_id named_id =>
    have namedId (argument : NamedArgument) (member : argument ∈ named) :
        argument.relabel id id = argument := by
      obtain ⟨name, value, span⟩ := argument
      exact congrArg (NamedArgument.mk name · span) (named_id _ member)
    rw [Expr.relabel, Call.relabel, Expr.relabelAll_eq_map, NamedArgument.relabelAll_eq_map,
      List.map_congr_left arguments_id, List.map_congr_left namedId, List.map_id', List.map_id', id,
      id]

theorem Call.relabel_id (call : Call) : call.relabel id id = call := by
  have same := Expr.relabel_id (.call call .nowhere)
  rw [Expr.relabel] at same
  exact (Expr.call.inj same).1

theorem Statement.relabel_id (statement : Statement) : statement.relabel id id = statement := by
  induction statement with
  | assign | expression => rw [Statement.relabel, Expr.relabel_id, id]
  | ifThen _ _ _ then_id => rw [Statement.relabel, Expr.relabel_id, then_id, id]
  | ifThenElse _ _ _ _ then_id else_id =>
    rw [Statement.relabel, Expr.relabel_id, then_id, else_id, id]

end ChartScript
