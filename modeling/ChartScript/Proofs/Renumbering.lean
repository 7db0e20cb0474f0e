import ChartScript.Proofs.SiteNumbers
import Mathlib.Data.List.GetD
import Mathlib.Data.List.Nodup
import Mathlib.Data.Set.Operations

/-!
# Renumbering

Expressions of one shape differ only in their places and sites. Where neither has a site twice,
one is the other with its sites renumbered one to one.
-/

set_option autoImplicit false

namespace ChartScript

/-- What is left of an expression without its places and sites. -/
def Expr.shape (expr : Expr) : Expr :=
  expr.relabel (fun _ => 0) fun _ => .nowhere

def NamedArgument.shape (argument : NamedArgument) : NamedArgument :=
  argument.relabel (fun _ => 0) fun _ => .nowhere

@[simp]
theorem NamedArgument.shape_mk (name : String) (value : Expr) (span : Span) :
    (NamedArgument.mk name value span).shape = .mk name value.shape .nowhere := rfl

@[simp]
theorem NamedArgument.shape_name (argument : NamedArgument) :
    argument.shape.name = argument.name :=
  argument.relabel_name _ _

@[simp]
theorem NamedArgument.shape_value (argument : NamedArgument) :
    argument.shape.value = argument.value.shape :=
  argument.relabel_value _ _

@[simp]
theorem Expr.shape_call (function : String) (site : Nat) (arguments : List Expr)
    (named : List NamedArgument) (span : Span) :
    (Expr.call (.mk function site arguments named) span).shape =
      .call (.mk function 0 (arguments.map Expr.shape) (named.map NamedArgument.shape)) .nowhere := by
  rw [shape, relabel, Call.relabel, relabelAll_eq_map, NamedArgument.relabelAll_eq_map]
  rfl

/-- Other sites and places leave the shape as it is. -/
theorem Expr.shape_relabel (site : Nat → Nat) (place : Span → Span) (expr : Expr) :
    (expr.relabel site place).shape = expr.shape := by
  induction expr with
  | number | string | boolean | color | name => rfl
  | member object name span known | unary op object span known =>
    rw [relabel, shape, relabel, ← shape, known]
    rfl
  | history left right number span known knownRight | binary left op right span known knownRight =>
    rw [relabel, shape, relabel, ← shape, ← shape, known, knownRight]
    rfl
  | ternary condition whenTrue whenFalse span known knownTrue knownFalse =>
    rw [relabel, shape, relabel, ← shape, ← shape, ← shape, known, knownTrue, knownFalse]
    rfl
  | call function number arguments named span known knownNamed =>
    have passed : arguments.map (shape ∘ relabel site place) = arguments.map shape :=
      List.map_congr_left known
    have passedNamed : named.map (NamedArgument.shape ∘ NamedArgument.relabel site place) =
        named.map NamedArgument.shape := by
      refine List.map_congr_left fun argument member => ?_
      obtain ⟨name, value, span⟩ := argument
      exact congrArg (NamedArgument.mk name · .nowhere) (knownNamed _ member)
    rw [relabel, Call.relabel, relabelAll_eq_map, NamedArgument.relabelAll_eq_map, shape_call,
      shape_call, List.map_map, List.map_map, passed, passedNamed]

/-! ## Parts of relabelled expressions -/

theorem Expr.parts_relabel (site : Nat → Nat) (place : Span → Span) (expr : Expr) :
    (expr.relabel site place).parts = expr.parts.map (Expr.relabel site place) := by
  induction expr with
  | number | string | boolean | color | name => rfl
  | member object name span known | unary op object span known =>
    rw [relabel, parts, parts, known, List.map_cons, relabel]
  | history left right number span known knownRight | binary left op right span known knownRight =>
    rw [relabel, parts, parts, known, knownRight, List.map_cons, List.map_append, relabel]
  | ternary condition whenTrue whenFalse span known knownTrue knownFalse =>
    rw [relabel, parts, parts, known, knownTrue, knownFalse, List.map_cons, List.map_append,
      List.map_append, relabel]
  | call function number arguments named span known knownNamed =>
    have passed : (arguments.map (Expr.relabel site place)).flatMap parts =
        (arguments.flatMap parts).map (Expr.relabel site place) := by
      rw [List.flatMap_map, List.map_flatMap]
      exact List.flatMap_congr known
    have passedNamed : (named.map (NamedArgument.relabel site place)).flatMap (·.value.parts) =
        (named.flatMap (·.value.parts)).map (Expr.relabel site place) := by
      rw [List.flatMap_map, List.map_flatMap]
      refine List.flatMap_congr fun argument member => ?_
      rw [NamedArgument.relabel_value, knownNamed argument member]
    rw [relabel, Call.relabel, parts, parts, Call.parts, Call.parts, partsOfAll_eq_flatMap,
      partsOfAll_eq_flatMap, NamedArgument.partsOfAll_eq_flatMap,
      NamedArgument.partsOfAll_eq_flatMap, relabelAll_eq_map, NamedArgument.relabelAll_eq_map,
      passed, passedNamed, List.map_cons, List.map_append, relabel, Call.relabel,
      relabelAll_eq_map, NamedArgument.relabelAll_eq_map]

theorem Expr.sites_relabel (site : Nat → Nat) (place : Span → Span) (expr : Expr) :
    (expr.relabel site place).sites = expr.sites.map site := by
  rw [sites, sites, parts_relabel, List.filterMap_map, List.map_filterMap]
  refine List.filterMap_congr fun part _ => ?_
  cases part with
  | call call span =>
    cases call
    rfl
  | _ => rfl

theorem Expr.sites_shape (expr : Expr) : expr.shape.sites = expr.sites.map fun _ => 0 :=
  expr.sites_relabel _ _

theorem Expr.length_sites_of_shape {expr other : Expr} (same : other.shape = expr.shape) :
    other.sites.length = expr.sites.length := by
  have lengths := congrArg (·.sites.length) same
  simpa only [sites_shape, List.length_map] using lengths

theorem NamedArgument.value_shape {argument other : NamedArgument}
    (same : other.shape = argument.shape) : other.value.shape = argument.value.shape := by
  rw [← shape_value, ← shape_value, same]

theorem NamedArgument.length_sites_of_shape {argument other : NamedArgument}
    (same : other.shape = argument.shape) :
    other.value.sites.length = argument.value.sites.length :=
  Expr.length_sites_of_shape (value_shape same)

/-! ## Expressions of one shape -/

section Shapes

variable {f g : Nat → Nat}

theorem map_append_split {first second others rest : List Nat}
    (lengths : others.length = first.length)
    (same : (others ++ rest).map g = (first ++ second).map f) :
    others.map g = first.map f ∧ rest.map g = second.map f := by
  rw [List.map_append, List.map_append] at same
  exact List.append_inj same (by rw [List.length_map, List.length_map, lengths])

/-- Items of the same shapes one by one, whose sites agree as a whole, agree one by one. -/
theorem map_eq_of_shapes {α : Type} {shape first second : α → α} {sites : α → List Nat}
    (lengths : ∀ item other, shape other = shape item →
      (sites other).length = (sites item).length)
    {items others : List α} (shapes : others.map shape = items.map shape)
    (same : (others.flatMap sites).map g = (items.flatMap sites).map f)
    (known : ∀ item ∈ items, ∀ other, shape other = shape item →
      (sites other).map g = (sites item).map f → second other = first item) :
    others.map second = items.map first := by
  induction items generalizing others with
  | nil =>
    rw [List.map_eq_nil_iff.mp shapes]
    rfl
  | cons item items ih =>
    obtain ⟨other, others, rfl, shaped, shapes⟩ := List.map_eq_cons_iff.mp shapes
    obtain ⟨here, behind⟩ := List.forall_mem_cons.mp known
    rw [List.flatMap_cons, List.flatMap_cons] at same
    obtain ⟨own, rest⟩ := map_append_split (lengths _ _ shaped) same
    rw [List.map_cons, List.map_cons, here other shaped own, ih shapes rest behind]

theorem NamedArgument.relabel_eq_of_shape {argument other : NamedArgument}
    (same : other.shape = argument.shape)
    (known : other.value.shape = argument.value.shape →
      other.value.relabel g (fun _ => .nowhere) = argument.value.relabel f fun _ => .nowhere) :
    other.relabel g (fun _ => .nowhere) = argument.relabel f fun _ => .nowhere := by
  have sameValue := known (value_shape same)
  have sameName := congrArg NamedArgument.name same
  rw [shape_name, shape_name] at sameName
  obtain ⟨name, value, span⟩ := argument
  obtain ⟨otherName, otherValue, otherSpan⟩ := other
  rw [relabel, relabel]
  exact congrArg₂ (NamedArgument.mk · · .nowhere) sameName sameValue

theorem Expr.length_flatMap_sites {arguments others : List Expr}
    (shapes : others.map Expr.shape = arguments.map Expr.shape) :
    (others.flatMap Expr.sites).length = (arguments.flatMap Expr.sites).length := by
  have known := congrArg (fun shapes => (shapes.flatMap Expr.sites).length) shapes
  simpa only [List.flatMap_map, sites_shape, List.length_flatMap, List.length_map] using known

/-- The call's own site comes first, then those of the arguments in their order. -/
theorem Call.relabel_eq_of_shapes {function : String} {site otherSite : Nat}
    {arguments otherArguments : List Expr} {named otherNamed : List NamedArgument}
    (shapes : otherArguments.map Expr.shape = arguments.map Expr.shape)
    (namedShapes : otherNamed.map NamedArgument.shape = named.map NamedArgument.shape)
    (sites : (Call.mk function otherSite otherArguments otherNamed).sites.map g =
      (Call.mk function site arguments named).sites.map f)
    (known : ∀ argument ∈ arguments, ∀ other : Expr, other.shape = argument.shape →
      other.sites.map g = argument.sites.map f →
      other.relabel g (fun _ => .nowhere) = argument.relabel f fun _ => .nowhere)
    (knownNamed : ∀ argument ∈ named, ∀ other : Expr, other.shape = argument.value.shape →
      other.sites.map g = argument.value.sites.map f →
      other.relabel g (fun _ => .nowhere) = argument.value.relabel f fun _ => .nowhere) :
    (Call.mk function otherSite otherArguments otherNamed).relabel g (fun _ => .nowhere) =
      (Call.mk function site arguments named).relabel f fun _ => .nowhere := by
  rw [Call.sites_mk, Call.sites_mk, List.map_cons, List.map_cons] at sites
  obtain ⟨own, within⟩ := List.cons.inj sites
  obtain ⟨first, second⟩ := map_append_split (Expr.length_flatMap_sites shapes) within
  have same := map_eq_of_shapes (fun _ _ => Expr.length_sites_of_shape) shapes first known
  have sameNamed := map_eq_of_shapes (fun _ _ => NamedArgument.length_sites_of_shape) namedShapes
    second fun argument member other shaped agree =>
      NamedArgument.relabel_eq_of_shape shaped fun shapedValue =>
        knownNamed argument member other.value shapedValue agree
  rw [relabel, relabel, Expr.relabelAll_eq_map, Expr.relabelAll_eq_map,
    NamedArgument.relabelAll_eq_map, NamedArgument.relabelAll_eq_map, same, sameNamed, own]

theorem Expr.relabel_eq_of_shape {expr other : Expr} (same : other.shape = expr.shape)
    (sites : other.sites.map g = expr.sites.map f) :
    other.relabel g (fun _ => .nowhere) = expr.relabel f (fun _ => .nowhere) := by
  induction expr generalizing other with
  | number | string | boolean | color | name =>
    cases other <;> first | exact same | cases same
  | member object name span known =>
    cases other with
    | member otherObject otherName otherSpan =>
      obtain ⟨shaped, sameName, _⟩ := Expr.member.inj same
      rw [relabel, relabel, known shaped sites, sameName]
    | _ => cases same
  | unary op operand span known =>
    cases other with
    | unary otherOp otherOperand otherSpan =>
      obtain ⟨sameOp, shaped, _⟩ := Expr.unary.inj same
      rw [relabel, relabel, known shaped sites, sameOp]
    | _ => cases same
  | history series offset number span knownSeries knownOffset =>
    cases other with
    | history otherSeries otherOffset otherNumber otherSpan =>
      obtain ⟨shapedSeries, shapedOffset, _⟩ := Expr.history.inj same
      rw [sites_history, sites_history, List.map_cons, List.map_cons] at sites
      obtain ⟨own, within⟩ := List.cons.inj sites
      obtain ⟨first, second⟩ := map_append_split (length_sites_of_shape shapedSeries) within
      rw [relabel, relabel, knownSeries shapedSeries first, knownOffset shapedOffset second, own]
    | _ => cases same
  | binary left op right span knownLeft knownRight =>
    cases other with
    | binary otherLeft otherOp otherRight otherSpan =>
      obtain ⟨shapedLeft, sameOp, shapedRight, _⟩ := Expr.binary.inj same
      rw [sites_binary, sites_binary] at sites
      obtain ⟨first, second⟩ := map_append_split (length_sites_of_shape shapedLeft) sites
      rw [relabel, relabel, knownLeft shapedLeft first, knownRight shapedRight second, sameOp]
    | _ => cases same
  | ternary condition whenTrue whenFalse span knownCondition knownTrue knownFalse =>
    cases other with
    | ternary otherCondition otherTrue otherFalse otherSpan =>
      obtain ⟨shapedCondition, shapedTrue, shapedFalse, _⟩ := Expr.ternary.inj same
      have shorter := length_sites_of_shape shapedCondition
      rw [sites_ternary, sites_ternary, List.append_assoc, List.append_assoc] at sites
      obtain ⟨first, others⟩ := map_append_split shorter sites
      obtain ⟨second, third⟩ := map_append_split (length_sites_of_shape shapedTrue) others
      rw [relabel, relabel, knownCondition shapedCondition first, knownTrue shapedTrue second,
        knownFalse shapedFalse third]
    | _ => cases same
  | call function number arguments named span known knownNamed =>
    cases other with
    | call passed otherSpan =>
      obtain ⟨otherFunction, otherNumber, otherArguments, otherNamed⟩ := passed
      rw [shape_call, shape_call] at same
      obtain ⟨sameFunction, _, shapes, namedShapes⟩ := Call.mk.inj (Expr.call.inj same).1
      subst sameFunction
      rw [relabel, relabel, Call.relabel_eq_of_shapes shapes namedShapes sites
        (fun argument member _ => known argument member)
        fun argument member _ => knownNamed argument member]
    | _ => cases same

end Shapes

/-- One list of distinct numbers goes over into another one that is as long. -/
theorem exists_map_eq {first second : List Nat} (nodup : first.Nodup) (otherNodup : second.Nodup)
    (lengths : second.length = first.length) :
    ∃ number : Nat → Nat, Set.InjOn number {site | site ∈ first} ∧
      (∀ site, site ∉ first → number site = site) ∧ first.map number = second := by
  refine ⟨fun site => second.getD (first.idxOf site) site, ?_, fun site outside => ?_, ?_⟩
  · intro one oneIn another anotherIn agree
    have oneLt := List.idxOf_lt_length_of_mem oneIn
    have anotherLt := List.idxOf_lt_length_of_mem anotherIn
    rw [← lengths] at oneLt anotherLt
    simp only [List.getD_eq_getElem _ _ oneLt, List.getD_eq_getElem _ _ anotherLt] at agree
    exact (List.idxOf_inj oneIn).mp (otherNodup.getElem_inj_iff.mp agree)
  · refine List.getD_eq_default _ _ ?_
    rw [List.idxOf_eq_length outside, lengths]
  · refine List.ext_getElem (by rw [List.length_map, lengths]) fun index inside within => ?_
    rw [List.getElem_map, nodup.idxOf_getElem, List.getD_eq_getElem]

/-- Two ways to put the numbers up to a count in order go over into each other by a renumbering. -/
theorem exists_injective_of_perm {first second : List Nat} {count : Nat}
    (perm : first.Perm (List.range count)) (otherPerm : second.Perm (List.range count)) :
    ∃ number : Nat → Nat, Function.Injective number ∧
      (∀ site, number site < count ↔ site < count) ∧ first.map number = second := by
  have nodup : first.Nodup := perm.nodup_iff.mpr List.nodup_range
  have otherNodup : second.Nodup := otherPerm.nodup_iff.mpr List.nodup_range
  have lengths : second.length = first.length := by rw [perm.length_eq, otherPerm.length_eq]
  obtain ⟨number, injective, outside, mapped⟩ := exists_map_eq nodup otherNodup lengths
  have isIn (site : Nat) : site ∈ first ↔ site < count := by rw [perm.mem_iff, List.mem_range]
  have range (site : Nat) : number site < count ↔ site < count := by
    by_cases within : site ∈ first
    · have lands : number site ∈ second := mapped ▸ List.mem_map_of_mem within
      rw [otherPerm.mem_iff, List.mem_range] at lands
      exact iff_of_true lands ((isIn site).mp within)
    · rw [outside site within]
  refine ⟨number, fun one another agree => ?_, range, mapped⟩
  have together : one ∈ first ↔ another ∈ first := by
    rw [isIn, isIn, ← range one, ← range another, agree]
  by_cases within : one ∈ first
  · exact injective within (together.mp within) agree
  · rwa [outside one within, outside another (mt together.mpr within)] at agree

/-- Expressions of one shape are the same up to their places and a one-to-one renumbering of the
sites. -/
theorem Expr.exists_renumbering {expr other : Expr} (same : other.shape = expr.shape)
    (nodup : expr.sites.Nodup) (otherNodup : other.sites.Nodup) :
    ∃ renumber : Nat → Nat, Set.InjOn renumber {site | site ∈ expr.sites} ∧
      other.relabel id (fun _ => .nowhere) = expr.relabel renumber fun _ => .nowhere := by
  obtain ⟨renumber, injective, _, mapped⟩ :=
    exists_map_eq nodup otherNodup (length_sites_of_shape same)
  refine ⟨renumber, injective, relabel_eq_of_shape same ?_⟩
  rw [List.map_id, mapped]

end ChartScript
