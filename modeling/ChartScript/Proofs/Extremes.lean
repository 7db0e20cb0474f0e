import ChartScript.Proofs.ErrorOrigins
import Mathlib.Data.Prod.Lex
import Mathlib.Order.OrderDual

/-!
# Extremes and missing values

The highest and the lowest value of a window pass over missing values, and the functions `max` and
`min` do not: there one missing argument makes the result missing. Doubles that are numbers are
compared by their rank, a triple in lexicographic order. So the value that a fold ends with is one
of the numbers that it went through, and none of the others is beyond it.
-/

set_option autoImplicit false

namespace ChartScript

namespace Numeral

open Float.Model Float.Model.UnpackedFloat

/-- Where a double stands among others: by the kind of number it is, then by its exponent, then by
its mantissa. Below zero both count the other way round. -/
def rank : UnpackedFloat → Int ×ₗ Int ×ₗ Int
  | .infinity .negative => toLex (-2, toLex (0, 0))
  | .finite .negative mantissa exponent _ => toLex (-1, toLex (-exponent, -mantissa))
  | .zero _ => toLex (0, toLex (0, 0))
  | .finite .positive mantissa exponent _ => toLex (1, toLex (exponent, mantissa))
  | .infinity .positive => toLex (2, toLex (0, 0))
  | .notANumber => toLex (0, toLex (0, 0))

theorem compare_signs : compare Sign.negative Sign.positive = .lt := rfl

theorem lt_iff_rank_lt {left right : UnpackedFloat} (leftNumber : left.isNaN = false)
    (rightNumber : right.isNaN = false) : left.lt right = true ↔ rank left < rank right := by
  unfold UnpackedFloat.lt
  rw [beq_iff_eq]
  -- Numbers of one sign are compared by exponent and mantissa, all others by their kinds.
  rcases left with ⟨_ | _⟩ | _ | _ | ⟨_ | _, mantissa, exponent, _⟩
  case notANumber => cases leftNumber
  all_goals rcases right with ⟨_ | _⟩ | _ | _ | ⟨_ | _, other, otherExponent, _⟩
  all_goals first
    | exact absurd rightNumber (by decide)
    | dsimp only [UnpackedFloat.compare, rank]
      simp [compare_signs, Prod.Lex.toLex_lt_toLex, Ordering.then_eq_lt, Ordering.then_eq_gt,
        compare_lt_iff_lt, compare_gt_iff_gt]

/-- The rank of a double. Zeros of either sign share one. -/
def rankOf (value : Float) : Int ×ₗ Int ×ₗ Int :=
  rank value.toModel.unpack

theorem lt_iff_rankOf_lt {left right : Float} (leftNumber : left.isNaN = false)
    (rightNumber : right.isNaN = false) : left < right ↔ rankOf left < rankOf right := by
  have unpacked : left < right ↔ left.toModel.unpack.lt right.toModel.unpack = true :=
    decide_eq_true_iff
  exact unpacked.trans (lt_iff_rank_lt leftNumber rightNumber)

end Numeral

namespace Series

open Numeral (rankOf lt_iff_rankOf_lt)

section Folds

variable {κ : Type} [LinearOrder κ]

/-- Of two values one is picked that the other is not beyond. What is beyond a number has a higher
score. -/
structure PicksBeyond (pick : Float → Float → Float) (beyond : Float → Float → Prop)
    (score : Float → κ) : Prop where
  score_lt : ∀ left right, left.isNaN = false → right.isNaN = false →
    (beyond left right ↔ score right < score left)
  picks : ∀ left right,
    (pick left right = left ∧ beyond left right) ∨ (pick left right = right ∧ ¬beyond left right)

theorem larger_picksBeyond : PicksBeyond larger (· > ·) rankOf where
  score_lt left right leftNumber rightNumber := lt_iff_rankOf_lt rightNumber leftNumber
  picks left right := by
    by_cases below : right < left
    · exact .inl ⟨if_pos (decide_eq_true below), below⟩
    · exact .inr ⟨if_neg (by simpa [Quantity.less] using below), below⟩

theorem smaller_picksBeyond : PicksBeyond smaller (· < ·) (OrderDual.toDual ∘ rankOf) where
  score_lt left right leftNumber rightNumber := lt_iff_rankOf_lt leftNumber rightNumber
  picks left right := by
    by_cases below : left < right
    · exact .inl ⟨if_pos (decide_eq_true below), below⟩
    · exact .inr ⟨if_neg (by simpa [Quantity.less] using below), below⟩

/-- The value is one of some values, and none of these is beyond it. -/
structure IsExtreme (beyond : Float → Float → Prop) (values : List Float) (value : Float) :
    Prop where
  member : value ∈ values
  extreme : ∀ other ∈ values, ¬beyond other value

variable {pick : Float → Float → Float} {beyond : Float → Float → Prop} {score : Float → κ}

theorem PicksBeyond.foldl_extreme (picks : PicksBeyond pick beyond score) {first : Float}
    {rest : List Float} (numbers : ∀ value ∈ first :: rest, value.isNaN = false) :
    IsExtreme beyond (first :: rest) (rest.foldl pick first) := by
  -- The induction is on scores, which stay in order where one value after the other is dropped.
  suffices ordered : rest.foldl pick first ∈ first :: rest ∧
      ∀ value ∈ first :: rest, score value ≤ score (rest.foldl pick first) by
    obtain ⟨member, most⟩ := ordered
    refine ⟨member, fun other among isBeyond => ?_⟩
    have higher := (picks.score_lt _ _ (numbers other among) (numbers _ member)).mp isBeyond
    exact absurd (most other among) (not_le.mpr higher)
  induction rest generalizing first with
  | nil =>
    refine ⟨List.mem_singleton_self first, ?_⟩
    exact List.forall_mem_singleton.mpr (le_refl (score first))
  | cons second rest ih =>
    obtain ⟨firstNumber, others⟩ := List.forall_mem_cons.mp numbers
    obtain ⟨secondNumber, others⟩ := List.forall_mem_cons.mp others
    have scores := picks.score_lt first second firstNumber secondNumber
    rw [List.foldl_cons]
    rcases picks.picks first second with ⟨picked, isBeyond⟩ | ⟨picked, notBeyond⟩
    · rw [picked]
      obtain ⟨member, most⟩ := ih (List.forall_mem_cons.mpr ⟨firstNumber, others⟩)
      obtain ⟨here, behind⟩ := List.forall_mem_cons.mp most
      refine ⟨?_, List.forall_mem_cons.mpr ⟨here, List.forall_mem_cons.mpr ⟨?_, behind⟩⟩⟩
      · rcases List.mem_cons.mp member with same | among
        · rw [same]
          exact List.mem_cons_self
        · exact List.mem_cons_of_mem _ (List.mem_cons_of_mem _ among)
      · exact (scores.mp isBeyond).le.trans here
    · rw [picked]
      obtain ⟨member, most⟩ := ih (List.forall_mem_cons.mpr ⟨secondNumber, others⟩)
      obtain ⟨here, _⟩ := List.forall_mem_cons.mp most
      refine ⟨List.mem_cons_of_mem _ member, List.forall_mem_cons.mpr ⟨?_, most⟩⟩
      exact (not_lt.mp fun lower => notBeyond (scores.mpr lower)).trans here

end Folds

/-! ## Windows with missing values -/

/-- Missing values are passed over: the result is missing where all values are, and otherwise it is
the extreme one of the numbers among them. -/
structure ExtremeOfPresent (beyond : Float → Float → Prop) (values : List Float)
    (result : Float) : Prop where
  missing : result.isNaN = true ↔ ∀ value ∈ values, value.isNaN = true
  extreme : result.isNaN = false →
    result ∈ values ∧ ∀ value ∈ values, value.isNaN = false → ¬beyond value result

/-- One missing value makes the result missing, and otherwise it is the extreme value. -/
structure ExtremeOfAll (beyond : Float → Float → Prop) (values : List Float)
    (result : Float) : Prop where
  missing : result.isNaN = true ↔ ∃ value ∈ values, value.isNaN = true
  extreme : result.isNaN = false → IsExtreme beyond values result

section Extremes

variable {κ : Type} [LinearOrder κ] {pick : Float → Float → Float}
  {beyond : Float → Float → Prop} {score : Float → κ}

theorem isNaN_nan : Numeral.nan.isNaN = true := by decide

theorem combinePresent_extreme (picks : PicksBeyond pick beyond score) (values : List Float) :
    ExtremeOfPresent beyond values (combinePresent pick values) := by
  have present {value : Float} :
      value ∈ values.filter (!Quantity.isMissing ·) ↔ value ∈ values ∧ value.isNaN = false := by
    rw [List.mem_filter, Bool.not_eq_true']
    exact Iff.rfl
  unfold combinePresent
  cases numbers : values.filter (!Quantity.isMissing ·) with
  | nil =>
    have missing : ∀ value ∈ values, value.isNaN = true := by
      intro value member
      by_contra number
      have kept := present.mpr ⟨member, Bool.eq_false_iff.mpr number⟩
      rw [numbers] at kept
      cases kept
    refine ⟨iff_of_true isNaN_nan missing, fun number => ?_⟩
    rw [show (Quantity.missing : Float).isNaN = true from isNaN_nan] at number
    cases number
  | cons first rest =>
    rw [numbers] at present
    have areNumbers : ∀ value ∈ first :: rest, value.isNaN = false :=
      fun value member => (present.mp member).2
    obtain ⟨member, extreme⟩ := picks.foldl_extreme areNumbers
    have number := areNumbers _ member
    refine ⟨iff_of_false (Bool.eq_false_iff.mp number) fun missing => ?_, fun _ => ?_⟩
    · have absent := missing _ (present.mp member).1
      rw [number] at absent
      cases absent
    · exact ⟨(present.mp member).1, fun value among isNumber =>
        extreme value (present.mpr ⟨among, isNumber⟩)⟩

end Extremes

end Series

namespace Series

/-- Picks one of two values where neither is missing. -/
def pickPresent (pick : Float → Float → Float) (current next : Float) : Float :=
  if next.isNaN || current.isNaN then Numeral.nan else pick current next

section Arguments

variable {κ : Type} [LinearOrder κ] {pick : Float → Float → Float}
  {beyond : Float → Float → Prop} {score : Float → κ} {first : Float} {rest : List Float}

theorem PicksBeyond.pick_number (picks : PicksBeyond pick beyond score) {left right : Float}
    (leftNumber : left.isNaN = false) (rightNumber : right.isNaN = false) :
    (pick left right).isNaN = false := by
  rcases picks.picks left right with ⟨picked, _⟩ | ⟨picked, _⟩
  · rw [picked, leftNumber]
  · rw [picked, rightNumber]

theorem PicksBeyond.foldl_pickPresent (picks : PicksBeyond pick beyond score)
    (numbers : ∀ value ∈ first :: rest, value.isNaN = false) :
    rest.foldl (pickPresent pick) first = rest.foldl pick first := by
  induction rest generalizing first with
  | nil => rfl
  | cons second rest ih =>
    obtain ⟨firstNumber, others⟩ := List.forall_mem_cons.mp numbers
    obtain ⟨secondNumber, others⟩ := List.forall_mem_cons.mp others
    have step : pickPresent pick first second = pick first second := by
      unfold pickPresent
      rw [firstNumber, secondNumber]
      rfl
    rw [List.foldl_cons, List.foldl_cons, step]
    exact ih (List.forall_mem_cons.mpr ⟨picks.pick_number firstNumber secondNumber, others⟩)

/-- Once a value is missing, so are all that the fold goes on with. -/
theorem foldl_pickPresent_missing (pick : Float → Float → Float)
    (missing : ∃ value ∈ first :: rest, value.isNaN = true) :
    (rest.foldl (pickPresent pick) first).isNaN = true := by
  induction rest generalizing first with
  | nil =>
    obtain ⟨value, member, isMissing⟩ := missing
    cases List.mem_singleton.mp member
    exact isMissing
  | cons second rest ih =>
    rw [List.foldl_cons]
    refine ih ?_
    by_cases here : second.isNaN || first.isNaN
    · refine ⟨_, List.mem_cons_self, ?_⟩
      rw [pickPresent, if_pos here]
      exact isNaN_nan
    · rw [Bool.or_eq_true, not_or] at here
      obtain ⟨value, member, isMissing⟩ := missing
      rcases List.mem_cons.mp member with rfl | member
      · exact absurd isMissing here.2
      rcases List.mem_cons.mp member with rfl | behind
      · exact absurd isMissing here.1
      · exact ⟨value, List.mem_cons_of_mem _ behind, isMissing⟩

theorem PicksBeyond.foldl_pickPresent_extreme (picks : PicksBeyond pick beyond score)
    (first : Float) (rest : List Float) :
    ExtremeOfAll beyond (first :: rest) (rest.foldl (pickPresent pick) first) := by
  by_cases missing : ∃ value ∈ first :: rest, value.isNaN = true
  · have isMissing := foldl_pickPresent_missing pick missing
    refine ⟨iff_of_true isMissing missing, fun number => ?_⟩
    rw [isMissing] at number
    cases number
  · have numbers : ∀ value ∈ first :: rest, value.isNaN = false := fun value member =>
      Bool.eq_false_iff.mpr fun isMissing => missing ⟨value, member, isMissing⟩
    have isExtreme := picks.foldl_extreme numbers
    have number := numbers _ isExtreme.member
    rw [picks.foldl_pickPresent numbers]
    exact ⟨iff_of_false (Bool.eq_false_iff.mp number) missing, fun _ => isExtreme⟩

end Arguments

end Series

/-! ## Calls -/

theorem Value.asNumber_of_numeric? {value : Value} {number : Float}
    (numeric : value.numeric? = some number) (operation : String) :
    value.asNumber operation = .ok number := by
  cases value with
  | number | boolean => exact congrArg Except.ok (Option.some.inj numeric)
  | string | color => cases numeric

theorem mapM_asNumber {values : List Value} {numbers : List Float}
    (numeric : values.map Value.numeric? = numbers.map some) (operation : String) :
    values.mapM (·.asNumber operation) = .ok numbers := by
  induction values generalizing numbers with
  | nil =>
    cases numbers with
    | nil => rfl
    | cons => cases numeric
  | cons value values ih =>
    cases numbers with
    | nil => cases numeric
    | cons number numbers =>
      obtain ⟨isNumber, others⟩ := List.cons.inj numeric
      rw [List.mapM_cons, Value.asNumber_of_numeric? isNumber, ih others]
      rfl

theorem Arguments.extreme_of_numeric {arguments : Arguments} {first : Float} {rest : List Float}
    (numeric : arguments.values.map Value.numeric? = (first :: rest).map some)
    (choose : Float → Float → Float) :
    arguments.extreme choose = .ok (rest.foldl (Series.pickPresent choose) first) := by
  unfold Arguments.extreme
  rw [mapM_asNumber numeric]
  rfl

theorem Builtin.outcome_extreme (context : Context) (site : Nat) (sources : List (Series Float))
    (arguments : Arguments) (state : RunState) :
    Eval.outcome (Builtin.max.apply context site sources arguments) state =
        (.number <$> arguments.extreme Series.larger, state) ∧
      Eval.outcome (Builtin.min.apply context site sources arguments) state =
        (.number <$> arguments.extreme Series.smaller, state) := by
  have computed (extreme : Except RunError Float) :
      (do return Value.number (← extreme)) = Value.number <$> extreme := by
    cases extreme <;> rfl
  exact ⟨congrArg (·, state) (computed _), congrArg (·, state) (computed _)⟩

section Calls

variable {context : Context} {call : Call} {builtin : Builtin} {state after : RunState}
  {sources : List (Series Float)} {passed : Arguments} {numbers : List Float}

/-- A call that folds its positional arguments has the extreme one of them as its value. -/
theorem Call.outcome_extreme {κ : Type} [LinearOrder κ] {pick : Float → Float → Float}
    {beyond : Float → Float → Prop} {score : Float → κ}
    (picks : Series.PicksBeyond pick beyond score)
    (found : Builtin.ofName? call.function = some builtin)
    (evaluated : Eval.outcome (call.evaluatePassed context builtin) state =
      (.ok (sources, passed), after))
    (applies : Eval.outcome (builtin.apply context call.site sources passed) after =
      (.number <$> passed.extreme pick, after))
    (nonempty : numbers ≠ [])
    (numeric : passed.values.map Value.numeric? = numbers.map some) :
    ∃ result, Eval.outcome (call.evaluate context) state = (.ok (.number result), after) ∧
      Series.ExtremeOfAll beyond numbers result := by
  obtain ⟨first, rest, rfl⟩ := List.exists_cons_of_ne_nil nonempty
  refine ⟨_, ?_, picks.foldl_pickPresent_extreme first rest⟩
  rw [Call.evaluate_of_found found, Eval.outcome_bind, evaluated]
  simp only [applies, Arguments.extreme_of_numeric numeric]
  rfl

end Calls

namespace Series

/-- The extremes of a window are missing only where it has no number, and those of arguments
wherever one of them is missing. All others are extremes of the numbers. -/
theorem extremes_with_missing_values :
    (∀ (series : Series Float) (bar length : Nat),
      ExtremeOfPresent (· > ·) ((series.drop bar).take length)
        (highest (series.drop bar) length) ∧
      ExtremeOfPresent (· < ·) ((series.drop bar).take length)
        (lowest (series.drop bar) length)) ∧
    ∀ (context : Context) (call : Call) (state after : RunState) (sources : List (Series Float))
      (passed : Arguments) (numbers : List Float),
      numbers ≠ [] → passed.values.map Value.numeric? = numbers.map some →
      (Builtin.ofName? call.function = some .max →
        Eval.outcome (call.evaluatePassed context .max) state = (.ok (sources, passed), after) →
        ∃ result, Eval.outcome (call.evaluate context) state = (.ok (.number result), after) ∧
          ExtremeOfAll (· > ·) numbers result) ∧
      (Builtin.ofName? call.function = some .min →
        Eval.outcome (call.evaluatePassed context .min) state = (.ok (sources, passed), after) →
        ∃ result, Eval.outcome (call.evaluate context) state = (.ok (.number result), after) ∧
          ExtremeOfAll (· < ·) numbers result) := by
  refine ⟨fun series bar length => ⟨?_, ?_⟩, ?_⟩
  · exact combinePresent_extreme larger_picksBeyond _
  · exact combinePresent_extreme smaller_picksBeyond _
  · intro context call state after sources passed numbers nonempty numeric
    obtain ⟨ofMax, ofMin⟩ := Builtin.outcome_extreme context call.site sources passed after
    constructor
    · intro found evaluated
      exact Call.outcome_extreme larger_picksBeyond found evaluated ofMax nonempty numeric
    · intro found evaluated
      exact Call.outcome_extreme smaller_picksBeyond found evaluated ofMin nonempty numeric

def missingSecond (function : String) : Call :=
  .mk function 0 [.number 2.0 .nowhere, .name "na" .nowhere, .boolean true .nowhere] []

def bareState : RunState := ⟨.empty [] 0, .empty⟩

theorem extremes_with_missing_values_second :
    (∃ result, Eval.outcome ((missingSecond "max").evaluate ⟨[], none⟩) bareState =
        (.ok (.number result), bareState) ∧ ExtremeOfAll (· > ·) [2.0, Numeral.nan, 1.0] result) ∧
    ∃ result, Eval.outcome ((missingSecond "min").evaluate ⟨[], none⟩) bareState =
        (.ok (.number result), bareState) ∧ ExtremeOfAll (· < ·) [2.0, Numeral.nan, 1.0] result := by
  have passes (function : String) : ∃ passed : Arguments,
      passed.values.map Value.numeric? = [2.0, Numeral.nan, 1.0].map some ∧
      ∀ builtin ∈ [Builtin.max, Builtin.min],
        Eval.outcome ((missingSecond function).evaluatePassed ⟨[], none⟩ builtin) bareState =
          (.ok ([], passed), bareState) := by
    refine ⟨⟨function, [some (.number 2.0), some .na, some (.boolean true)], []⟩, rfl, ?_⟩
    exact List.forall_mem_cons.mpr ⟨rfl, List.forall_mem_singleton.mpr rfl⟩
  have calls := extremes_with_missing_values.2 ⟨[], none⟩
  constructor
  · obtain ⟨passed, numeric, evaluated⟩ := passes "max"
    exact (calls (missingSecond "max") bareState bareState [] passed _ (List.cons_ne_nil _ _)
      numeric).1 rfl (evaluated .max (by decide))
  · obtain ⟨passed, numeric, evaluated⟩ := passes "min"
    exact (calls (missingSecond "min") bareState bareState [] passed _ (List.cons_ne_nil _ _)
      numeric).2 rfl (evaluated .min (by decide))

end Series

end ChartScript
