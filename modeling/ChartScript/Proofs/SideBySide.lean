import ChartScript.Proofs.Simulation

/-!
# A run that looks back on a variable

Two runs side by side, of which the first looks back on an operand from a site and the second on a
variable that the operand has been assigned to. What the second run has as the values of the
variable is what the first one looks back on: the prices of a field, or what the site has kept.
-/

set_option autoImplicit false

namespace ChartScript

namespace Series

variable (series : Series Float) (value other : Float)

theorem setNow_setNow : setNow (setNow series value) other = setNow series other := by
  cases series <;> rfl

theorem setNow_now : setNow series (now series) = series := by
  cases series <;> rfl

end Series

namespace SiteMemory

variable (site : SiteMemory) (value : Float)

theorem result_setOperand (operand : Operand) :
    (site.setOperand operand value).result = site.result := by
  cases operand <;> rfl

theorem operand_setResult (operand : Operand) :
    (site.setResult value).operand operand = site.operand operand := by
  cases operand <;> rfl

theorem operand_setOperand (operand other : Operand) :
    (site.setOperand operand value).operand other =
      if operand = other then Series.setNow (site.operand other) value
      else site.operand other := by
  cases operand <;> cases other <;> rfl

theorem operand_openBar (operand : Operand) :
    site.openBar.operand operand = Series.openBar (site.operand operand) := by
  cases operand <;> rfl

end SiteMemory

namespace Memory

variable (memory : Memory) (site other : Nat) (value : Float)

/-- A site that is out of range stays empty, so it changes in the same way. -/
theorem site_modify {change : SiteMemory → SiteMemory} (unset : change .empty = .empty) :
    ({ memory with sites := memory.sites.modify site change } : Memory).site other =
      if site = other then change (memory.site other) else memory.site other := by
  simp only [Memory.site, Array.getD_eq_getD_getElem?, Array.getElem?_modify]
  split
  · cases memory.sites[other]? with
    | none => exact unset.symm
    | some _ => rfl
  · rfl

theorem site_setOperand (operand : Operand) :
    (memory.setOperand site operand value).site other =
      if site = other then (memory.site other).setOperand operand value
      else memory.site other :=
  memory.site_modify site other (by cases operand <;> rfl)

theorem site_setResult :
    (memory.setResult site value).site other =
      if site = other then (memory.site other).setResult value else memory.site other :=
  memory.site_modify site other rfl

theorem result_setOperand (operand : Operand) :
    ((memory.setOperand site operand value).site other).result = (memory.site other).result := by
  rw [site_setOperand]
  split
  · exact SiteMemory.result_setOperand ..
  · rfl

theorem operand_setResult (operand : Operand) :
    ((memory.setResult site value).site other).operand operand =
      (memory.site other).operand operand := by
  rw [site_setResult]
  split
  · exact SiteMemory.operand_setResult ..
  · rfl

@[simp]
theorem size_openBar (candle : Candle) :
    (memory.openBar candle).sites.size = memory.sites.size :=
  Array.size_map

@[simp]
theorem size_setOperand (operand : Operand) :
    (memory.setOperand site operand value).sites.size = memory.sites.size :=
  Array.size_modify

@[simp]
theorem size_setResult :
    (memory.setResult site value).sites.size = memory.sites.size :=
  Array.size_modify

theorem site_openBar (candle : Candle) :
    (memory.openBar candle).site site =
      if site < memory.sites.size then (memory.site site).openBar else .empty := by
  simp only [Memory.site, Memory.openBar, Array.getD_eq_getD_getElem?, Array.getElem?_map]
  split
  case isTrue within => rw [Array.getElem?_eq_getElem within, Option.map_some]; rfl
  case isFalse outside => rw [Array.getElem?_eq_none (Nat.le_of_not_lt outside)]; rfl

end Memory

/-! ## Two runs side by side -/

/-- The price field that a name stands for. -/
def Expr.field? : Expr → Option PriceField
  | .name path _ => PriceField.ofName? path
  | _ => none

theorem Expr.of_field? {expr : Expr} {field : PriceField} (known : expr.field? = some field) :
    ∃ path span, expr = .name path span ∧ PriceField.ofName? path = some field := by
  cases expr with
  | name path span => exact ⟨path, span, rfl, known⟩
  | _ => cases known

/-- What an operand is looked back on as: the prices of a field, or what its site has kept. -/
def Memory.lookedAt (memory : Memory) (site : Nat) (operand : Expr) : Series Float :=
  match operand.field? with
  | some field => memory.prices field
  | none => (memory.site site).first

/-- A name is not that of an expression. Price fields are never assigned to. -/
def NotNamed (operand : Expr) (name : String) : Prop :=
  ∀ path span, operand = .name path span → PriceField.ofName? path = none → name ≠ path

/-- Two runs side by side. The first one looks back on an operand from a site and the second one
on a variable, which has as its values a view of what the first run looks back on. -/
structure Beside (number : Nat → Nat) (site : Nat) (operand : Expr) (target : String)
    (view : Series Float → Series Float) (left right : RunState) : Prop where
  bars : right.memory.bars = left.memory.bars
  slots : ∀ name, name ≠ target → right.memory.slots.get? name = left.memory.slots.get? name
  absent : left.memory.slots.get? target = none
  unnamed : ∀ path span, operand = .name path span → left.memory.slots.get? path = none
  sizes : ∀ other, number other < right.memory.sites.size ↔ other < left.memory.sites.size
  present : site < left.memory.sites.size
  results : ∀ other, (right.memory.site (number other)).result = (left.memory.site other).result
  operands : ∀ other, other ≠ site → ∀ which,
    (right.memory.site (number other)).operand which = (left.memory.site other).operand which
  values : right.memory.slots.get? target =
    some (.numeric (view (left.memory.lookedAt site operand)))
  recorder : right.recorder = left.recorder.renumber number

section Beside

variable {number : Nat → Nat} {site : Nat} {operand : Expr} {target : String}
  {view : Series Float → Series Float} {left right : RunState}

theorem Memory.lookedAt_of_first {memory other : Memory} (bars : other.bars = memory.bars)
    (first : (other.site site).first = (memory.site site).first) :
    other.lookedAt site operand = memory.lookedAt site operand := by
  unfold Memory.lookedAt Memory.prices
  rw [bars, first]

namespace Beside

theorem setResult (beside : Beside number site operand target view left right)
    (injective : Function.Injective number) (other : Nat) (value : Float) :
    Beside number site operand target view
      { left with memory := left.memory.setResult other value }
      { right with memory := right.memory.setResult (number other) value } where
  bars := beside.bars
  slots := beside.slots
  absent := beside.absent
  unnamed := beside.unnamed
  sizes another := by
    simp only [Memory.setResult, Array.size_modify]
    exact beside.sizes another
  present := by
    simp only [Memory.setResult, Array.size_modify]
    exact beside.present
  results another := by
    rw [Memory.site_setResult, Memory.site_setResult]
    by_cases same : other = another
    · rw [if_pos same, if_pos (congrArg number same)]
      exact congrArg (Series.setNow · value) (beside.results another)
    · rw [if_neg same, if_neg (mt (fun agree => injective agree) same)]
      exact beside.results another
  operands another differs which := by
    rw [Memory.operand_setResult, Memory.operand_setResult]
    exact beside.operands another differs which
  values := by
    have same : (left.memory.setResult other value).lookedAt site operand =
        left.memory.lookedAt site operand :=
      Memory.lookedAt_of_first rfl (Memory.operand_setResult left.memory other site value .first)
    rw [same]
    exact beside.values
  recorder := beside.recorder

theorem setOperand (beside : Beside number site operand target view left right)
    (injective : Function.Injective number) {other : Nat} (differs : other ≠ site)
    (which : Operand) (value : Float) :
    Beside number site operand target view
      { left with memory := left.memory.setOperand other which value }
      { right with memory := right.memory.setOperand (number other) which value } where
  bars := beside.bars
  slots := beside.slots
  absent := beside.absent
  unnamed := beside.unnamed
  sizes another := by
    simp only [Memory.setOperand, Array.size_modify]
    exact beside.sizes another
  present := by
    simp only [Memory.setOperand, Array.size_modify]
    exact beside.present
  results another := by
    rw [Memory.result_setOperand, Memory.result_setOperand]
    exact beside.results another
  operands another apart what := by
    rw [Memory.site_setOperand, Memory.site_setOperand]
    by_cases same : other = another
    · rw [if_pos same, if_pos (congrArg number same), SiteMemory.operand_setOperand,
        SiteMemory.operand_setOperand, beside.operands another apart what]
    · rw [if_neg same, if_neg (mt (fun agree => injective agree) same)]
      exact beside.operands another apart what
  values := by
    have kept : (left.memory.setOperand other which value).site site = left.memory.site site := by
      rw [Memory.site_setOperand, if_neg differs]
    have same : (left.memory.setOperand other which value).lookedAt site operand =
        left.memory.lookedAt site operand :=
      Memory.lookedAt_of_first rfl (congrArg SiteMemory.first kept)
    rw [same]
    exact beside.values
  recorder := beside.recorder

theorem setSlot (beside : Beside number site operand target view left right) {name : String}
    (visible : name ≠ target) (unnamed : NotNamed operand name)
    (notField : PriceField.ofName? name = none) (slot : Slot) :
    Beside number site operand target view
      { left with memory := { left.memory with slots := left.memory.slots.set name slot } }
      { right with memory :=
        { right.memory with slots := right.memory.slots.set name slot } } where
  bars := beside.bars
  slots other differs := by
    by_cases same : name = other
    · rw [same, Table.get?_set_self, Table.get?_set_self]
    · rw [Table.get?_set_of_ne _ _ _ _ same, Table.get?_set_of_ne _ _ _ _ same]
      exact beside.slots other differs
  absent := (Table.get?_set_of_ne _ _ _ _ visible).trans beside.absent
  unnamed path span isName := by
    have differs : name ≠ path := by
      intro same
      exact unnamed path span isName (same ▸ notField) same
    exact (Table.get?_set_of_ne _ _ _ _ differs).trans (beside.unnamed path span isName)
  sizes := beside.sizes
  present := beside.present
  results := beside.results
  operands := beside.operands
  values := (Table.get?_set_of_ne _ _ _ _ visible).trans beside.values
  recorder := beside.recorder

theorem setRecorder (beside : Beside number site operand target view left right)
    (recorder : Recorder) :
    Beside number site operand target view { left with recorder := recorder }
      { right with recorder := recorder.renumber number } :=
  { beside with recorder := rfl }

theorem settles (injective : Function.Injective number) (other : Nat) :
    Settles (Beside number site operand target view) other (number other) where
  result beside := beside.results other
  setResult beside value := beside.setResult injective other value

theorem simulates (injective : Function.Injective number)
    (notField : PriceField.ofName? target = none) (notConstant : Value.constant? target = none) :
    Simulates number (· ≠ site) (· = target) (fun name => name ≠ target ∧ NotNamed operand name)
      (Beside number site operand target view) where
  injective := injective
  notField := by
    rintro name rfl
    exact notField
  notConstant := by
    rintro name rfl
    exact notConstant
  visible assignable := assignable.1
  bars beside := beside.bars
  slots beside visible := beside.slots _ visible
  absent beside isTarget := isTarget ▸ beside.absent
  notScalar beside isTarget := by
    rw [isTarget, Memory.isScalar, beside.values]
  operand beside differs which := beside.operands _ differs which
  recorder beside := beside.recorder
  settles _ := settles injective _
  setOperand beside differs := beside.setOperand injective differs
  setSlot beside assignable notField := beside.setSlot assignable.1 assignable.2 notField
  setRecorder beside := beside.setRecorder

/-! ## Opening a bar -/

theorem lookedAt_openBar {memory : Memory} (candle : Candle) (present : site < memory.sites.size) :
    Series.setNow ((memory.openBar candle).lookedAt site operand) Numeral.nan =
      Series.openBar (memory.lookedAt site operand) := by
  unfold Memory.lookedAt
  cases operand.field? with
  | some field => rfl
  | none =>
    simp only [memory.site_openBar site candle, if_pos present]
    rfl

/-- On a bar that opens the variable has no value. -/
theorem openBar (beside : Beside number site operand target id left right) (candle : Candle) :
    Beside number site operand target (Series.setNow · Numeral.nan) (left.openBar candle)
      (right.openBar candle) where
  bars := by
    simp only [RunState.openBar, Memory.openBar, beside.bars]
  slots name differs := by
    rw [RunState.get?_openBar, RunState.get?_openBar, beside.slots name differs]
  absent := by
    rw [RunState.get?_openBar, beside.absent, Option.map_none]
  unnamed path span isName := by
    rw [RunState.get?_openBar, beside.unnamed path span isName, Option.map_none]
  sizes other := by
    simp only [RunState.openBar, Memory.openBar, Array.size_map]
    exact beside.sizes other
  present := by
    simp only [RunState.openBar, Memory.openBar, Array.size_map]
    exact beside.present
  results other := by
    simp only [RunState.openBar, Memory.site_openBar, beside.sizes other]
    split
    · exact congrArg Series.openBar (beside.results other)
    · rfl
  operands other differs which := by
    simp only [RunState.openBar, Memory.site_openBar, beside.sizes other]
    split
    · rw [SiteMemory.operand_openBar, SiteMemory.operand_openBar,
        beside.operands other differs which]
    · rfl
  values := by
    rw [right.openBar_slot target candle beside.values]
    exact congrArg (some <| Slot.numeric ·) (lookedAt_openBar candle beside.present).symm
  recorder := by
    have opened (state : RunState) : (state.openBar candle).recorder = state.recorder.openBar := rfl
    rw [opened, opened, beside.recorder, Recorder.openBar_renumber]

theorem lookedAt_setOperand {memory : Memory} (recorded : operand.field? = none) (value : Float) :
    (memory.setOperand site .first value).lookedAt site operand =
      Series.setNow (memory.lookedAt site operand) value := by
  rw [Memory.lookedAt, Memory.lookedAt, recorded, Memory.site_setOperand, if_pos rfl]
  rfl

/-- What the site keeps on a bar that is open does not show where the variable has no value. -/
theorem record (beside : Beside number site operand target (Series.setNow · Numeral.nan) left right)
    (recorded : operand.field? = none) (value : Float) :
    Beside number site operand target (Series.setNow · Numeral.nan)
      { left with memory := left.memory.setOperand site .first value } right where
  bars := beside.bars
  slots := beside.slots
  absent := beside.absent
  unnamed := beside.unnamed
  sizes other := by
    simp only [Memory.setOperand, Array.size_modify]
    exact beside.sizes other
  present := by
    simp only [Memory.setOperand, Array.size_modify]
    exact beside.present
  results other := by
    rw [Memory.result_setOperand]
    exact beside.results other
  operands other differs which := by
    rw [Memory.site_setOperand, if_neg (Ne.symm differs)]
    exact beside.operands other differs which
  values := by
    rw [lookedAt_setOperand recorded, Series.setNow_setNow]
    exact beside.values
  recorder := beside.recorder

/-- The variable takes the value that the first run looks back on as the newest one. -/
theorem name (beside : Beside number site operand target (Series.setNow · Numeral.nan) left right)
    {value : Value} {newest : Float} (numeric : value.numeric? = some newest)
    (notField : PriceField.ofName? target = none)
    (now : Series.setNow (left.memory.lookedAt site operand) newest =
      left.memory.lookedAt site operand) :
    ∃ next, Eval.outcome (Eval.store target value) right = (.ok (), next) ∧
      Beside number site operand target id left next := by
  let slot := Slot.numeric (left.memory.lookedAt site operand)
  have stored : right.memory.store target value =
      .ok { right.memory with slots := right.memory.slots.set target slot } := by
    simp only [Memory.store, notField, beside.values, Option.getD_some, Memory.assign, numeric,
      Series.setNow_setNow, now]
    rfl
  refine ⟨_, by rw [Eval.outcome_store, stored], ?_⟩
  exact
    { beside with
      slots := fun name differs =>
        (Table.get?_set_of_ne _ _ _ _ (Ne.symm differs)).trans (beside.slots name differs)
      values := Table.get?_set_self _ _ _ }

end Beside

end Beside

end ChartScript
