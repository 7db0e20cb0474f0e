import ChartScript.Candle.PriceField
import ChartScript.Indicator
import ChartScript.Table
import ChartScript.Value

/-!
# Memory of a run

What a script can look back at while it runs from the oldest bar to the newest: the bars so far,
the values of its variables, and for each site what was evaluated there. Every series starts at
the current bar, and `Memory.openBar` gives all of them a next bar. `Loaded.Memory` keeps the same
over a window that is there from the start, where newer bars could be read.
-/

set_option autoImplicit false

namespace ChartScript

inductive Slot where
  | numeric (values : Series Float)
  | scalar (value : Value)

inductive Operand where
  | first
  | second
deriving Repr, DecidableEq

/-- The series of one site: its operands where they are not series themselves, and its result. -/
structure SiteMemory where
  first : Series Float
  second : Series Float
  result : Series Float

namespace SiteMemory

def empty : SiteMemory := ⟨[], [], []⟩

def openBar (site : SiteMemory) : SiteMemory :=
  ⟨site.first.openBar, site.second.openBar, site.result.openBar⟩

def operand (site : SiteMemory) : Operand → Series Float
  | .first => site.first
  | .second => site.second

def setOperand (site : SiteMemory) (operand : Operand) (value : Float) : SiteMemory :=
  match operand with
  | .first => { site with first := site.first.setNow value }
  | .second => { site with second := site.second.setNow value }

def setResult (site : SiteMemory) (value : Float) : SiteMemory :=
  { site with result := site.result.setNow value }

end SiteMemory

structure Memory where
  /-- The bars so far, the current one first. -/
  bars : List Bar
  slots : Table String Slot
  sites : Array SiteMemory

namespace Memory

/-- The memory before the first bar. A variable named as a price field is left out. -/
def empty (names : List String) (siteCount : Nat) : Memory where
  bars := []
  slots := (names.filter (PriceField.ofName? · |>.isNone)).map fun name =>
    (name, .numeric [])
  sites := Array.replicate siteCount .empty

def openSlot : Slot → Slot
  | .numeric values => .numeric values.openBar
  | .scalar value => .scalar value

/-- Makes a candle the current bar. Nothing has a value on it yet. -/
def openBar (memory : Memory) (candle : Candle) : Memory where
  bars := ⟨candle, memory.bars.length⟩ :: memory.bars
  slots := memory.slots.map fun (name, slot) => (name, openSlot slot)
  sites := memory.sites.map SiteMemory.openBar

def barIndex (memory : Memory) : Nat :=
  match memory.bars with
  | [] => 0
  | bar :: _ => bar.index

def prices (memory : Memory) (field : PriceField) : Series Float :=
  memory.bars.map field.value

def numeric? (memory : Memory) (name : String) : Option (Series Float) :=
  match memory.slots.get? name with
  | some (.numeric values) => some values
  | some (.scalar _) => none
  | none => (PriceField.ofName? name).map memory.prices

def isScalar (memory : Memory) (name : String) : Bool :=
  match memory.slots.get? name with
  | some (.scalar _) => true
  | _ => false

def load? (memory : Memory) (name : String) : Option Value :=
  match memory.slots.get? name with
  | some (.numeric values) => some (.number values.now)
  | some (.scalar value) => some value
  | none => (PriceField.ofName? name).map fun field => .number (memory.prices field).now

def assignment (name : String) : String :=
  "assignment to '" ++ name ++ "'"

/-- Assigns to a slot. A variable that has no number on any bar can take another kind of value,
and takes numbers no more after that. -/
def assign (name : String) (slot : Slot) (value : Value) : Except RunError Slot :=
  match slot, value.numeric? with
  | .numeric values, some number => .ok (.numeric (values.setNow number))
  | .numeric values, none =>
    if values.all Float.isNaN then .ok (.scalar value)
    else .error (value.mismatch (assignment name) .number)
  | .scalar current, some _ =>
    if value.isNa then .ok (.scalar value)
    else .error (value.mismatch (assignment name) current.type)
  | .scalar _, none => .ok (.scalar value)

def store (memory : Memory) (name : String) (value : Value) : Except RunError Memory :=
  match PriceField.ofName? name with
  | some _ => .error (.readOnlyVariable name)
  | none => do
    let unassigned := Slot.numeric (memory.bars.map fun _ => Numeral.nan)
    let slot ← assign name ((memory.slots.get? name).getD unassigned) value
    return { memory with slots := memory.slots.set name slot }

def site (memory : Memory) (number : Nat) : SiteMemory :=
  memory.sites.getD number .empty

def setOperand (memory : Memory) (site : Nat) (operand : Operand) (value : Float) : Memory :=
  { memory with sites := memory.sites.modify site (·.setOperand operand value) }

def setResult (memory : Memory) (site : Nat) (value : Float) : Memory :=
  { memory with sites := memory.sites.modify site (·.setResult value) }

end Memory

end ChartScript
