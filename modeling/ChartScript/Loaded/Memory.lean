import ChartScript.Loaded.Column
import ChartScript.Memory

/-!
# Memory over a loaded window

All candles are there from the start, and every series is a column over the whole window. A run
goes back and forth in them by indexes: what it reads and what it assigns is at the index of the
current bar, or at an offset from it.
-/

set_option autoImplicit false

namespace ChartScript.Loaded

inductive Slot where
  | numeric (column : Column)
  | scalar (value : Value)

structure Site where
  first : Column
  second : Column
  result : Column

namespace Site

def blank (bars : Nat) : Site :=
  ⟨.blank bars, .blank bars, .blank bars⟩

def operand (site : Site) : Operand → Column
  | .first => site.first
  | .second => site.second

def setOperand (site : Site) (operand : Operand) (bar : Nat) (value : Float) : Site :=
  match operand with
  | .first => { site with first := site.first.set bar value }
  | .second => { site with second := site.second.set bar value }

def setResult (site : Site) (bar : Nat) (value : Float) : Site :=
  { site with result := site.result.set bar value }

end Site

structure Memory where
  /-- The index of the current bar; the newest one has index zero. -/
  bar : Nat
  bars : List Bar
  slots : Table String Slot
  sites : Array Site

/-- The bars of a window; each one knows how many are older. -/
def barsOf (window : List Candle) : List Bar :=
  window.mapIdx fun index candle => ⟨candle, window.length - 1 - index⟩

namespace Memory

def load (names : List String) (siteCount : Nat) (window : List Candle) : Memory where
  bar := window.length - 1
  bars := barsOf window
  slots := (names.filter (PriceField.ofName? · |>.isNone)).map fun name =>
    (name, .numeric (.blank window.length))
  sites := Array.replicate siteCount (.blank window.length)

/-! ## Variables and price fields -/

def prices (memory : Memory) (field : PriceField) : Column :=
  memory.bars.map field.value

def column? (memory : Memory) (name : String) : Option Column :=
  match memory.slots.get? name with
  | some (.numeric column) => some column
  | some (.scalar _) => none
  | none => (PriceField.ofName? name).map memory.prices

def isScalar (memory : Memory) (name : String) : Bool :=
  match memory.slots.get? name with
  | some (.scalar _) => true
  | _ => false

def load? (memory : Memory) (name : String) : Option Value :=
  match memory.slots.get? name with
  | some (.numeric column) => some (.number (column.value memory.bar))
  | some (.scalar value) => some value
  | none => (PriceField.ofName? name).map fun field =>
    .number ((memory.prices field).value memory.bar)

/-- Assigns to a slot on a bar. Whether a variable has a number yet is asked of its whole column. -/
def assign (name : String) (bar : Nat) (slot : Slot) (value : Value) : Except RunError Slot :=
  match slot, value.numeric? with
  | .numeric column, some number => .ok (.numeric (column.set bar number))
  | .numeric column, none =>
    if column.all Float.isNaN then .ok (.scalar value)
    else .error (value.mismatch (ChartScript.Memory.assignment name) .number)
  | .scalar current, some _ =>
    if value.isNa then .ok (.scalar value)
    else .error (value.mismatch (ChartScript.Memory.assignment name) current.type)
  | .scalar _, none => .ok (.scalar value)

def store (memory : Memory) (name : String) (value : Value) : Except RunError Memory :=
  match PriceField.ofName? name with
  | some _ => .error (.readOnlyVariable name)
  | none => do
    let unassigned := Slot.numeric (.blank memory.bars.length)
    let slot ← assign name memory.bar ((memory.slots.get? name).getD unassigned) value
    return { memory with slots := memory.slots.set name slot }

/-! ## Sites -/

def operand (memory : Memory) (site : Nat) (operand : Operand) : Column :=
  (memory.sites[site]?.map (·.operand operand)).getD []

def result (memory : Memory) (site : Nat) : Column :=
  (memory.sites[site]?.map Site.result).getD []

def setOperand (memory : Memory) (site : Nat) (operand : Operand) (value : Float) : Memory :=
  { memory with sites := memory.sites.modify site (·.setOperand operand memory.bar value) }

def setResult (memory : Memory) (site : Nat) (value : Float) : Memory :=
  { memory with sites := memory.sites.modify site (·.setResult memory.bar value) }

end Memory

end ChartScript.Loaded
