/-!
# Tables

Values under keys, in the order in which the keys came.
-/

set_option autoImplicit false

namespace ChartScript

abbrev Table (κ ν : Type) := List (κ × ν)

namespace Table

variable {κ ν : Type} [DecidableEq κ]

def get? (table : Table κ ν) (key : κ) : Option ν :=
  (table.find? (·.1 = key)).map (·.2)

/-- Changes the value under a key, if there is one. -/
def modify (table : Table κ ν) (key : κ) (change : ν → ν) : Table κ ν :=
  table.map fun entry => if entry.1 = key then (entry.1, change entry.2) else entry

/-- Puts a value under a key, in the place of the value before or at the end. -/
def set (table : Table κ ν) (key : κ) (value : ν) : Table κ ν :=
  match table.get? key with
  | some _ => table.modify key fun _ => value
  | none => table ++ [(key, value)]

def setNew (table : Table κ ν) (key : κ) (value : ν) : Table κ ν :=
  match table.get? key with
  | some _ => table
  | none => table ++ [(key, value)]

/-! ## What is found -/

variable (table : Table κ ν) (key other : κ) (value : ν) (change : ν → ν)

@[simp]
theorem get?_nil : get? ([] : Table κ ν) key = none := rfl

theorem get?_cons (first : κ) (found : ν) :
    get? ((first, found) :: table) key = if first = key then some found else table.get? key := by
  by_cases same : first = key <;> simp [get?, same]

variable {table key} in
theorem get?_eq_none_iff : table.get? key = none ↔ key ∉ table.map Prod.fst := by
  induction table with
  | nil => simp
  | cons entry rest ih =>
    obtain ⟨first, found⟩ := entry
    rw [get?_cons, List.map_cons, List.mem_cons]
    by_cases same : first = key
    · simp [same]
    · rw [if_neg same, ih]
      simp [Ne.symm same]

theorem get?_append_single :
    get? (table ++ [(other, value)]) key =
      (table.get? key).or (if other = key then some value else none) := by
  induction table with
  | nil => simp [get?_cons]
  | cons entry rest ih =>
    obtain ⟨first, found⟩ := entry
    rw [List.cons_append, get?_cons, get?_cons, ih]
    by_cases same : first = key <;> simp [same]

theorem get?_modify :
    (table.modify other change).get? key =
      if other = key then (table.get? key).map change else table.get? key := by
  induction table with
  | nil => simp [modify]
  | cons entry rest ih =>
    obtain ⟨first, found⟩ := entry
    have step : modify ((first, found) :: rest) other change =
        (first, if first = other then change found else found) :: modify rest other change := by
      by_cases same : first = other <;> simp [modify, same]
    rw [step, get?_cons, get?_cons, ih]
    by_cases isKey : first = key
    · subst isKey
      by_cases same : other = first <;> simp [same, eq_comm]
    · simp [isKey]

@[simp]
theorem get?_set_self : (table.set key value).get? key = some value := by
  unfold set
  cases found : table.get? key <;> simp [get?_modify, get?_append_single, found]

theorem get?_set_of_ne (differ : other ≠ key) :
    (table.set other value).get? key = table.get? key := by
  unfold set
  cases found : table.get? other <;> simp [get?_modify, get?_append_single, differ]

theorem get?_setNew :
    (table.setNew other value).get? key =
      (table.get? key).or (if other = key then some value else none) := by
  unfold setNew
  cases found : table.get? other with
  | none => simp [get?_append_single]
  | some kept =>
    by_cases same : other = key
    · subst same; simp [found]
    · simp [same]

theorem get?_map {ω : Type} (view : ν → ω) :
    get? (table.map fun entry => (entry.1, view entry.2)) key = (table.get? key).map view := by
  induction table with
  | nil => rfl
  | cons entry rest ih =>
    obtain ⟨first, found⟩ := entry
    rw [List.map_cons, get?_cons, get?_cons, ih]
    by_cases same : first = key <;> simp [same]

/-- All keys of a list under the same value. -/
theorem get?_map_const (keys : List κ) (member : key ∈ keys) :
    get? (keys.map fun first => (first, value)) key = some value := by
  induction keys with
  | nil => cases member
  | cons first rest ih =>
    rw [List.map_cons, get?_cons]
    by_cases same : first = key
    · rw [if_pos same]
    · rw [if_neg same]
      exact ih ((List.mem_cons.mp member).resolve_left (Ne.symm same))

/-! ## What stays -/

theorem prefix_setNew : table <+: table.setNew key value := by
  unfold setNew
  cases table.get? key with
  | some _ => exact List.prefix_rfl
  | none => exact List.prefix_append _ _

theorem forall_modify (property : ν → Prop) (kept : ∀ value, property value → property (change value))
    (holds : ∀ entry ∈ table, property entry.2) :
    ∀ entry ∈ table.modify key change, property entry.2 := by
  intro entry member
  obtain ⟨before, known, rfl⟩ := List.mem_map.mp member
  by_cases isKey : before.1 = key
  · rw [if_pos isKey]
    exact kept before.2 (holds before known)
  · rw [if_neg isKey]
    exact holds before known

theorem forall_setNew (property : ν → Prop) (new : property value)
    (holds : ∀ entry ∈ table, property entry.2) :
    ∀ entry ∈ table.setNew key value, property entry.2 := by
  intro entry member
  unfold setNew at member
  cases found : table.get? key with
  | some _ =>
    rw [found] at member
    exact holds entry member
  | none =>
    rw [found] at member
    rcases List.mem_append.mp member with old | added
    · exact holds entry old
    · cases List.mem_singleton.mp added
      exact new

/-- A view that does not see the change is the same on all entries. -/
theorem map_modify {ω : Type} (view : ν → ω) (unseen : ∀ value, view (change value) = view value) :
    (table.modify key change).map (fun entry => (entry.1, view entry.2)) =
      table.map fun entry => (entry.1, view entry.2) := by
  rw [modify, List.map_map]
  refine List.map_congr_left fun entry _ => ?_
  by_cases isKey : entry.1 = key <;> simp [isKey, unseen]

end Table

end ChartScript
