import ChartScript.Proofs.ExchangedAssignments

/-!
# What statements leave alone

Statements change what their own sites keep and the variables they assign to. What comes behind
them on a bar can rely on everything else: `RunState.Spares` says what of the memory is as before.
Two runs that share the sites of some statements execute them alike, whatever else they remember,
and both keep what the statements spare.
-/

set_option autoImplicit false

namespace ChartScript

namespace RunState

/-! ## Memory -/

/-- The memory has not changed but in what some sites keep and in some variables. -/
structure Spares (sites : Nat → Prop) (names : String → Prop) (before after : RunState) : Prop where
  bars : after.memory.bars = before.memory.bars
  slots : ∀ name, ¬names name → after.memory.slots.get? name = before.memory.slots.get? name
  size : after.memory.sites.size = before.memory.sites.size
  others : ∀ site, ¬sites site → after.memory.site site = before.memory.site site

/-- Two states agree on the bars, on all variables and on some sites, and the same has been drawn
under other numbers of the sites. -/
structure Shares (number : Nat → Nat) (sites : Nat → Prop) (left right : RunState) : Prop where
  agrees : left.Agrees (fun _ => True) sites right
  sizes : ∀ site, sites site → (site < right.memory.sites.size ↔ site < left.memory.sites.size)
  recorder : right.recorder = left.recorder.renumber number

section Sparing

variable {sites : Nat → Prop} {names : String → Prop} {before between after : RunState}

namespace Spares

theorem refl (state : RunState) : state.Spares sites names state :=
  ⟨rfl, fun _ _ => rfl, rfl, fun _ _ => rfl⟩

theorem modifySite {site : Nat} {change : SiteMemory → SiteMemory}
    (spares : before.Spares sites names after) (unset : change .empty = .empty)
    (isOwn : sites site) : before.Spares sites names (after.modifySite site change) where
  bars := spares.bars
  slots := spares.slots
  size := by simp only [RunState.modifySite, Array.size_modify, spares.size]
  others other foreign := by
    have differs : site ≠ other := by
      rintro rfl
      exact foreign isOwn
    simp only [RunState.modifySite, Memory.site_modify _ _ _ unset, if_neg differs]
    exact spares.others other foreign

theorem setSlot {name : String} (spares : before.Spares sites names after) (isOwn : names name)
    (slot : Slot) : before.Spares sites names
      { after with memory := { after.memory with slots := after.memory.slots.set name slot } } where
  bars := spares.bars
  slots other foreign := by
    have differs : name ≠ other := by
      rintro rfl
      exact foreign isOwn
    exact (Table.get?_set_of_ne _ _ _ _ differs).trans (spares.slots other foreign)
  size := spares.size
  others := spares.others

theorem setRecorder (spares : before.Spares sites names after) (recorder : Recorder) :
    before.Spares sites names { after with recorder := recorder } :=
  ⟨spares.bars, spares.slots, spares.size, spares.others⟩

theorem numeric? (spares : before.Spares sites names after) {name : String}
    (foreign : ¬names name) : after.memory.numeric? name = before.memory.numeric? name := by
  unfold Memory.numeric? Memory.prices
  rw [spares.slots name foreign, spares.bars]

end Spares

end Sparing

section Sharing

variable {number : Nat → Nat} {sites : Nat → Prop} {left right : RunState}

namespace Shares

theorem refl (state : RunState) : state.Shares id sites state :=
  ⟨⟨rfl, fun _ _ => rfl, fun _ _ => rfl⟩, fun _ _ => Iff.rfl,
    state.recorder.renumber_id.symm⟩

theorem modifySite (shares : left.Shares number sites right) (site : Nat)
    {change : SiteMemory → SiteMemory} (unset : change .empty = .empty) :
    (left.modifySite site change).Shares number sites (right.modifySite site change) where
  agrees := shares.agrees.modifySite unset
  sizes other isOwn := by
    simp only [RunState.modifySite, Array.size_modify]
    exact shares.sizes other isOwn
  recorder := shares.recorder

theorem setSlot (shares : left.Shares number sites right) (name : String) (slot : Slot) :
    Shares number sites
      { left with memory := { left.memory with slots := left.memory.slots.set name slot } }
      { right with memory :=
        { right.memory with slots := right.memory.slots.set name slot } } where
  agrees := by
    refine ⟨shares.agrees.bars, fun other known => ?_, shares.agrees.sites⟩
    by_cases same : name = other
    · rw [same, Table.get?_set_self, Table.get?_set_self]
    · rw [Table.get?_set_of_ne _ _ _ _ same, Table.get?_set_of_ne _ _ _ _ same]
      exact shares.agrees.slots other known
  sizes := shares.sizes
  recorder := shares.recorder

theorem setRecorder (shares : left.Shares number sites right) (recorder : Recorder) :
    Shares number sites { left with recorder := recorder }
      { right with recorder := recorder.renumber number } :=
  ⟨⟨shares.agrees.bars, shares.agrees.slots, shares.agrees.sites⟩, shares.sizes, rfl⟩

theorem openBar (shares : left.Shares number sites right) (candle : Candle) :
    (left.openBar candle).Shares number sites (right.openBar candle) where
  agrees := by
    refine ⟨?_, fun name known => ?_, fun site isOwn => ?_⟩
    · simp only [RunState.openBar, Memory.openBar, shares.agrees.bars]
    · rw [RunState.get?_openBar, RunState.get?_openBar, shares.agrees.slots name known]
    · simp only [RunState.openBar, Memory.site_openBar, shares.sizes site isOwn,
        shares.agrees.sites site isOwn]
  sizes site isOwn := by
    simp only [RunState.openBar, Memory.size_openBar]
    exact shares.sizes site isOwn
  recorder := by
    have opened (state : RunState) : (state.openBar candle).recorder = state.recorder.openBar := rfl
    rw [opened, opened, shares.recorder, Recorder.openBar_renumber]

/-- Runs that share sites under their own numbers evaluate there alike, and what is spared of the
first run stays as it was at the start. -/
theorem simulates (injective : Function.Injective number)
    (fixed : ∀ site, sites site → number site = site) (names : String → Prop)
    (start : RunState) :
    Simulates number sites (fun _ => False) names
      (fun left right => left.Shares number sites right ∧ start.Spares sites names left) where
  injective := injective
  notField := False.elim
  notConstant := False.elim
  visible _ := id
  bars relates := relates.1.agrees.bars
  slots relates _ := relates.1.agrees.slots _ trivial
  absent _ := False.elim
  notScalar _ := False.elim
  operand relates isOwn which := by
    rw [fixed _ isOwn, relates.1.agrees.sites _ isOwn]
  recorder relates := relates.1.recorder
  settles {site} isOwn :=
    { result := fun relates => by rw [fixed site isOwn, relates.1.agrees.sites site isOwn]
      setResult := fun relates _ => by
        rw [fixed site isOwn]
        exact ⟨relates.1.modifySite site rfl, relates.2.modifySite rfl isOwn⟩ }
  setOperand relates isOwn operand value := by
    rw [fixed _ isOwn]
    have unset : SiteMemory.empty.setOperand operand value = .empty := by cases operand <;> rfl
    exact ⟨relates.1.modifySite _ unset, relates.2.modifySite unset isOwn⟩
  setSlot relates isAssignable _ slot :=
    ⟨relates.1.setSlot _ slot, relates.2.setSlot isAssignable slot⟩
  setRecorder relates recorder :=
    ⟨relates.1.setRecorder recorder, relates.2.setRecorder recorder⟩

end Shares

end Sharing

end RunState

/-! ## Statements -/

theorem executeAll_expression (overrides : Table String Float) (value : Expr) (span : Span)
    (rest : List Statement) :
    executeAll overrides (.expression value span :: rest) =
      value.evaluate ⟨overrides, none⟩ >>= fun _ => executeAll overrides rest := by
  simp only [executeAll, Statement.execute, bind_assoc, pure_bind]

section Statements

variable {number : Nat → Nat} {sites : Nat → Prop} {left right after state : RunState}
  {overrides : Table String Float}

/-- Where one of two runs executes statements whose sites they share, so does the other one. -/
theorem executeAll_shares (injective : Function.Injective number)
    (fixed : ∀ site, sites site → number site = site) {statements : List Statement}
    (own : ∀ site ∈ statements.flatMap Statement.sites, sites site)
    (shares : left.Shares number sites right)
    (ran : Eval.outcome (executeAll overrides statements) left = (.ok (), after)) :
    ∃ next, Eval.outcome (executeAll overrides statements) right = (.ok (), next) ∧
      after.Shares number sites next ∧
      left.Spares sites (· ∈ statements.flatMap Statement.assigned) after := by
  have keeps : Keeps number sites (statements.flatMap Statement.sites) :=
    fun site member => ⟨own site member, fixed site (own site member)⟩
  have simulates := RunState.Shares.simulates injective fixed
    (· ∈ statements.flatMap Statement.assigned) left
  have mirrors := executeAll_mirrors simulates keeps
    (fun statement member name isAssigned => List.mem_flatMap.mpr ⟨statement, member, isAssigned⟩)
    overrides
  exact mirrors left right ⟨shares, .refl left⟩ () after ran

theorem Script.heading_shares (injective : Function.Injective number)
    (fixed : ∀ site, sites site → number site = site) {script other : Script}
    (same : other.program.declaration = script.program.declaration)
    (own : ∀ declaration ∈ script.program.declaration,
      ∀ site ∈ declaration.call.sites, sites site)
    (shares : left.Shares number sites right) {heading : String × Bool}
    (ran : Eval.outcome (script.heading overrides) left = (.ok heading, after)) :
    ∃ next, Eval.outcome (other.heading overrides) right = (.ok heading, next) ∧
      after.Shares number sites next ∧ left.Spares sites (fun _ => False) after := by
  have keeps : ∀ declaration ∈ script.program.declaration,
      Keeps number sites declaration.call.sites := fun declaration declared site member =>
    ⟨own declaration declared site member, fixed site (own declaration declared site member)⟩
  have simulates := RunState.Shares.simulates injective fixed (fun _ => False) left
  have mirrors := Script.heading_mirrors simulates same keeps overrides
  exact mirrors left right ⟨shares, .refl left⟩ heading after ran

theorem executeAll_spares {statements : List Statement}
    (ran : Eval.outcome (executeAll overrides statements) state = (.ok (), after)) :
    state.Spares (· ∈ statements.flatMap Statement.sites)
      (· ∈ statements.flatMap Statement.assigned) after := by
  obtain ⟨_, _, _, spares⟩ := executeAll_shares Function.injective_id (fun _ _ => rfl)
    (fun _ => id) (.refl state) ran
  exact spares

theorem Expr.evaluate_spares {expr : Expr} {context : Context} {value : Value}
    (ran : Eval.outcome (expr.evaluate context) state = (.ok value, after)) :
    state.Spares (· ∈ expr.sites) (fun _ => False) after := by
  have keeps : Keeps id (· ∈ expr.sites) expr.sites := fun site member => ⟨member, rfl⟩
  have simulates := RunState.Shares.simulates Function.injective_id
    (fun site (_ : site ∈ expr.sites) => rfl) (fun _ => False) state
  have mirrors := Expr.evaluate_mirrors_self simulates keeps context
  obtain ⟨_, _, _, spares⟩ := mirrors state state ⟨.refl state, .refl state⟩ value after ran
  exact spares

theorem Script.heading_spares {script : Script} {heading : String × Bool}
    {sites : Nat → Prop} (own : ∀ declaration ∈ script.program.declaration,
      ∀ site ∈ declaration.call.sites, sites site)
    (ran : Eval.outcome (script.heading overrides) state = (.ok heading, after)) :
    state.Spares sites (fun _ => False) after := by
  obtain ⟨_, _, _, spares⟩ := Script.heading_shares Function.injective_id (fun _ _ => rfl) rfl
    own (.refl state) ran
  exact spares

end Statements

end ChartScript
