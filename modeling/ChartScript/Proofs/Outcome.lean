import ChartScript.Script
import ChartScript.Syntax.Parser
import Mathlib.Logic.Relation

/-!
# Outcomes of evaluations

`Eval.outcome` is what an evaluation gives on a state and the state it leaves behind, an error or
not. There is one equation for each thing an evaluation is built from. `Eval.Moves` bounds what an
evaluation can do to the state: it gets from the first state to the last by steps of a relation.
-/

set_option autoImplicit false

namespace ChartScript

/-- The script of a source, if the source is a program that can be prepared. -/
def Script.ofSource? (source : String) : Option Script :=
  (parse source).toOption.bind (·.prepare.toOption)

theorem of_bind_ok {ε α β : Type} {first : Except ε α} {next : α → Except ε β} {result : β}
    (ran : first >>= next = .ok result) :
    ∃ value, first = .ok value ∧ next value = .ok result := by
  cases first with
  | error error => cases ran
  | ok value => exact ⟨value, rfl, ran⟩

theorem of_bind_error {ε α β : Type} {first : Except ε α} {next : α → Except ε β} {error : ε}
    (failed : first >>= next = .error error) :
    first = .error error ∨ ∃ value, first = .ok value ∧ next value = .error error := by
  cases first with
  | error failure =>
    cases failed
    exact .inl rfl
  | ok value => exact .inr ⟨value, rfl, failed⟩

theorem ok_bind {ε α β : Type} (value : α) (next : α → Except ε β) :
    (Except.ok value >>= next) = next value := rfl

theorem pure_eq_ok {ε α : Type} (value : α) : (pure value : Except ε α) = .ok value := rfl

theorem error_of_bind_ok {ε α β : Type} {first : Except ε α} {result : α → β} {error : ε}
    (failed : (first >>= fun value => .ok (result value)) = .error error) :
    first = .error error := by
  cases first with
  | error other => exact congrArg Except.error (Except.error.inj failed)
  | ok value => cases failed

theorem of_toOption_any {ε α : Type} {result : Except ε α} {holds : α → Bool}
    (found : result.toOption.any holds = true) :
    ∃ value, result = .ok value ∧ holds value = true := by
  cases result with
  | error error => cases found
  | ok value => exact ⟨value, rfl, found⟩

def errorOf? {ε α : Type} : Except ε α → Option ε
  | .ok _ => none
  | .error error => some error

theorem of_errorOf? {ε α : Type} {result : Except ε α} {error : ε}
    (found : errorOf? result = some error) : result = .error error := by
  cases result with
  | error failure => rw [Option.some.inj found]
  | ok value => cases found

namespace Eval

open Relation

variable {α β : Type}

def outcome (evaluation : Eval α) (state : RunState) : Except RunError α × RunState :=
  evaluation.run.run state

/-! ## Equations -/

@[simp]
theorem outcome_pure (value : α) (state : RunState) :
    outcome (pure value) state = (.ok value, state) := rfl

@[simp]
theorem outcome_lift (result : Except RunError α) (state : RunState) :
    outcome (liftM result) state = (result, state) := rfl

@[simp]
theorem outcome_get (state : RunState) : outcome get state = (.ok state, state) := rfl

@[simp]
theorem outcome_set (state next : RunState) : outcome (set next) state = (.ok (), next) := rfl

@[simp]
theorem outcome_memory (state : RunState) : outcome memory state = (.ok state.memory, state) := rfl

theorem outcome_bind (first : Eval α) (next : α → Eval β) (state : RunState) :
    outcome (first >>= next) state =
      match outcome first state with
      | (.ok value, after) => outcome (next value) after
      | (.error error, after) => (.error error, after) := by
  have opened : outcome (first >>= next) state =
      (ExceptT.bindCont next (outcome first state).1).run (outcome first state).2 := rfl
  rw [opened]
  rcases outcome first state with ⟨_ | _, after⟩ <;> rfl

theorem of_outcome_bind_ok {first : Eval α} {next : α → Eval β} {state final : RunState}
    {result : β} (ran : outcome (first >>= next) state = (.ok result, final)) :
    ∃ value after, outcome first state = (.ok value, after) ∧
      outcome (next value) after = (.ok result, final) := by
  rw [outcome_bind] at ran
  rcases started : outcome first state with ⟨_ | value, after⟩
  · rw [started] at ran
    cases ran
  · rw [started] at ran
    exact ⟨value, after, rfl, ran⟩

theorem of_outcome_bind_error {first : Eval α} {next : α → Eval β} {state stopped : RunState}
    {error : RunError} (failed : outcome (first >>= next) state = (.error error, stopped)) :
    outcome first state = (.error error, stopped) ∨
      ∃ value after, outcome first state = (.ok value, after) ∧
        outcome (next value) after = (.error error, stopped) := by
  rw [outcome_bind] at failed
  rcases started : outcome first state with ⟨failure | value, after⟩
  · rw [started] at failed
    cases failed
    exact .inl rfl
  · rw [started] at failed
    exact .inr ⟨value, after, rfl, failed⟩

theorem outcome_draw (change : Recorder → Except RunError Recorder) (state : RunState) :
    outcome (draw change) state =
      match change state.recorder with
      | .ok recorder => (.ok .na, { state with recorder := recorder })
      | .error error => (.error error, state) := by
  unfold draw
  rw [outcome_bind, outcome_get]
  cases drawn : change state.recorder <;>
    simp only [outcome_bind, outcome_lift, outcome_set, outcome_pure, drawn]

theorem outcome_store (name : String) (value : Value) (state : RunState) :
    outcome (Eval.store name value) state =
      match state.memory.store name value with
      | .ok memory => (.ok (), { state with memory := memory })
      | .error error => (.error error, state) := by
  unfold Eval.store
  rw [outcome_bind, outcome_get]
  cases stored : state.memory.store name value <;>
    simp only [outcome_bind, outcome_lift, outcome_set, stored]

theorem outcome_input (context : Context) (site : Nat) (arguments : Arguments)
    (state : RunState) :
    outcome (Eval.input context site arguments) state =
      match arguments.input context.target site with
      | .ok (name, default) =>
        let (value, recorder) := state.recorder.input context.overrides name default
        (.ok (.number value), { state with recorder := recorder })
      | .error error => (.error error, state) := by
  unfold Eval.input
  rw [outcome_bind, outcome_lift]
  cases arguments.input context.target site <;> rfl

theorem run_outcome (script : Script) (window : List Candle) (overrides : Table String Float) :
    script.run window overrides =
      match outcome (script.runWindow overrides window.reverse) script.initial with
      | (.ok heading, final) =>
        .ok (final.recorder.finish heading.1 heading.2 final.memory.bars.length)
      | (.error error, _) => .error error := by
  unfold Script.run outcome
  rcases ((script.runWindow overrides window.reverse).run.run script.initial) with ⟨_ | _, _⟩ <;>
    rfl

theorem of_run_ok {script : Script} {window : List Candle} {overrides : Table String Float}
    {chart : Chart} (ran : script.run window overrides = .ok chart) :
    ∃ heading final, outcome (script.runWindow overrides window.reverse) script.initial =
        (.ok heading, final) ∧
      chart = final.recorder.finish heading.1 heading.2 final.memory.bars.length := by
  rw [run_outcome] at ran
  rcases finished : outcome (script.runWindow overrides window.reverse) script.initial
    with ⟨failure | heading, final⟩
  · rw [finished] at ran
    cases ran
  · rw [finished] at ran
    exact ⟨heading, final, rfl, (Except.ok.inj ran).symm⟩

theorem of_run_error {script : Script} {window : List Candle} {overrides : Table String Float}
    {error : RunError} (failed : script.run window overrides = .error error) :
    ∃ stopped, outcome (script.runWindow overrides window.reverse) script.initial =
      (.error error, stopped) := by
  rw [run_outcome] at failed
  rcases finished : outcome (script.runWindow overrides window.reverse) script.initial
    with ⟨failure | heading, stopped⟩
  · rw [finished] at failed
    cases failed
    exact ⟨stopped, rfl⟩
  · rw [finished] at failed
    cases failed

/-! ## Moves -/

/-- The evaluation changes the state by steps of a relation only. -/
def Moves (step : RunState → RunState → Prop) (evaluation : Eval α) : Prop :=
  ∀ state, ReflTransGen step state (outcome evaluation state).2

variable {step : RunState → RunState → Prop}

theorem moves_pure (value : α) : Moves step (pure value : Eval α) :=
  fun _ => .refl

theorem moves_throw (error : RunError) : Moves step (throw error : Eval α) :=
  fun _ => .refl

theorem moves_lift (result : Except RunError α) : Moves step (liftM result : Eval α) :=
  fun _ => .refl

theorem moves_memory : Moves step memory :=
  fun _ => .refl

theorem moves_modify (change : RunState → RunState) (moved : ∀ state, step state (change state)) :
    Moves step (modify change : Eval Unit) :=
  fun state => .single (moved state)

/-- A computation that reads the state can rely on what it has read. -/
theorem moves_get_bind (next : RunState → Eval α)
    (moved : ∀ state, ReflTransGen step state (outcome (next state) state).2) :
    Moves step (get >>= next) :=
  moved

theorem moves_memory_bind (next : Memory → Eval α)
    (moved : ∀ state, ReflTransGen step state (outcome (next state.memory) state).2) :
    Moves step (memory >>= next) :=
  moved

theorem moves_bind (first : Eval α) (next : α → Eval β) (firstMoves : Moves step first)
    (nextMoves : ∀ value, Moves step (next value)) : Moves step (first >>= next) := by
  intro state
  have before := firstMoves state
  rw [outcome_bind]
  revert before
  rcases outcome first state with ⟨_ | value, after⟩ <;> intro before
  · exact before
  · exact before.trans (nextMoves value after)

theorem Moves.mono {others : RunState → RunState → Prop} {evaluation : Eval α}
    (moves : Moves step evaluation) (among : ∀ before after, step before after → others before after) :
    Moves others evaluation :=
  fun state => ReflTransGen.mono among _ _ (moves state)

/-- A property that every step keeps holds after an evaluation too. -/
theorem Moves.keeps {evaluation : Eval α} (moves : Moves step evaluation)
    (property : RunState → Prop)
    (kept : ∀ before after, step before after → property before → property after)
    {state final : RunState} {result : Except RunError α}
    (ran : outcome evaluation state = (result, final)) (holds : property state) :
    property final := by
  have path : ReflTransGen step state final := by
    have moved := moves state
    rwa [ran] at moved
  clear ran
  induction path with
  | refl => exact holds
  | tail _ last ih => exact kept _ _ last ih

end Eval

end ChartScript
