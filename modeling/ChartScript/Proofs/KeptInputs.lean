import ChartScript.Proofs.PlainRoster
import ChartScript.Proofs.RepeatedTicks
import Mathlib.Data.List.Forall2
import Mathlib.Data.List.Induction

/-!
# Where the inputs of a document come from

A diary notes what happened to one document: the inputs that were set and the charts that it drew.
The diaries of a workspace are kept next to it, from nothing but the operations and their replies.
Each input of a document can be read off its diary: what was set last, or else what was listed
first.
-/

set_option autoImplicit false

namespace ChartScript

inductive Occasion where
  | set (name : String) (value : Float)
  | drew (chart : Chart)

namespace Occasion

/-- The value that is set for a name. -/
def setFor? (name : String) : Occasion → Option Float
  | set other value => if other = name then some value else none
  | drew _ => none

/-- The default that a chart without an error lists for a name. -/
def listedFor? (name : String) : Occasion → Option Float
  | set _ _ => none
  | drew chart =>
    match chart.error with
    | none => (chart.inputs.find? (·.name = name)).map Input.default
    | some _ => none

end Occasion

/-- What happened to a document, the oldest first. -/
abbrev Diary := List Occasion

namespace Diary

def lastSet? (diary : Diary) (name : String) : Option Float :=
  diary.reverse.findSome? (·.setFor? name)

def firstListed? (diary : Diary) (name : String) : Option Float :=
  diary.findSome? (·.listedFor? name)

/-- A document holds under each name what was set last, or else the default that was listed first,
or else nothing. -/
def Explains (diary : Diary) (document : Document) : Prop :=
  ∀ name, Table.get? document.inputs name =
    (diary.lastSet? name).or (diary.firstListed? name)

end Diary

namespace Session

/-- The diaries of all documents after one more operation. A document comes with an empty one. -/
def noted (diaries : List Diary) :
    Operation → Except WorkspaceError (Reply Document) → List Diary
  | .add _ _, .ok _ | .load _, .ok _ => diaries ++ [[]]
  | .remove index, .ok _ => diaries.eraseIdx index
  | .setInput index name value, .ok _ => diaries.modify index (· ++ [.set name value])
  | .runAll _, .ok (.drawn charts) =>
    diaries.zipWith (fun diary chart => diary ++ [.drew chart]) charts
  | _, _ => diaries

/-- The diaries after operations, from those at a session on. -/
def diariesAfter (session : Session) (diaries : List Diary) : List Operation → List Diary
  | [] => diaries
  | operation :: rest =>
    (session.after operation).diariesAfter (noted diaries operation (session.reply operation)) rest

end Session

namespace Occasion

def apply (inputs : Table String Float) : Occasion → Table String Float
  | set name value => inputs.set name value
  | drew chart =>
    match chart.error with
    | none => Document.keepDefaults inputs chart.inputs
    | some _ => inputs

end Occasion

namespace Diary

def inputs (diary : Diary) : Table String Float :=
  diary.foldl Occasion.apply []

theorem inputs_append (diary : Diary) (occasion : Occasion) :
    inputs (diary ++ [occasion]) = occasion.apply diary.inputs :=
  List.foldl_append

theorem lastSet?_append (diary : Diary) (occasion : Occasion) (name : String) :
    lastSet? (diary ++ [occasion]) name = (occasion.setFor? name).or (diary.lastSet? name) := by
  unfold lastSet?
  rw [List.reverse_append, List.reverse_singleton, List.singleton_append, List.findSome?_cons]
  cases occasion.setFor? name <;> rfl

theorem firstListed?_append (diary : Diary) (occasion : Occasion) (name : String) :
    firstListed? (diary ++ [occasion]) name =
      (diary.firstListed? name).or (occasion.listedFor? name) := by
  unfold firstListed?
  rw [List.findSome?_append, List.findSome?_singleton]

theorem get?_inputs (diary : Diary) (name : String) :
    Table.get? diary.inputs name = (diary.lastSet? name).or (diary.firstListed? name) := by
  induction diary using List.reverseRecOn with
  | nil => rfl
  | append_singleton diary occasion ih =>
    rw [inputs_append, lastSet?_append, firstListed?_append]
    cases occasion with
    | set other value =>
      by_cases same : other = name
      · subst same
        simp [Occasion.apply, Occasion.setFor?]
      · simp [Occasion.apply, Occasion.setFor?, Occasion.listedFor?, same,
          Table.get?_set_of_ne _ _ _ _ same, ih]
    | drew chart =>
      cases failed : chart.error with
      | some error => simp [Occasion.apply, Occasion.setFor?, Occasion.listedFor?, failed, ih]
      | none =>
        simp [Occasion.apply, Occasion.setFor?, Occasion.listedFor?, failed,
          Document.get?_keepDefaults, ih, Option.or_assoc]

end Diary

theorem Program.chart_inputs_of_error {program : Program} {window : List Candle}
    {overrides : Table String Float} (failed : (program.chart window overrides).error ≠ none) :
    (program.chart window overrides).inputs = [] := by
  unfold chart at failed ⊢
  cases executed : program.execute window overrides with
  | error failure => rfl
  | ok drawn =>
    rw [executed] at failed
    obtain ⟨script, _, ran⟩ := of_bind_ok executed
    unfold Script.run at ran
    split at ran
    · cases ran
      exact absurd rfl failed
    · cases ran

namespace Document

variable (document : Document) (window : List Candle)

theorem run_disabled (disabled : document.enabled = false) :
    document.run window =
      (.failed document.name disabledText,
        { document with lastChart := some (.failed document.name disabledText) }) := by
  simp [run, disabled]

/-- A chart with an error lists no inputs. -/
theorem run_inputs_of_error (failed : (document.run window).1.error ≠ none) :
    (document.run window).1.inputs = [] := by
  cases enabled : document.enabled with
  | false =>
    rw [document.run_disabled window enabled]
    rfl
  | true =>
    have drawn : (document.run window).1 =
        .ofParsed (document.engine.compile document.source).1 window document.inputs := by
      simp only [run, enabled, if_true]
      rfl
    rw [drawn] at failed ⊢
    unfold Chart.ofParsed at failed ⊢
    cases parsed : (document.engine.compile document.source).1 with
    | error failure => rfl
    | ok program =>
      rw [parsed] at failed
      exact Program.chart_inputs_of_error failed

theorem run_inputs :
    (document.run window).2.inputs =
      keepDefaults document.inputs (document.run window).1.inputs := by
  cases enabled : document.enabled with
  | false =>
    rw [document.run_disabled window enabled]
    rfl
  | true => simp only [run, enabled, if_true]

theorem run_inputs_eq_apply :
    (document.run window).2.inputs =
      (Occasion.drew (document.run window).1).apply document.inputs := by
  rw [run_inputs, Occasion.apply]
  cases failed : (document.run window).1.error with
  | none => rfl
  | some error =>
    rw [document.run_inputs_of_error window (by simp [failed])]
    rfl

end Document

/-! ## One operation -/

theorem map_modify_comm {α β : Type} {view : α → β} {change : α → α} (shown : β → β)
    (comm : ∀ item, view (change item) = shown (view item)) (items : List α) (index : Nat) :
    (items.modify index change).map view = (items.map view).modify index shown := by
  induction items generalizing index with
  | nil => simp only [List.modify_nil, List.map_nil]
  | cons item rest ih =>
    cases index with
    | zero => simp only [List.modify_zero_cons, List.map_cons, comm]
    | succ index => simp only [List.modify_succ_cons, List.map_cons, ih]

namespace Workspace

theorem modify_documents {workspace next : Workspace} {index : Nat}
    {change : Document → Document} {document : Document}
    (modified : workspace.modify index change = .ok (document, next)) :
    next.documents = workspace.documents.modify index change := by
  obtain ⟨known, found, modified⟩ := of_bind_ok modified
  cases modified
  rw [List.modify_eq_set_getElem?, getElem?_of_get found]
  rfl

/-- The inputs of all documents. -/
def inputs (workspace : Workspace) : List (Table String Float) :=
  workspace.documents.map Document.inputs

variable {workspace next : Workspace} {index : Nat}

theorem inputs_modify {change : Document → Document} {document : Document}
    (modified : workspace.modify index change = .ok (document, next))
    (kept : ∀ document, (change document).inputs = document.inputs) :
    next.inputs = workspace.inputs := by
  rw [inputs, modify_documents modified, map_modify_comm id kept]
  exact List.modify_id _ _

theorem inputs_saveAs {files written : Files} {path : String}
    (saved : workspace.saveAs files index path = .ok (next, written)) :
    next.inputs = workspace.inputs := by
  obtain ⟨document, found, saved⟩ := of_bind_ok saved
  obtain ⟨_, _, saved⟩ := of_bind_ok saved
  cases saved
  have listed : workspace.inputs[index]? = some document.inputs := by
    rw [inputs, List.getElem?_map, getElem?_of_get found]
    rfl
  obtain ⟨bound, same⟩ := List.getElem?_eq_some_iff.mp listed
  rw [inputs, List.map_set, ← same]
  exact List.set_getElem_self bound

theorem inputs_append (document : Document) :
    (workspace.append document).2.inputs = workspace.inputs ++ [document.inputs] := by
  simp only [inputs, append, List.map_append, List.map_singleton]

theorem inputs_load {readText : String → Except FileError String} {path : String}
    (loaded : workspace.load readText path = .ok (index, next)) :
    next.inputs = workspace.inputs ++ [[]] := by
  unfold load at loaded
  cases read : readText path with
  | error cause =>
    rw [read] at loaded
    cases loaded
  | ok source =>
    rw [read] at loaded
    cases loaded
    exact inputs_append _

theorem inputs_remove {document : Document}
    (removed : workspace.remove index = .ok (document, next)) :
    next.inputs = workspace.inputs.eraseIdx index := by
  obtain ⟨_, _, removed⟩ := of_bind_ok removed
  cases removed
  exact (List.eraseIdx_map Document.inputs workspace.documents index).symm

theorem inputs_setInput {name : String} {value : Float} {document : Document}
    (modified : workspace.setInput index name value = .ok (document, next)) :
    next.inputs = workspace.inputs.modify index fun inputs => inputs.set name value := by
  unfold inputs
  rw [modify_documents modified]
  refine map_modify_comm _ (fun document => ?_) _ _
  rfl

theorem inputs_runAll (workspace : Workspace) (window : List Candle) :
    (workspace.runAll window).2.inputs =
      workspace.inputs.zipWith (fun inputs chart => (Occasion.drew chart).apply inputs)
        (workspace.runAll window).1 := by
  simp only [inputs, runAll, List.map_map, List.zipWith_map, List.zipWith_self]
  exact List.map_congr_left fun document _ => document.run_inputs_eq_apply window

end Workspace

namespace Session

/-- What an operation does to the inputs of all documents can be told from its reply. -/
theorem inputs_after {session : Session} {diaries : List Diary}
    (same : session.workspace.inputs = diaries.map Diary.inputs) (operation : Operation) :
    (session.after operation).workspace.inputs =
      (noted diaries operation (session.reply operation)).map Diary.inputs := by
  cases replied : session.reply operation with
  | error error =>
    have silent : noted diaries operation (.error error) = diaries := by
      cases operation <;> rfl
    rw [after_of_reply_error replied, silent, same]
  | ok reply =>
    cases operation with
    | add name source =>
      cases replied
      simp only [after, perform, noted, List.map_append, List.map_singleton]
      exact (Workspace.inputs_append _).trans (congrArg (· ++ [[]]) same)
    | remove index =>
      obtain ⟨⟨document, next⟩, removed, replied⟩ := of_bind_ok replied
      cases replied
      simp only [after, perform, removed, noted, ← List.eraseIdx_map, ← same]
      exact Workspace.inputs_remove removed
    | setEnabled _ _ | toggle _ | updateSource _ _ =>
      obtain ⟨⟨document, next⟩, modified, replied⟩ := of_bind_ok replied
      cases replied
      simp only [after, perform, modified, noted, ← same]
      exact Workspace.inputs_modify modified fun _ => rfl
    | setInput index name value =>
      obtain ⟨⟨document, next⟩, modified, replied⟩ := of_bind_ok replied
      cases replied
      have written : (diaries.modify index (· ++ [.set name value])).map Diary.inputs =
          (diaries.map Diary.inputs).modify index fun inputs => inputs.set name value :=
        map_modify_comm _ (fun diary => diary.inputs_append _) _ _
      rw [noted, written, ← same]
      simp only [after, perform, modified]
      exact Workspace.inputs_setInput modified
    | runAll window =>
      cases replied
      have drawn : ∀ charts, (diaries.zipWith (fun diary chart => diary ++ [.drew chart])
          charts).map Diary.inputs =
          session.workspace.inputs.zipWith (fun inputs chart =>
            (Occasion.drew chart).apply inputs) charts := by
        intro charts
        rw [same, List.map_zipWith, List.zipWith_map_left]
        simp only [Diary.inputs_append]
      exact (session.workspace.inputs_runAll window).trans (drawn _).symm
    | load path =>
      obtain ⟨⟨placed, next⟩, loaded, replied⟩ := of_bind_ok replied
      cases replied
      simp only [after, perform, loaded, noted, List.map_append, List.map_singleton, ← same]
      exact Workspace.inputs_load loaded
    | save index =>
      obtain ⟨files, saved, replied⟩ := of_bind_ok replied
      cases replied
      simp only [after, perform, saved, noted]
      exact same
    | saveAs index path =>
      obtain ⟨⟨next, files⟩, saved, replied⟩ := of_bind_ok replied
      cases replied
      simp only [after, perform, saved, noted, ← same]
      exact Workspace.inputs_saveAs saved
    | replaceFiles files =>
      cases replied
      exact same

/-! ## Histories -/

theorem inputs_afterAll {session : Session} {diaries : List Diary}
    (same : session.workspace.inputs = diaries.map Diary.inputs) (operations : List Operation) :
    (session.afterAll operations).workspace.inputs =
      (session.diariesAfter diaries operations).map Diary.inputs := by
  induction operations generalizing session diaries with
  | nil => exact same
  | cons operation rest ih => exact ih (inputs_after same operation)

theorem inputs_remove (session : Session) (index : Nat) :
    (session.after (.remove index)).workspace.inputs =
      session.workspace.inputs.eraseIdx index := by
  cases listed : session.workspace.documents[index]? with
  | none =>
    have unfound := Workspace.get_of_getElem?_none listed
    have short : session.workspace.inputs.length ≤ index := by
      rw [Workspace.inputs, List.length_map]
      exact List.getElem?_eq_none_iff.mp listed
    simp only [after, perform, Workspace.remove, unfound]
    exact (List.eraseIdx_of_length_le short).symm
  | some document =>
    simp only [after, perform, Workspace.remove, Workspace.get_of_getElem? listed]
    exact (List.eraseIdx_map Document.inputs _ index).symm

/-- Whatever was done before, the inputs of every document are those that its diary tells. A run
leaves all values as they are, and one that fails or finds its document disabled adds none; neither
does a new source, a switch or the removal of another document. -/
theorem inputs_from_diaries (files : Files) (operations : List Operation) :
    List.Forall₂ Diary.Explains ((start files).diariesAfter [] operations)
      (reached files operations).documents ∧
    (∀ window, (reached files (operations ++ [.runAll window])).documents =
      (reached files operations).documents.map fun document => (document.run window).2) ∧
    (∀ document ∈ (reached files operations).documents, ∀ window,
      (∀ name value, Table.get? document.inputs name = some value →
        Table.get? (document.run window).2.inputs name = some value) ∧
      (document.enabled = false → (document.run window).1.error ≠ none) ∧
      ((document.run window).1.error ≠ none → (document.run window).2.inputs = document.inputs)) ∧
    ∀ index,
      (∀ source, (reached files (operations ++ [.updateSource index source])).inputs =
        (reached files operations).inputs) ∧
      (reached files (operations ++ [.toggle index])).inputs = (reached files operations).inputs ∧
      (reached files (operations ++ [.remove index])).inputs =
        (reached files operations).inputs.eraseIdx index := by
  have told : (reached files operations).inputs =
      ((start files).diariesAfter [] operations).map Diary.inputs :=
    inputs_afterAll rfl operations
  have quiet : ∀ operation,
      (∀ diaries reply, noted diaries operation reply = diaries) →
      (reached files (operations ++ [operation])).inputs = (reached files operations).inputs := by
    intro operation unnoted
    rw [reached, afterAll_concat, inputs_after told, unnoted, told]
  refine ⟨?_, fun window => ?_, fun document _ window => ⟨?_, ?_, ?_⟩, fun index => ⟨?_, ?_, ?_⟩⟩
  · have pairs : List.Forall₂ Eq
        (((start files).diariesAfter [] operations).map Diary.inputs)
        ((reached files operations).documents.map Document.inputs) := by
      rw [List.forall₂_eq_eq_eq]
      exact told.symm
    rw [List.forall₂_map_left_iff, List.forall₂_map_right_iff] at pairs
    refine pairs.imp fun diary document same name => ?_
    rw [← same, diary.get?_inputs]
  · simp only [reached, afterAll_concat, after, perform, Workspace.runAll, List.map_map]
    rfl
  · intro name value known
    rw [document.run_inputs, Document.get?_keepDefaults, known]
    rfl
  · intro disabled
    rw [document.run_disabled window disabled]
    exact Option.some_ne_none _
  · intro failed
    rw [document.run_inputs, document.run_inputs_of_error window failed]
    rfl
  · exact fun source => quiet (.updateSource index source) fun _ reply => by cases reply <;> rfl
  · exact quiet (.toggle index) fun _ reply => by cases reply <;> rfl
  · rw [reached, afterAll_concat]
    exact inputs_remove _ index

end Session

end ChartScript
