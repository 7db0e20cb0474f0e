import ChartScript.Proofs.Outcome
import ChartScript.Proofs.ParseCache
import ChartScript.Workspace

/-!
# Histories of a workspace

A session is a workspace together with the files it is loaded from and saved to. `Session.perform`
is one operation on it, and an operation that fails leaves the session as it was. A state that
operations lead to from an empty workspace is a reachable one. In all of them every engine still
answers as a new one does.
-/

set_option autoImplicit false

namespace ChartScript

structure Session where
  workspace : Workspace
  files : Files

namespace Session

inductive Operation where
  | add (name source : String)
  | remove (index : Nat)
  | setEnabled (index : Nat) (enabled : Bool)
  | toggle (index : Nat)
  | updateSource (index : Nat) (source : String)
  | setInput (index : Nat) (name : String) (value : Float)
  | runAll (window : List Candle)
  | load (path : String)
  | save (index : Nat)
  | saveAs (index : Nat) (path : String)
  /-- The files change without the workspace. -/
  | replaceFiles (files : Files)

def start (files : Files) : Session := ⟨.empty, files⟩

def perform (session : Session) : Operation → Except WorkspaceError Session
  | .add name source => return { session with workspace := (session.workspace.add name source).2 }
  | .remove index => do
    let (_, workspace) ← session.workspace.remove index
    return { session with workspace := workspace }
  | .setEnabled index enabled => do
    let (_, workspace) ← session.workspace.setEnabled index enabled
    return { session with workspace := workspace }
  | .toggle index => do
    let (_, workspace) ← session.workspace.toggle index
    return { session with workspace := workspace }
  | .updateSource index source => do
    let (_, workspace) ← session.workspace.updateSource index source
    return { session with workspace := workspace }
  | .setInput index name value => do
    let (_, workspace) ← session.workspace.setInput index name value
    return { session with workspace := workspace }
  | .runAll window => return { session with workspace := (session.workspace.runAll window).2 }
  | .load path => do
    let (_, workspace) ← session.workspace.load session.files.readText path
    return { session with workspace := workspace }
  | .save index => do
    let files ← session.workspace.save session.files index
    return { session with files := files }
  | .saveAs index path => do
    let (workspace, files) ← session.workspace.saveAs session.files index path
    return ⟨workspace, files⟩
  | .replaceFiles files => return { session with files := files }

def after (session : Session) (operation : Operation) : Session :=
  match session.perform operation with
  | .ok next => next
  | .error _ => session

def afterAll (session : Session) (operations : List Operation) : Session :=
  operations.foldl after session

theorem afterAll_concat (session : Session) (operations : List Operation) (last : Operation) :
    session.afterAll (operations ++ [last]) = (session.afterAll operations).after last :=
  List.foldl_append

/-- The workspace that operations lead to from an empty one. -/
def reached (files : Files) (operations : List Operation) : Workspace :=
  ((start files).afterAll operations).workspace

end Session

/-! ## Engines in a workspace -/

namespace Workspace

def Consistent (workspace : Workspace) : Prop :=
  ∀ document ∈ workspace.documents, document.engine.Consistent

variable {workspace : Workspace}

theorem Consistent.append (consistent : workspace.Consistent) (document : Document)
    (added : document.engine.Consistent) : (workspace.append document).2.Consistent := by
  intro other member
  rcases List.mem_append.mp member with old | new
  · exact consistent other old
  · cases List.mem_singleton.mp new
    exact added

theorem Consistent.remove (consistent : workspace.Consistent) {index : Nat} {document : Document}
    {next : Workspace} (removed : workspace.remove index = .ok (document, next)) :
    next.Consistent := by
  obtain ⟨known, _, removed⟩ := of_bind_ok removed
  cases removed
  exact fun other member => consistent other (List.mem_of_mem_eraseIdx member)

theorem getElem?_of_get {index : Nat} {document : Document}
    (found : workspace.get index = .ok document) : workspace.documents[index]? = some document := by
  unfold Workspace.get Workspace.get? at found
  cases known : workspace.documents[index]? with
  | none =>
    rw [known] at found
    cases found
  | some other =>
    rw [known] at found
    exact congrArg some (Except.ok.inj found)

theorem get_mem {index : Nat} {document : Document} (found : workspace.get index = .ok document) :
    document ∈ workspace.documents :=
  List.mem_of_getElem? (getElem?_of_get found)

theorem Consistent.set (consistent : workspace.Consistent) (index : Nat) (document : Document)
    (changed : document.engine.Consistent) :
    Consistent ⟨workspace.documents.set index document⟩ := by
  intro other member
  rcases List.mem_or_eq_of_mem_set member with old | new
  · exact consistent other old
  · exact new ▸ changed

theorem Consistent.modify (consistent : workspace.Consistent) {index : Nat}
    {change : Document → Document} {result : Document × Workspace}
    (modified : workspace.modify index change = .ok result)
    (engines : ∀ document, (change document).engine = document.engine) :
    result.2.Consistent := by
  obtain ⟨known, found, modified⟩ := of_bind_ok modified
  cases modified
  refine consistent.set index _ ?_
  rw [engines]
  exact consistent known (get_mem found)

theorem Consistent.load (consistent : workspace.Consistent)
    {readText : String → Except FileError String} {path : String} {index : Nat} {next : Workspace}
    (loaded : workspace.load readText path = .ok (index, next)) : next.Consistent := by
  unfold Workspace.load at loaded
  cases read : readText path with
  | error cause =>
    rw [read] at loaded
    cases loaded
  | ok source =>
    rw [read] at loaded
    cases loaded
    exact consistent.append _ (Engine.withHash_consistent _)

theorem Consistent.saveAs (consistent : workspace.Consistent) {files written : Files}
    {index : Nat} {path : String} {next : Workspace}
    (saved : workspace.saveAs files index path = .ok (next, written)) : next.Consistent := by
  obtain ⟨known, found, saved⟩ := of_bind_ok saved
  obtain ⟨_, _, saved⟩ := of_bind_ok saved
  cases saved
  exact consistent.set index _ (consistent known (get_mem found))

end Workspace

theorem Document.run_consistent (document : Document) (window : List Candle)
    (consistent : document.engine.Consistent) : (document.run window).2.engine.Consistent := by
  unfold Document.run
  cases document.enabled with
  | false => exact consistent
  | true => exact document.engine.compile_consistent document.source consistent

theorem Workspace.Consistent.runAll {workspace : Workspace} (consistent : workspace.Consistent)
    (window : List Candle) : (workspace.runAll window).2.Consistent := by
  intro document member
  simp only [Workspace.runAll, List.map_map] at member
  obtain ⟨before, known, rfl⟩ := List.mem_map.mp member
  exact before.run_consistent window (consistent before known)

namespace Session

theorem perform_consistent {session next : Session} {operation : Operation}
    (consistent : session.workspace.Consistent) (performed : session.perform operation = .ok next) :
    next.workspace.Consistent := by
  have fresh : Engine.new.Consistent := Engine.withHash_consistent _
  cases operation with
  | add name source =>
    cases performed
    exact consistent.append _ fresh
  | remove index =>
    obtain ⟨_, removed, performed⟩ := of_bind_ok performed
    cases performed
    exact consistent.remove removed
  | setEnabled _ _ | toggle _ | updateSource _ _ | setInput _ _ _ =>
    obtain ⟨_, modified, performed⟩ := of_bind_ok performed
    cases performed
    exact consistent.modify modified fun _ => rfl
  | runAll window =>
    cases performed
    exact consistent.runAll window
  | load path =>
    obtain ⟨_, loaded, performed⟩ := of_bind_ok performed
    cases performed
    exact consistent.load loaded
  | save index =>
    obtain ⟨files, _, performed⟩ := of_bind_ok performed
    cases performed
    exact consistent
  | saveAs index path =>
    obtain ⟨_, saved, performed⟩ := of_bind_ok performed
    cases performed
    exact consistent.saveAs saved
  | replaceFiles files =>
    cases performed
    exact consistent

theorem after_consistent {session : Session} (operation : Operation)
    (consistent : session.workspace.Consistent) :
    (session.after operation).workspace.Consistent := by
  unfold after
  cases performed : session.perform operation with
  | error _ => exact consistent
  | ok next => exact perform_consistent consistent performed

theorem afterAll_consistent {session : Session} (operations : List Operation)
    (consistent : session.workspace.Consistent) :
    (session.afterAll operations).workspace.Consistent := by
  induction operations generalizing session with
  | nil => exact consistent
  | cons operation rest ih => exact ih (after_consistent operation consistent)

theorem reached_consistent (files : Files) (operations : List Operation) :
    (reached files operations).Consistent :=
  afterAll_consistent operations fun _ member => absurd member List.not_mem_nil

end Session

end ChartScript
