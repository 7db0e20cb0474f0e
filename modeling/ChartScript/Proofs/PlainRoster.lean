import ChartScript.Proofs.WorkspaceHistory
import Mathlib.Data.List.InsertIdx

/-!
# A workspace as a plain list

To its user a workspace is a list of scripts, each on its own. `Roster` is that list: its scripts
have no engine, a run of one is a run on a new engine, and an operation that fails gives the roster
as it was. What a session replies and what shows of its documents are those of the roster.

`Session.enact` takes an operation in its single steps, and each of them changes the session at
once. An error in the middle would leave what was changed until then; that none does is proved
here.
-/

set_option autoImplicit false

namespace ChartScript

namespace Session

/-- What an operation gives back. -/
inductive Reply (Taken : Type) where
  | done
  | placed (index : Nat)
  | switched (enabled : Bool)
  | taken (removed : Taken)
  | drawn (charts : List Chart)

def Reply.map {Taken Shown : Type} (view : Taken → Shown) : Reply Taken → Reply Shown
  | done => done
  | placed index => placed index
  | switched enabled => switched enabled
  | taken removed => taken (view removed)
  | drawn charts => drawn charts

/-- What the workspace gives back for an operation. -/
def reply (session : Session) : Operation → Except WorkspaceError (Reply Document)
  | .add name source => return .placed (session.workspace.add name source).1
  | .remove index => do
    let (document, _) ← session.workspace.remove index
    return .taken document
  | .setEnabled index enabled => do
    let _ ← session.workspace.setEnabled index enabled
    return .done
  | .toggle index => do
    let (document, _) ← session.workspace.toggle index
    return .switched document.enabled
  | .updateSource index source => do
    let _ ← session.workspace.updateSource index source
    return .done
  | .setInput index name value => do
    let _ ← session.workspace.setInput index name value
    return .done
  | .runAll window => return .drawn (session.workspace.runAll window).1
  | .load path => do
    let (index, _) ← session.workspace.load session.files.readText path
    return .placed index
  | .save index => do
    let _ ← session.workspace.save session.files index
    return .done
  | .saveAs index path => do
    let _ ← session.workspace.saveAs session.files index path
    return .done
  | .replaceFiles _ => return .done

/-- What was changed before an error stays changed. -/
abbrev Stepwise := ExceptT WorkspaceError (StateM Session)

namespace Stepwise

def setDocuments (documents : List Document) : Stepwise Unit :=
  modify fun session => { session with workspace := ⟨documents⟩ }

def find (index : Nat) : Stepwise Document := do
  liftM ((← get).workspace.get index)

def put (index : Nat) (document : Document) : Stepwise Unit := do
  setDocuments ((← get).workspace.documents.set index document)

/-- Adds a document at the end and gives its index. -/
def push (document : Document) : Stepwise Nat := do
  let documents := (← get).workspace.documents
  setDocuments (documents ++ [document])
  return documents.length

def readText (path : String) : Stepwise String := do
  match (← get).files.readText path with
  | .ok text => return text
  | .error cause => throw (.inaccessible path cause)

def writeText (path text : String) : Stepwise Unit := do
  let written ← liftM (Workspace.writeSource (← get).files path text)
  modify fun session => { session with files := written }

/-- Changes a document in its place and gives it as it is then. -/
def edit (index : Nat) (change : Document → Document) : Stepwise Document := do
  let document := change (← find index)
  put index document
  return document

/-- Runs a number of documents one after the other, from an index on. -/
def runFrom (window : List Candle) : (index count : Nat) → Stepwise (List Chart)
  | _, 0 => return []
  | index, count + 1 => do
    let (chart, next) := (← find index).run window
    put index next
    return chart :: (← runFrom window (index + 1) count)

end Stepwise

open Stepwise in
def enact : Operation → Stepwise (Reply Document)
  | .add name source => return .placed (← push (.new name source))
  | .remove index => do
    let document ← find index
    setDocuments ((← get).workspace.documents.eraseIdx index)
    return .taken document
  | .setEnabled index enabled => do
    let _ ← edit index fun document => { document with enabled := enabled }
    return .done
  | .toggle index => do
    let document ← edit index fun document => { document with enabled := !document.enabled }
    return .switched document.enabled
  | .updateSource index source => do
    let _ ← edit index fun document => { document with source := source }
    return .done
  | .setInput index name value => do
    let _ ← edit index fun document => { document with inputs := document.inputs.set name value }
    return .done
  | .runAll window => return .drawn (← runFrom window 0 (← get).workspace.documents.length)
  | .load path => do
    let source ← readText path
    let index ← push (.new (Path.stem path) source)
    let _ ← edit index fun document => { document with path := some path }
    return .placed index
  | .save index => do
    let document ← find index
    match document.path with
    | none => throw (.noPath document.name)
    | some path =>
      writeText path document.source
      return .done
  | .saveAs index path => do
    let document ← find index
    writeText path document.source
    put index { document with path := some path }
    return .done
  | .replaceFiles files => do
    modify fun session => { session with files := files }
    return .done

/-- The reply to an operation and the session it leaves behind. -/
def respond (session : Session) (operation : Operation) :
    Except WorkspaceError (Reply Document) × Session :=
  (enact operation).run.run session

end Session

namespace Workspace

variable {workspace : Workspace}

theorem get_of_getElem? {index : Nat} {document : Document}
    (found : workspace.documents[index]? = some document) :
    workspace.get index = .ok document := by
  unfold get get?
  rw [found]

theorem get_of_getElem?_none {index : Nat} (missing : workspace.documents[index]? = none) :
    workspace.get index = .error (.noSuchDocument index workspace.size) := by
  unfold get get?
  rw [missing]

/-- A change of the document that was added last. -/
theorem modify_append (documents : List Document) (document : Document)
    (change : Document → Document) :
    (Workspace.mk (documents ++ [document])).modify documents.length change =
      .ok (change document, ⟨documents ++ [change document]⟩) := by
  have found : (documents ++ [document])[documents.length]? = some document :=
    List.getElem?_concat_length
  unfold modify
  rw [get_of_getElem? found]
  simp [bind, Except.bind, pure, Except.pure]

end Workspace

namespace Session

namespace Stepwise

variable {α β : Type} (session : Session)

theorem run_bind (first : Stepwise α) (next : α → Stepwise β) :
    (first >>= next).run.run session =
      match first.run.run session with
      | (.ok value, after) => (next value).run.run after
      | (.error error, after) => (.error error, after) := by
  have opened : (first >>= next).run.run session =
      (ExceptT.bindCont next (first.run.run session).1).run (first.run.run session).2 := rfl
  rw [opened]
  rcases first.run.run session with ⟨_ | _, after⟩ <;> rfl

theorem run_get : (get : Stepwise Session).run.run session = (.ok session, session) := rfl

theorem run_find (index : Nat) :
    (find index).run.run session = (session.workspace.get index, session) := rfl

theorem run_put (index : Nat) (document : Document) :
    (put index document).run.run session =
      (.ok (), { session with workspace := ⟨session.workspace.documents.set index document⟩ }) :=
  rfl

theorem run_push (document : Document) :
    (push document).run.run session =
      (.ok session.workspace.size,
        { session with workspace := ⟨session.workspace.documents ++ [document]⟩ }) := rfl

theorem run_readText (path : String) :
    (readText path).run.run session =
      match session.files.readText path with
      | .ok text => (.ok text, session)
      | .error cause => (.error (.inaccessible path cause), session) := by
  have opened : (readText path).run.run session =
      (match session.files.readText path with
      | .ok text => (pure text : Stepwise String)
      | .error cause => throw (WorkspaceError.inaccessible path cause)).run.run session := rfl
  rw [opened]
  cases session.files.readText path <;> rfl

theorem run_writeText (path text : String) :
    (writeText path text).run.run session =
      match Workspace.writeSource session.files path text with
      | .ok written => (.ok (), { session with files := written })
      | .error error => (.error error, session) := by
  have opened : (writeText path text).run.run session =
      ((liftM (Workspace.writeSource session.files path text) : Stepwise Files) >>= fun written =>
        modify fun session => { session with files := written }).run.run session := rfl
  rw [opened, run_bind]
  have lifted : (liftM (Workspace.writeSource session.files path text) : Stepwise Files).run.run
      session = (Workspace.writeSource session.files path text, session) := rfl
  rw [lifted]
  cases Workspace.writeSource session.files path text <;> rfl

theorem run_edit (index : Nat) (change : Document → Document) :
    (edit index change).run.run session =
      match session.workspace.modify index change with
      | .ok (document, workspace) => (.ok document, { session with workspace := workspace })
      | .error error => (.error error, session) := by
  unfold edit Workspace.modify
  rw [run_bind, run_find]
  cases session.workspace.get index <;> rfl

/-- The documents from an index on are run, each on what it was itself, and no others. -/
theorem run_runFrom (window : List Candle) (before rest : List Document)
    (documents : session.workspace.documents = before ++ rest) :
    (runFrom window before.length rest.length).run.run session =
      (.ok (rest.map fun document => (document.run window).1),
        { session with
          workspace := ⟨before ++ rest.map fun document => (document.run window).2⟩ }) := by
  induction rest generalizing session before with
  | nil =>
    obtain ⟨⟨known⟩, files⟩ := session
    cases documents
    rfl
  | cons document rest ih =>
    have found : session.workspace.get before.length = .ok document := by
      refine Workspace.get_of_getElem? ?_
      rw [documents, List.getElem?_append_right (Nat.le_refl _), Nat.sub_self]
      rfl
    have placed : session.workspace.documents.set before.length (document.run window).2 =
        (before ++ [(document.run window).2]) ++ rest := by
      rw [documents, List.set_append_right _ _ (Nat.le_refl _), Nat.sub_self, List.set_cons_zero,
        List.append_assoc, List.singleton_append]
    have others := ih { session with workspace := ⟨_⟩ } (before ++ [(document.run window).2]) placed
    rw [List.length_append, List.length_singleton, List.append_assoc, List.singleton_append]
      at others
    rw [List.length_cons, runFrom, run_bind, run_find, found]
    simp only [run_bind, run_put, others]
    rfl

end Stepwise

theorem respond_eq (session : Session) (operation : Operation) :
    session.respond operation = (session.reply operation, session.after operation) := by
  unfold respond after
  cases operation with
  | add name source => rfl
  | remove index =>
    simp only [enact, Stepwise.run_bind, Stepwise.run_find, reply, perform, Workspace.remove]
    cases session.workspace.get index <;> rfl
  | setEnabled index _ | toggle index | updateSource index _ | setInput index _ _ =>
    simp only [enact, Stepwise.run_bind, Stepwise.run_edit, reply, perform, Workspace.setEnabled,
      Workspace.toggle, Workspace.updateSource, Workspace.setInput]
    cases session.workspace.modify index _ <;> rfl
  | runAll window =>
    have ran := Stepwise.run_runFrom session window [] session.workspace.documents rfl
    rw [List.length_nil] at ran
    simp only [enact, Stepwise.run_bind, Stepwise.run_get, ran]
    simp only [reply, perform, Workspace.runAll, List.map_map]
    rfl
  | load path =>
    simp only [enact, Stepwise.run_bind, Stepwise.run_readText, reply, perform, Workspace.load]
    cases session.files.readText path with
    | error cause => rfl
    | ok source =>
      simp only [Stepwise.run_push, Stepwise.run_edit, Workspace.size, Workspace.modify_append]
      rfl
  | save index =>
    simp only [enact, Stepwise.run_bind, Stepwise.run_find, reply, perform, Workspace.save]
    cases session.workspace.get index with
    | error error => rfl
    | ok document =>
      simp only [ok_bind]
      cases document.path with
      | none => rfl
      | some path =>
        simp only [Stepwise.run_bind, Stepwise.run_writeText]
        cases Workspace.writeSource session.files path document.source <;> rfl
  | saveAs index path =>
    simp only [enact, Stepwise.run_bind, Stepwise.run_find, reply, perform, Workspace.saveAs]
    cases session.workspace.get index with
    | error error => rfl
    | ok document =>
      simp only [ok_bind, Stepwise.run_writeText]
      cases Workspace.writeSource session.files path document.source <;> rfl
  | replaceFiles files => rfl

/-- An operation that replies with an error leaves the session as it was. -/
theorem after_of_reply_error {session : Session} {operation : Operation} {error : WorkspaceError}
    (failed : session.reply operation = .error error) : session.after operation = session := by
  have stopped : session.perform operation = .error error := by
    cases operation with
    | add _ _ | runAll _ | replaceFiles _ => cases failed
    | remove _ | setEnabled _ _ | toggle _ | updateSource _ _ | setInput _ _ _ | load _ | save _
    | saveAs _ _ =>
      have stopped := error_of_bind_ok failed
      simp only [perform, stopped]
      rfl
  unfold after
  rw [stopped]

end Session

/-! ## Rosters -/

/-- What shows of a document. Of its engine that is the number of parses, and the source of the last
run decides when there is another one. -/
structure Sheet where
  name : String
  source : String
  enabled : Bool
  inputs : Table String Float
  path : Option String
  lastSource : Option String
  parseCount : Nat
  lastChart : Option Chart

namespace Sheet

def new (name source : String) : Sheet :=
  ⟨name, source, true, [], none, none, 0, none⟩

/-- A chart with an error and nothing drawn on it. -/
def disabledChart (sheet : Sheet) : Chart where
  title := sheet.name
  overlay := false
  error := some "Disabled"
  plots := []
  lines := []
  shapes := []
  backgrounds := []
  alerts := []
  signals := []
  inputs := []

/-- Runs a script on a new engine. If it is disabled, nothing but its last chart changes. -/
def run (sheet : Sheet) (window : List Candle) : Chart × Sheet :=
  if sheet.enabled then
    let chart := (Engine.new.run sheet.source window sheet.inputs).1
    (chart, { sheet with
      inputs := Document.keepDefaults sheet.inputs chart.inputs
      lastSource := some sheet.source
      parseCount := sheet.parseCount + if sheet.lastSource = some sheet.source then 0 else 1
      lastChart := some chart })
  else (sheet.disabledChart, { sheet with lastChart := some sheet.disabledChart })

end Sheet

structure Roster where
  sheets : List Sheet
  files : Files

namespace Roster

open Session (Operation Reply)

/-- A reply and the roster after it. -/
abbrev Outcome := Except WorkspaceError (Reply Sheet) × Roster

def start (files : Files) : Roster := ⟨[], files⟩

/-- Looks a script up by its position. If there is none, the roster stays as it is. -/
def lookup (roster : Roster) (index : Nat) (found : Sheet → Outcome) : Outcome :=
  match roster.sheets[index]? with
  | some sheet => found sheet
  | none => (.error (.noSuchDocument index roster.sheets.length), roster)

def replace (roster : Roster) (index : Nat) (change : Sheet → Sheet)
    (reply : Sheet → Reply Sheet) : Outcome :=
  roster.lookup index fun sheet =>
    (.ok (reply (change sheet)),
      { roster with sheets := roster.sheets.set index (change sheet) })

/-- Writes a text to a file. If that fails, the roster stays as it is. -/
def write (roster : Roster) (path text : String) (written : Files → Roster) : Outcome :=
  match roster.files.writeText path text with
  | .ok files => (.ok .done, written files)
  | .error cause => (.error (.inaccessible path cause), roster)

def perform (roster : Roster) : Operation → Outcome
  | .add name source =>
    (.ok (.placed roster.sheets.length),
      { roster with sheets := roster.sheets ++ [.new name source] })
  | .remove index =>
    roster.lookup index fun sheet =>
      (.ok (.taken sheet), { roster with sheets := roster.sheets.eraseIdx index })
  | .setEnabled index enabled =>
    roster.replace index (fun sheet => { sheet with enabled := enabled }) fun _ => .done
  | .toggle index =>
    roster.replace index (fun sheet => { sheet with enabled := !sheet.enabled }) fun sheet =>
      .switched sheet.enabled
  | .updateSource index source =>
    roster.replace index (fun sheet => { sheet with source := source }) fun _ => .done
  | .setInput index name value =>
    roster.replace index (fun sheet => { sheet with inputs := sheet.inputs.set name value })
      fun _ => .done
  | .runAll window =>
    (.ok (.drawn (roster.sheets.map fun sheet => (sheet.run window).1)),
      { roster with sheets := roster.sheets.map fun sheet => (sheet.run window).2 })
  | .load path =>
    match roster.files.readText path with
    | .ok source =>
      let sheet := { Sheet.new (Path.stem path) source with path := some path }
      (.ok (.placed roster.sheets.length), { roster with sheets := roster.sheets ++ [sheet] })
    | .error cause => (.error (.inaccessible path cause), roster)
  | .save index =>
    roster.lookup index fun sheet =>
      match sheet.path with
      | none => (.error (.noPath sheet.name), roster)
      | some path => roster.write path sheet.source fun files => { roster with files := files }
  | .saveAs index path =>
    roster.lookup index fun sheet =>
      roster.write path sheet.source fun files =>
        ⟨roster.sheets.set index { sheet with path := some path }, files⟩
  | .replaceFiles files => (.ok .done, { roster with files := files })

def afterAll (roster : Roster) (operations : List Operation) : Roster :=
  operations.foldl (fun roster operation => (roster.perform operation).2) roster

end Roster

/-! ## A session shows as a roster -/

def Document.sheet (document : Document) : Sheet where
  name := document.name
  source := document.source
  enabled := document.enabled
  inputs := document.inputs
  path := document.path
  lastSource := document.engine.lastSource
  parseCount := document.engine.parseCount
  lastChart := document.lastChart

theorem Document.sheet_run (document : Document) (window : List Candle)
    (consistent : document.engine.Consistent) :
    document.sheet.run window =
      ((document.run window).1, (document.run window).2.sheet) := by
  unfold Sheet.run Document.run
  cases enabled : document.enabled with
  | false => simp [sheet, enabled, disabledText, Sheet.disabledChart, Chart.failed]
  | true =>
    have fresh := Engine.new.run_drawn document.source window document.inputs
      (Engine.withHash_consistent _)
    have drawn := document.engine.run_drawn document.source window document.inputs consistent
    obtain ⟨source, count⟩ := document.engine.compile_counted document.source consistent
    have next : (document.engine.run document.source window document.inputs).2 =
        (document.engine.compile document.source).2 := rfl
    simp only [sheet, enabled, if_true, fresh, drawn, next, source, count]

namespace Session

def roster (session : Session) : Roster :=
  ⟨session.workspace.documents.map Document.sheet, session.files⟩

/-- What shows of a reply and of the session behind it. -/
def shown (outcome : Except WorkspaceError (Reply Document) × Session) : Roster.Outcome :=
  (outcome.1.map (Reply.map Document.sheet), outcome.2.roster)

theorem placed_roster (session : Session) :
    session.roster.sheets.length = session.workspace.size :=
  List.length_map _

theorem append_roster (session : Session) (document : Document) :
    Session.roster { session with workspace := (session.workspace.append document).2 } =
      { session.roster with sheets := session.roster.sheets ++ [document.sheet] } := by
  simp only [roster, Workspace.append, List.map_append, List.map_singleton]

section Lookups

variable (session : Session) (index : Nat)

theorem lookup_roster (found : Sheet → Roster.Outcome) :
    session.roster.lookup index found =
      match session.workspace.get index with
      | .ok document => found document.sheet
      | .error error => (.error error, session.roster) := by
  unfold Roster.lookup roster
  rw [List.getElem?_map, List.length_map]
  cases known : session.workspace.documents[index]? with
  | some document =>
    rw [Workspace.get_of_getElem? known]
    rfl
  | none =>
    rw [Workspace.get_of_getElem?_none known]
    rfl

theorem replace_roster (change : Document → Document) {edit : Sheet → Sheet}
    (shows : ∀ document, (change document).sheet = edit document.sheet)
    (reply : Sheet → Reply Sheet) :
    session.roster.replace index edit reply =
      match session.workspace.modify index change with
      | .ok (document, workspace) =>
        (.ok (reply document.sheet), Session.roster { session with workspace := workspace })
      | .error error => (.error error, session.roster) := by
  unfold Roster.replace Workspace.modify
  rw [lookup_roster]
  cases session.workspace.get index with
  | error error => rfl
  | ok document =>
    simp only [ok_bind, pure, Except.pure, roster, List.map_set, shows]

theorem write_roster (path text : String) (written : Files → Roster) :
    session.roster.write path text written =
      match Workspace.writeSource session.files path text with
      | .ok files => (.ok .done, written files)
      | .error error => (.error error, session.roster) := by
  unfold Roster.write Workspace.writeSource roster
  cases session.files.writeText path text <;> rfl

end Lookups

theorem shown_respond (session : Session) (operation : Operation)
    (consistent : session.workspace.Consistent) :
    shown (session.respond operation) = session.roster.perform operation := by
  rw [respond_eq]
  unfold shown after
  cases operation with
  | add name source =>
    have appended := append_roster session (.new name source)
    rw [Roster.perform, placed_roster]
    exact congrArg (Prod.mk _) appended
  | remove index =>
    simp only [Roster.perform, lookup_roster, reply, perform, Workspace.remove]
    cases session.workspace.get index with
    | error error => rfl
    | ok document =>
      have sheets := List.eraseIdx_map Document.sheet session.workspace.documents index
      simp only [ok_bind, pure, Except.pure, roster, sheets]
      rfl
  | setEnabled index enabled =>
    rw [Roster.perform, session.replace_roster index
      (fun document => { document with enabled := enabled }) fun _ => rfl]
    simp only [reply, perform, Workspace.setEnabled]
    cases session.workspace.modify index _ <;> rfl
  | toggle index =>
    rw [Roster.perform, session.replace_roster index
      (fun document => { document with enabled := !document.enabled }) fun _ => rfl]
    simp only [reply, perform, Workspace.toggle]
    cases session.workspace.modify index _ <;> rfl
  | updateSource index source =>
    rw [Roster.perform, session.replace_roster index
      (fun document => { document with source := source }) fun _ => rfl]
    simp only [reply, perform, Workspace.updateSource]
    cases session.workspace.modify index _ <;> rfl
  | setInput index name value =>
    rw [Roster.perform, session.replace_roster index
      (fun document => { document with inputs := document.inputs.set name value })
      fun _ => rfl]
    simp only [reply, perform, Workspace.setInput]
    cases session.workspace.modify index _ <;> rfl
  | runAll window =>
    have runs : ∀ document ∈ session.workspace.documents, document.sheet.run window =
        ((document.run window).1, (document.run window).2.sheet) := fun document member =>
      document.sheet_run window (consistent document member)
    have charts := List.map_congr_left fun document member =>
      congrArg Prod.fst (runs document member)
    have sheets := List.map_congr_left fun document member =>
      congrArg Prod.snd (runs document member)
    simp only [reply, perform, Workspace.runAll, Roster.perform, roster, List.map_map,
      Function.comp_def, charts, sheets, pure, Except.pure]
    rfl
  | load path =>
    simp only [reply, perform, Workspace.load, Roster.perform, placed_roster]
    cases read : session.files.readText path with
    | error cause =>
      simp only [roster, read]
      rfl
    | ok source =>
      have appended := append_roster session
        { Document.new (Path.stem path) source with path := some path }
      simp only [roster, read]
      exact congrArg (Prod.mk _) appended
  | save index =>
    simp only [Roster.perform, lookup_roster, reply, perform, Workspace.save]
    cases session.workspace.get index with
    | error error => rfl
    | ok document =>
      simp only [ok_bind, write_roster, Document.sheet]
      cases document.path with
      | none => rfl
      | some path =>
        simp only
        cases Workspace.writeSource session.files path document.source <;> rfl
  | saveAs index path =>
    simp only [Roster.perform, lookup_roster, reply, perform, Workspace.saveAs]
    cases session.workspace.get index with
    | error error => rfl
    | ok document =>
      simp only [ok_bind, write_roster, Document.sheet]
      cases Workspace.writeSource session.files path document.source with
      | error error => rfl
      | ok written =>
        simp only [ok_bind, pure, Except.pure, roster, List.map_set]
        rfl
  | replaceFiles files => rfl

theorem roster_afterAll (session : Session) (operations : List Operation)
    (consistent : session.workspace.Consistent) :
    (session.afterAll operations).roster = session.roster.afterAll operations := by
  induction operations generalizing session with
  | nil => rfl
  | cons operation rest ih =>
    have next : (session.after operation).roster = (session.roster.perform operation).2 := by
      rw [← shown_respond session operation consistent, respond_eq]
      rfl
    have others := ih (session.after operation) (after_consistent operation consistent)
    rw [next] at others
    exact others

/-- Whatever was done before, a session shows as the plain list of scripts that the same operations
lead to, and replies to the next operation as that list does. The single steps of an operation come
to what the workspace gives for it; if they end in an error, nothing has changed at all. -/
theorem respond_as_roster (files : Files) (operations : List Operation) :
    ((start files).afterAll operations).roster = (Roster.start files).afterAll operations ∧
    ∀ operation,
      shown (((start files).afterAll operations).respond operation) =
        ((Roster.start files).afterAll operations).perform operation ∧
      ((start files).afterAll operations).respond operation =
        (((start files).afterAll operations).reply operation,
          (start files).afterAll (operations ++ [operation])) ∧
      ∀ error next,
        ((start files).afterAll operations).respond operation = (.error error, next) →
          next = (start files).afterAll operations := by
  have consistent := reached_consistent files operations
  have same := roster_afterAll (start files) operations fun _ member =>
    absurd member List.not_mem_nil
  refine ⟨same, fun operation => ⟨?_, ?_, fun error next failed => ?_⟩⟩
  · rw [shown_respond _ _ consistent, same]
    rfl
  · rw [respond_eq, afterAll_concat]
  · rw [respond_eq] at failed
    obtain ⟨refused, rfl⟩ := Prod.mk.inj failed
    exact after_of_reply_error refused

end Session

end ChartScript
