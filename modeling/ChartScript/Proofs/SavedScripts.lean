import ChartScript.Proofs.KeptInputs
import ChartScript.Proofs.WrittenFiles

/-!
# Scripts that are saved and loaded

A document keeps its source and its path whatever is done to other documents, also where these are
taken out before it (`Session.Follows`). So a script that is saved can be loaded again as it was,
and a script that was loaded is saved as it is in its file.
-/

set_option autoImplicit false

namespace ChartScript

namespace Session

namespace Operation

/-- Where a document is after an operation, if it is not taken out. -/
def follow (index : Nat) : Operation → Option Nat
  | remove removed =>
    if removed = index then none
    else if removed < index then some (index - 1)
    else some index
  | _ => some index

theorem of_follow_remove {removed index next : Nat}
    (moved : (remove removed).follow index = some next) :
    removed < index ∧ next = index - 1 ∨ index < removed ∧ next = index := by
  have led : (if removed = index then none
      else if removed < index then some (index - 1) else some index) = some next := moved
  by_cases same : removed = index
  · rw [if_pos same] at led
    cases led
  rw [if_neg same] at led
  by_cases before : removed < index
  · rw [if_pos before] at led
    exact .inl ⟨before, (Option.some.inj led).symm⟩
  · rw [if_neg before] at led
    exact .inr ⟨by omega, (Option.some.inj led).symm⟩

def Edits (index : Nat) : Operation → Prop
  | updateSource edited _ => edited = index
  | _ => False

def Relocates (index : Nat) : Operation → Prop
  | saveAs saved _ => saved = index
  | _ => False

end Operation

/-- A document goes from one index to another one while operations are performed. Those of them
that would change it fail. -/
inductive Follows (changes : Nat → Operation → Prop) :
    Session → Nat → List Operation → Nat → Prop
  | nil (session : Session) (index : Nat) : Follows changes session index [] index
  | cons {session : Session} {index next last : Nat} {operation : Operation}
      {rest : List Operation}
      (unchanged : changes index operation → ∃ error, session.reply operation = .error error)
      (moved : operation.follow index = some next)
      (others : Follows changes (session.after operation) next rest last) :
      Follows changes session index (operation :: rest) last

end Session

theorem Workspace.written_of_writeSource {files written : Files} {path source : String}
    (wrote : writeSource files path source = .ok written) :
    files.Written path source.toUTF8 written := by
  unfold writeSource at wrote
  cases result : files.writeText path source with
  | error cause =>
    rw [result] at wrote
    cases wrote
  | ok others =>
    rw [result] at wrote
    cases wrote
    exact Files.written_of_write result

/-- A script as it is when it has been loaded. -/
def Document.loaded (path source : String) : Document :=
  { Document.new (Path.stem path) source with path := some path }

namespace Session

section FilesOfScripts

variable {session : Session} {index : Nat} {path source : String} {result : Reply Document}

theorem of_reply_load (replied : session.reply (.load path) = .ok result) :
    ∃ source, session.files.readText path = .ok source ∧
      result = .placed session.workspace.size ∧
      session.after (.load path) =
        { session with workspace := (session.workspace.append (.loaded path source)).2 } := by
  obtain ⟨⟨placed, workspace⟩, loads, replied⟩ := of_bind_ok replied
  simp only [after, perform, loads]
  cases replied
  unfold Workspace.load at loads
  cases found : session.files.readText path with
  | error cause =>
    rw [found] at loads
    cases loads
  | ok source =>
    rw [found] at loads
    cases loads
    exact ⟨source, rfl, rfl, rfl⟩

theorem respond_load (found : session.files.readText path = .ok source) :
    session.respond (.load path) = (.ok (.placed session.workspace.size),
      { session with workspace := (session.workspace.append (.loaded path source)).2 }) := by
  rw [respond_eq]
  simp only [reply, after, perform, Workspace.load, found]
  rfl

theorem of_reply_save (replied : session.reply (.save index) = .ok result) :
    ∃ document path, session.workspace.documents[index]? = some document ∧
      document.path = some path ∧
      (session.after (.save index)).workspace = session.workspace ∧
      session.files.Written path document.source.toUTF8 (session.after (.save index)).files := by
  obtain ⟨written, saves, _⟩ := of_bind_ok replied
  simp only [after, perform, saves]
  obtain ⟨document, found, saves⟩ := of_bind_ok saves
  cases located : document.path with
  | none =>
    rw [located] at saves
    cases saves
  | some path =>
    rw [located] at saves
    exact ⟨document, path, Workspace.getElem?_of_get found, located, rfl,
      Workspace.written_of_writeSource saves⟩

theorem of_reply_saveAs (replied : session.reply (.saveAs index path) = .ok result) :
    ∃ document, session.workspace.documents[index]? = some document ∧
      (session.after (.saveAs index path)).workspace.documents =
        session.workspace.documents.set index { document with path := some path } ∧
      session.files.Written path document.source.toUTF8
        (session.after (.saveAs index path)).files := by
  obtain ⟨⟨workspace, written⟩, saves, _⟩ := of_bind_ok replied
  simp only [after, perform, saves]
  obtain ⟨document, found, saves⟩ := of_bind_ok saves
  obtain ⟨others, wrote, saves⟩ := of_bind_ok saves
  cases saves
  exact ⟨document, Workspace.getElem?_of_get found, rfl, Workspace.written_of_writeSource wrote⟩

end FilesOfScripts

/-! ## What stays of a document -/

section Documents

variable {session : Session} {operation : Operation} {index next : Nat} {document : Document}

theorem eq_of_reply_error {error : WorkspaceError}
    (found : session.workspace.documents[index]? = some document)
    (failed : session.reply operation = .error error)
    (moved : operation.follow index = some next) : next = index := by
  cases operation with
  | remove removed =>
    have known := (List.getElem?_eq_some_iff.mp found).1
    have unknown : session.workspace.documents.length ≤ removed := by
      rw [← List.getElem?_eq_none_iff]
      cases listed : session.workspace.documents[removed]? with
      | none => rfl
      | some other =>
        simp only [reply, Workspace.remove, Workspace.get_of_getElem? listed] at failed
        cases failed
    rcases Operation.of_follow_remove moved with ⟨before, _⟩ | ⟨_, same⟩
    · omega
    · exact same
  | _ => exact (Option.some.inj moved).symm

theorem getElem?_of_append {added : Document} (workspace : Workspace)
    (found : workspace.documents[index]? = some document) :
    (workspace.append added).2.documents[index]? = some document :=
  (List.getElem?_append_left (List.getElem?_eq_some_iff.mp found).1).trans found

theorem getElem?_of_modify {workspace changed : Workspace} {place : Nat}
    {change : Document → Document} {result : Document}
    (modified : workspace.modify place change = .ok (result, changed))
    (found : workspace.documents[index]? = some document) :
    changed.documents[index]? =
      some (if place = index then change document else document) := by
  rw [Workspace.modify_documents modified, List.getElem?_modify, found]
  rfl

theorem getElem?_of_remove {workspace left : Workspace} {removed : Nat} {taken : Document}
    (took : workspace.remove removed = .ok (taken, left))
    (found : workspace.documents[index]? = some document)
    (moved : (Operation.remove removed).follow index = some next) :
    left.documents[next]? = some document := by
  obtain ⟨_, _, took⟩ := of_bind_ok took
  cases took
  rw [List.getElem?_eraseIdx]
  rcases Operation.of_follow_remove moved with ⟨before, rfl⟩ | ⟨behind, rfl⟩
  · rw [if_neg (by omega), Nat.sub_add_cancel (by omega)]
    exact found
  · rw [if_pos behind]
    exact found

/-- What is done to others changes neither the source nor the path of a document. -/
theorem document_after (found : session.workspace.documents[index]? = some document)
    (moved : operation.follow index = some next) :
    ∃ later, (session.after operation).workspace.documents[next]? = some later ∧
      (¬operation.Edits index → later.source = document.source) ∧
      (¬operation.Relocates index → later.path = document.path) := by
  cases replied : session.reply operation with
  | error error =>
    rw [after_of_reply_error replied, eq_of_reply_error found replied moved]
    exact ⟨document, found, fun _ => rfl, fun _ => rfl⟩
  | ok reply =>
    cases operation with
    | remove removed =>
      obtain ⟨⟨taken, left⟩, took, _⟩ := of_bind_ok replied
      simp only [after, perform, took]
      exact ⟨document, getElem?_of_remove took found moved, fun _ => rfl, fun _ => rfl⟩
    | runAll window =>
      cases moved
      have ran : (session.after (.runAll window)).workspace.documents =
          session.workspace.documents.map fun document => (document.run window).2 := by
        simp only [after, perform, Workspace.runAll, List.map_map]
        rfl
      have kept : (document.run window).2.source = document.source ∧
          (document.run window).2.path = document.path := by
        unfold Document.run
        split <;> exact ⟨rfl, rfl⟩
      refine ⟨(document.run window).2, ?_, fun _ => kept.1, fun _ => kept.2⟩
      rw [ran, List.getElem?_map, found]
      rfl
    | add name source =>
      cases moved
      exact ⟨document, getElem?_of_append _ found, fun _ => rfl, fun _ => rfl⟩
    | setEnabled place _ | toggle place | setInput place _ _ =>
      cases moved
      obtain ⟨⟨result, changed⟩, modified, _⟩ := of_bind_ok replied
      simp only [after, perform, modified]
      refine ⟨_, getElem?_of_modify modified found, fun _ => ?_, fun _ => ?_⟩
      · split <;> rfl
      · split <;> rfl
    | updateSource place source =>
      cases moved
      obtain ⟨⟨result, changed⟩, modified, _⟩ := of_bind_ok replied
      simp only [after, perform, modified]
      refine ⟨_, getElem?_of_modify modified found, fun elsewhere => ?_, fun _ => ?_⟩
      · exact congrArg Document.source (if_neg elsewhere)
      · split <;> rfl
    | load path =>
      cases moved
      obtain ⟨source, _, _, loads⟩ := of_reply_load replied
      rw [loads]
      exact ⟨document, getElem?_of_append _ found, fun _ => rfl, fun _ => rfl⟩
    | save saved =>
      cases moved
      obtain ⟨_, _, _, _, same, _⟩ := of_reply_save replied
      rw [same]
      exact ⟨document, found, fun _ => rfl, fun _ => rfl⟩
    | saveAs place path =>
      cases moved
      obtain ⟨saved, known, saves, _⟩ := of_reply_saveAs replied
      rw [saves, List.getElem?_set]
      by_cases same : place = index
      · subst same
        cases found.symm.trans known
        rw [if_pos rfl, if_pos (List.getElem?_eq_some_iff.mp found).1]
        exact ⟨_, rfl, fun _ => rfl, fun elsewhere => absurd rfl elsewhere⟩
      · rw [if_neg same]
        exact ⟨document, found, fun _ => rfl, fun _ => rfl⟩
    | replaceFiles files =>
      cases moved
      exact ⟨document, found, fun _ => rfl, fun _ => rfl⟩

/-- A document that is followed keeps its source where no edit of it succeeds, and its path where
it is not saved to another file. -/
theorem document_afterAll {changes : Nat → Operation → Prop} {operations : List Operation}
    {now : Nat} (follows : Follows changes session index operations now)
    (found : session.workspace.documents[index]? = some document) :
    ∃ later, (session.afterAll operations).workspace.documents[now]? = some later ∧
      ((∀ place operation, operation.Edits place → changes place operation) →
        later.source = document.source) ∧
      ((∀ place operation, operation.Relocates place → changes place operation) →
        later.path = document.path) := by
  induction follows generalizing document with
  | nil session index => exact ⟨document, found, fun _ => rfl, fun _ => rfl⟩
  | @cons session index next last operation rest unchanged moved _ ih =>
    cases replied : session.reply operation with
    | error error =>
      rw [eq_of_reply_error found replied moved, after_of_reply_error replied] at ih
      have same : session.afterAll (operation :: rest) = session.afterAll rest := by
        rw [afterAll, List.foldl_cons, after_of_reply_error replied]
        rfl
      rw [same]
      exact ih found
    | ok reply =>
      have allowed : ¬changes index operation := by
        intro changed
        obtain ⟨error, failed⟩ := unchanged changed
        cases replied.symm.trans failed
      obtain ⟨middle, isMiddle, sameSource, samePath⟩ := document_after found moved
      obtain ⟨later, isLater, keepsSource, keepsPath⟩ := ih isMiddle
      refine ⟨later, isLater, fun edits => ?_, fun relocates => ?_⟩
      · rw [keepsSource edits, sameSource (mt (edits index operation) allowed)]
      · rw [keepsPath relocates, samePath (mt (relocates index operation) allowed)]

end Documents

/-! ## Round trips -/

section RoundTrips

variable {session middle next : Session} {operation : Operation} {index now : Nat} {path : String}
  {between : List Operation}

theorem of_respond {answer : Except WorkspaceError (Reply Document)}
    (responds : session.respond operation = (answer, next)) :
    session.reply operation = answer ∧ session.after operation = next := by
  rw [respond_eq] at responds
  exact Prod.mk.inj responds

/-- A script that was saved to a file and then saved again can be loaded as it was then. -/
theorem respond_load_of_saved (saved : session.respond (.saveAs index path) = (.ok .done, middle))
    (follows : Follows Operation.Relocates middle index between now)
    (savedAgain : (middle.afterAll between).respond (.save now) = (.ok .done, next)) :
    ∃ document, (middle.afterAll between).workspace.documents[now]? = some document ∧
      next.respond (.load path) = (.ok (.placed next.workspace.size),
        { next with
          workspace := (next.workspace.append (.loaded path document.source)).2 }) := by
  obtain ⟨replied, rfl⟩ := of_respond saved
  obtain ⟨repliedAgain, rfl⟩ := of_respond savedAgain
  obtain ⟨before, found, documents, _⟩ := of_reply_saveAs replied
  have known : index < session.workspace.documents.length :=
    (List.getElem?_eq_some_iff.mp found).1
  have relocated : (session.after (.saveAs index path)).workspace.documents[index]? =
      some { before with path := some path } := by
    rw [documents, List.getElem?_set, if_pos rfl, if_pos known]
  obtain ⟨later, isLater, _, keepsPath⟩ := document_afterAll follows relocated
  obtain ⟨document, target, isDocument, isTarget, _, written⟩ := of_reply_save repliedAgain
  cases isLater.symm.trans isDocument
  cases (keepsPath fun _ _ => id).symm.trans isTarget
  exact ⟨later, isLater, respond_load (Files.readText_eq_ok_iff.mpr (written.read _ rfl))⟩

/-- A script that was loaded and not edited is saved with the contents that it was loaded with. -/
theorem read_of_loaded (loaded : session.respond (.load path) = (.ok (.placed index), middle))
    (follows : Follows Operation.Edits middle index between now)
    (saved : (middle.afterAll between).respond (.save now) = (.ok .done, next)) :
    ∃ contents document target, session.files.read path = .ok contents ∧
      next.workspace.documents[now]? = some document ∧ document.path = some target ∧
      next.files.read target = .ok contents ∧
      (Follows Operation.Relocates middle index between now → target = path) := by
  obtain ⟨repliedLoad, rfl⟩ := of_respond loaded
  obtain ⟨replied, rfl⟩ := of_respond saved
  obtain ⟨source, isSource, placed, loads⟩ := of_reply_load repliedLoad
  cases placed
  have appended : (session.after (.load path)).workspace.documents[session.workspace.size]? =
      some (.loaded path source) := by
    rw [loads]
    exact List.getElem?_concat_length
  obtain ⟨later, isLater, keepsSource, _⟩ := document_afterAll follows appended
  obtain ⟨document, target, isDocument, isTarget, same, written⟩ := of_reply_save replied
  cases isLater.symm.trans isDocument
  refine ⟨source.toUTF8, later, target, Files.readText_eq_ok_iff.mp isSource, ?_, isTarget, ?_,
    fun stays => ?_⟩
  · rw [same]
    exact isDocument
  · have kept : later.source = source := keepsSource fun _ _ => id
    rw [← kept]
    exact written.read target rfl
  · obtain ⟨other, isOther, _, keepsPath⟩ := document_afterAll stays appended
    cases isLater.symm.trans isOther
    exact Option.some.inj (isTarget.symm.trans (keepsPath fun _ _ => id))

end RoundTrips

/-- Whatever was done before, a script that was saved to a file and then saved again can be loaded
from there as it was at that time, even if it was edited and others have come and gone in between.
Saving changes nothing but the file that it writes and, if that is another one, the path of the
script. A script that was loaded and not edited is saved with the contents of its file. What fails
changes neither a script nor a file. -/
theorem saved_scripts_load (files : Files) (operations : List Operation) :
    let session := (start files).afterAll operations
    (∀ index path saved, session.respond (.saveAs index path) = (.ok .done, saved) →
      ∀ between now, Follows Operation.Relocates saved index between now →
      ∀ final, (saved.afterAll between).respond (.save now) = (.ok .done, final) →
      ∃ document loaded, (saved.afterAll between).workspace.documents[now]? = some document ∧
        final.respond (.load path) = (.ok (.placed final.workspace.size),
          ⟨⟨final.workspace.documents ++ [loaded]⟩, final.files⟩) ∧
        loaded.source = document.source ∧ loaded.path = some path ∧
        loaded.name = Path.stem path ∧ loaded.enabled = true ∧ loaded.inputs = []) ∧
    (∀ index saved, session.respond (.save index) = (.ok .done, saved) →
      ∃ document path, session.workspace.documents[index]? = some document ∧
        document.path = some path ∧ saved.workspace = session.workspace ∧
        session.files.Written path document.source.toUTF8 saved.files) ∧
    (∀ index path saved, session.respond (.saveAs index path) = (.ok .done, saved) →
      ∃ document, session.workspace.documents[index]? = some document ∧
        saved.workspace.documents =
          session.workspace.documents.set index { document with path := some path } ∧
        session.files.Written path document.source.toUTF8 saved.files) ∧
    (∀ path index loaded, session.respond (.load path) = (.ok (.placed index), loaded) →
      ∀ between now, Follows Operation.Edits loaded index between now →
      ∀ final, (loaded.afterAll between).respond (.save now) = (.ok .done, final) →
      ∃ contents document target, session.files.read path = .ok contents ∧
        final.workspace.documents[now]? = some document ∧ document.path = some target ∧
        final.files.read target = .ok contents ∧
        (Follows Operation.Relocates loaded index between now → target = path)) ∧
    ∀ operation error left, session.respond operation = (.error error, left) → left = session := by
  refine ⟨fun index path saved savesAs between now follows final saves => ?_,
    fun index saved saves => ?_, fun index path saved saves => ?_,
    fun path index loaded loads between now follows final saves =>
      read_of_loaded loads follows saves,
    fun operation error left fails => ?_⟩
  · obtain ⟨document, found, loads⟩ := respond_load_of_saved savesAs follows saves
    exact ⟨document, .loaded path document.source, found, loads, rfl, rfl, rfl, rfl, rfl⟩
  · obtain ⟨replied, rfl⟩ := of_respond saves
    exact of_reply_save replied
  · obtain ⟨replied, rfl⟩ := of_respond saves
    exact of_reply_saveAs replied
  · obtain ⟨replied, rfl⟩ := of_respond fails
    exact after_of_reply_error replied

def draft : Session :=
  (start .empty).afterAll [.add "Old" "plot(close)", .add "Draft" "plot(open)"]

def savedDraft : Session :=
  draft.after (.saveAs 1 "saved.pine")

/-- The older script is gone, and the draft has been edited. -/
def editedDraft : Session :=
  savedDraft.afterAll [.remove 0, .updateSource 0 "plot(high)"]

theorem saved_scripts_load_draft :
    draft.respond (.saveAs 1 "saved.pine") = (.ok .done, savedDraft) ∧
      ∃ final loaded, editedDraft.respond (.save 0) = (.ok .done, final) ∧
        final.respond (.load "saved.pine") =
          (.ok (.placed 1), ⟨⟨final.workspace.documents ++ [loaded]⟩, final.files⟩) ∧
        loaded.source = "plot(high)" ∧ loaded.name = "saved" := by
  have saves : draft.respond (.saveAs 1 "saved.pine") = (.ok .done, savedDraft) := by
    rw [respond_eq]
    exact congrArg (·, savedDraft) rfl
  have savesAgain : editedDraft.respond (.save 0) = (.ok .done, editedDraft.after (.save 0)) := by
    rw [respond_eq]
    exact congrArg (·, editedDraft.after (.save 0)) rfl
  have follows : Follows Operation.Relocates savedDraft 1
      [.remove 0, .updateSource 0 "plot(high)"] 0 :=
    .cons nofun rfl (.cons nofun rfl (.nil _ _))
  obtain ⟨document, loaded, found, loads, source, _, name, _⟩ :=
    (saved_scripts_load .empty [.add "Old" "plot(close)", .add "Draft" "plot(open)"]).1 1
      "saved.pine" savedDraft saves _ 0 follows _ savesAgain
  have edited : editedDraft.workspace.documents[0]?.map Document.source = some "plot(high)" := rfl
  have same : editedDraft.workspace.documents[0]? = some document := found
  rw [same] at edited
  exact ⟨saves, _, loaded, savesAgain, loads, source.trans (Option.some.inj edited), name⟩

end Session

end ChartScript
