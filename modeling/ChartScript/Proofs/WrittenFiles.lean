import ChartScript.Files
import ChartScript.Proofs.Outcome

/-!
# Files that are written

A file that is written has its contents from then on under every path that leads to it
(`Files.Written`), and nothing else changes. All paths lead where they led before, because what is
written is no directory on the way, neither before nor after.
-/

set_option autoImplicit false

namespace ChartScript

namespace Files

section Places

variable {files : Files} {place : FilePlace} {contents : ByteArray}
  (notDirectory : files.entry? place ≠ some .directory)

include notDirectory

theorem entry?_set (other : FilePlace) :
    entry? ⟨files.entries.set place (.file contents)⟩ other =
      if place = other then some (.file contents) else files.entry? other := by
  by_cases same : place = other
  · subst same
    have named : place.isEmpty = false := by
      cases place with
      | nil => exact absurd rfl notDirectory
      | cons name rest => rfl
    simp only [ entry?, named, Table.get?_set_self, Bool.false_eq_true, if_false, if_true]
  · simp only [ entry?, Table.get?_set_of_ne _ _ _ _ same, if_neg same]

/-- Names lead through directories only, so they do not lead through the file. -/
theorem follow_set (names : List String) (origin target : FilePlace) :
    follow ⟨files.entries.set place (.file contents)⟩ origin names = .ok target ↔
      files.follow origin names = .ok target := by
  induction names generalizing origin with
  | nil => exact Iff.rfl
  | cons name rest ih =>
    unfold follow
    rw [entry?_set notDirectory]
    by_cases same : place = origin
    · subst same
      rw [if_pos rfl]
      cases found : files.entry? place with
      | none => exact iff_of_false nofun nofun
      | some entry =>
        cases entry with
        | directory => exact absurd found notDirectory
        | file old => exact Iff.rfl
    · rw [if_neg same]
      cases files.entry? origin with
      | none => exact Iff.rfl
      | some entry =>
        cases entry with
        | file old => exact Iff.rfl
        | directory =>
          simp only
          split
          · exact ih origin
          · split
            · exact ih origin.dropLast
            · exact ih (origin ++ [name])

theorem locate_set (path : String) (target : FilePlace) :
    locate ⟨files.entries.set place (.file contents)⟩ path = .ok target ↔
      files.locate path = .ok target := by
  unfold locate
  split
  · exact Iff.rfl
  · exact follow_set notDirectory _ _ _

end Places

variable {before after : Files} {path : String} {contents : ByteArray} {place : FilePlace}

theorem locate_of_locateNew (located : before.locateNew path = .ok place) :
    before.locate path = .ok place := by
  unfold locateNew at located
  unfold locate
  split at located
  · cases located
  · rename_i named
    rw [if_neg named]
    split at located
    · exact located
    · obtain ⟨_, _, located⟩ := of_bind_ok located
      cases located

theorem read_eq_ok_iff : before.read path = .ok contents ↔
    ∃ place, before.locate path = .ok place ∧ before.entry? place = some (.file contents) := by
  constructor
  · intro ran
    obtain ⟨place, located, ran⟩ := of_bind_ok ran
    refine ⟨place, located, ?_⟩
    split at ran
    · cases ran
    · cases ran
    · rename_i found
      cases ran
      exact found
  · rintro ⟨place, located, found⟩
    simp only [read, located, bind, Except.bind, found]
    rfl

/-! ## Texts -/

theorem textOf_eq_ok_iff {text : String} : textOf contents = .ok text ↔ contents = text.toUTF8 := by
  unfold textOf String.fromUTF8?
  constructor
  · intro isText
    split at isText
    · rename_i found
      split at found
      · cases found
        cases isText
        rfl
      · cases found
    · cases isText
  · rintro rfl
    have valid : text.toUTF8.IsValidUTF8 := text.isValidUTF8
    rw [dif_pos valid]
    rfl

theorem readText_eq_ok_iff {text : String} :
    before.readText path = .ok text ↔ before.read path = .ok text.toUTF8 := by
  constructor
  · intro ran
    obtain ⟨contents, found, isText⟩ := of_bind_ok ran
    rw [found, textOf_eq_ok_iff.mp isText]
  · intro found
    unfold readText
    rw [found]
    exact textOf_eq_ok_iff.mpr rfl

/-! ## Writing -/

/-- Files that differ from others in a file that got its contents. -/
structure Written (before : Files) (path : String) (contents : ByteArray) (after : Files) :
    Prop where
  located : ∀ other place, after.locate other = .ok place ↔ before.locate other = .ok place
  read : ∀ other, before.locate other = before.locate path → after.read other = .ok contents
  elsewhere : ∀ other, before.locate other ≠ before.locate path → ∀ found,
    (after.read other = .ok found ↔ before.read other = .ok found)
  entries : ∀ place, before.locate path ≠ .ok place → after.entry? place = before.entry? place

theorem written_of_write (wrote : before.write path contents = .ok after) :
    before.Written path contents after := by
  obtain ⟨place, located, wrote⟩ := of_bind_ok wrote
  have leads := locate_of_locateNew located
  obtain ⟨notDirectory, rfl⟩ : before.entry? place ≠ some .directory ∧
      after = ⟨before.entries.set place (.file contents)⟩ := by
    split at wrote
    · cases wrote
    · rename_i notDirectory
      cases wrote
      exact ⟨notDirectory, rfl⟩
  have entries (other : FilePlace) :
      entry? ⟨before.entries.set place (.file contents)⟩ other =
        if place = other then some (.file contents) else before.entry? other :=
    entry?_set notDirectory other
  refine ⟨fun other target => locate_set notDirectory other target, fun other same => ?_,
    fun other differs found => ?_, fun other differs => ?_⟩
  · rw [read_eq_ok_iff]
    refine ⟨place, (locate_set notDirectory other place).mpr (same.trans leads), ?_⟩
    rw [entries, if_pos rfl]
  · rw [read_eq_ok_iff, read_eq_ok_iff]
    refine exists_congr fun target => ?_
    rw [locate_set notDirectory]
    refine and_congr_right fun led => ?_
    have apart : place ≠ target := by
      rintro rfl
      exact differs (led.trans leads.symm)
    rw [entries, if_neg apart]
  · rw [entries, if_neg]
    rintro rfl
    exact differs leads

end Files

end ChartScript
