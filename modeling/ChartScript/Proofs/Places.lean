import ChartScript.Proofs.Scanning
import Mathlib.Data.List.Induction

/-!
# Places behind a text

A place counts what stands before it: the bytes, the line breaks, and the characters behind the
last line break. The scanner's place is the one behind what it has read.
-/

set_option autoImplicit false

namespace ChartScript

theorem ne_newline_of_noBreak {characters : List Char} (noBreak : '\n' ∉ characters) :
    ∀ character ∈ characters, decide (character ≠ '\n') = true := by
  intro character member
  refine decide_eq_true ?_
  rintro rfl
  exact noBreak member

theorem Place.offset_afterAll (place : Place) (characters : List Char) :
    (place.afterAll characters).offset =
      place.offset + (String.ofList characters).utf8ByteSize := by
  induction characters generalizing place with
  | nil => rfl
  | cons character rest ih =>
    have step : (place.after character).offset = place.offset + character.utf8Size := by
      unfold Place.after
      split <;> rfl
    rw [String.ofList_cons, String.utf8ByteSize_append, String.utf8ByteSize_singleton,
      ← Nat.add_assoc, ← step]
    exact ih _

theorem Place.line_afterAll (place : Place) (characters : List Char) :
    (place.afterAll characters).line = place.line + characters.count '\n' := by
  induction characters generalizing place with
  | nil => rfl
  | cons character rest ih =>
    show (Place.afterAll (place.after character) rest).line = _
    rw [ih, List.count_cons, Place.after]
    by_cases isBreak : character = '\n'
    · simp only [isBreak, if_true, beq_self_eq_true]
      omega
    · simp only [isBreak, if_false, beq_iff_eq]
      omega

theorem Place.column_afterAll {characters : List Char} (noBreak : '\n' ∉ characters)
    (place : Place) :
    (place.afterAll characters).column = place.column + characters.length := by
  induction characters generalizing place with
  | nil => rfl
  | cons character rest ih =>
    obtain ⟨notBreak, noBreak⟩ := not_or.mp (List.mem_cons.not.mp noBreak)
    have step : (place.after character).column = place.column + 1 := by
      rw [Place.after, if_neg (Ne.symm notBreak)]
    show (Place.afterAll (place.after character) rest).column = _
    rw [ih noBreak, step, List.length_cons]
    omega

/-- The column of a place counts the characters behind the last line break. -/
theorem Place.column_origin (characters : List Char) :
    (origin.afterAll characters).column =
      1 + (characters.reverse.takeWhile (· ≠ '\n')).length := by
  induction characters using List.reverseRecOn with
  | nil => rfl
  | append_singleton others last ih =>
    have step : origin.afterAll (others ++ [last]) = (origin.afterAll others).after last :=
      List.foldl_append
    rw [step, Place.after, List.reverse_concat]
    by_cases isBreak : last = '\n'
    · rw [if_pos isBreak, List.takeWhile_cons_of_neg (by simp [isBreak])]
      rfl
    · rw [if_neg isBreak, List.takeWhile_cons_of_pos (by simp [isBreak]), List.length_cons, ih]
      exact Nat.add_assoc ..

/-- Texts of the same size without line breaks end at the same place. -/
theorem Place.afterAll_eq {first second : List Char} (noBreak : '\n' ∉ first)
    (noBreakOther : '\n' ∉ second) (length : first.length = second.length)
    (bytes : (String.ofList first).utf8ByteSize = (String.ofList second).utf8ByteSize)
    (place : Place) : place.afterAll first = place.afterAll second := by
  have offset := place.offset_afterAll
  have line := place.line_afterAll
  have offsets : (place.afterAll first).offset = (place.afterAll second).offset := by
    rw [offset, offset, bytes]
  have lines : (place.afterAll first).line = (place.afterAll second).line := by
    rw [line, line, List.count_eq_zero.mpr noBreak, List.count_eq_zero.mpr noBreakOther]
  have columns : (place.afterAll first).column = (place.afterAll second).column := by
    rw [column_afterAll noBreak, column_afterAll noBreakOther, length]
  revert offsets lines columns
  rcases place.afterAll first with ⟨_, _, _⟩
  rcases place.afterAll second with ⟨_, _, _⟩
  rintro rfl rfl rfl
  rfl

/-! ## Where the scanner is -/

namespace Lexer.Scanner

theorem Step.place {scanner next : Scanner} {read : List Token} (step : Step scanner read next) :
    ∃ skipped, scanner.rest = skipped ++ next.rest ∧
      next.place = scanner.place.afterAll skipped := by
  cases step with
  | blank stands _ | hiddenBreak stands _ | newline stands _ => exact ⟨_, stands, rfl⟩
  | @comment rest stands _ _ | @version rest stands _ _ =>
    exact ⟨commentText rest, stands.trans (commentText_append_rest rest).symm, rfl⟩
  | @lexeme first rest _ further stands _ _ _ _ =>
    refine ⟨first :: rest.take further, stands.trans ?_, rfl⟩
    exact congrArg (first :: ·) (List.take_append_drop further rest).symm

theorem Scans.place {scanner final : Scanner} {read : List Token}
    (scans : Scans scanner read final) :
    ∃ skipped, scanner.rest = skipped ++ final.rest ∧
      final.place = scanner.place.afterAll skipped := by
  induction scans with
  | done => exact ⟨[], rfl, rfl⟩
  | @step scanner _ _ _ _ first _ ih =>
    obtain ⟨skipped, split, place⟩ := first.place
    obtain ⟨others, splitOthers, placeOthers⟩ := ih
    refine ⟨skipped ++ others, by rw [split, splitOthers, List.append_assoc], ?_⟩
    rw [placeOthers, place, Place.afterAll, Place.afterAll, Place.afterAll, List.foldl_append]

end Lexer.Scanner

end ChartScript
