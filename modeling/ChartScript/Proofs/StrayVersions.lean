import ChartScript.Proofs.DroppedVersions
import ChartScript.Proofs.Places
import ChartScript.Proofs.ReadTokens

/-!
# Version comments past the header

A version comment below a line break that separates statements says nothing, if there is a token
before it: any other comment of its size can stand there. In brackets, where line breaks separate
nothing, the scanner still makes a token of it, and no program has one there.
-/

set_option autoImplicit false

namespace ChartScript

open Lexer Scanner

/-! ## Lines of one comment -/

/-- A comment up to the end of its line. -/
structure IsComment (comment : String) : Prop where
  opened : ['/', '/'] <+: comment.toList
  noBreak : '\n' ∉ comment.toList

namespace Lexer.Scanner

variable {scanner final : Scanner} {before blanks comment after : String} {read : List Token}

theorem start_line (before line : String) :
    start (before ++ "\n" ++ line) = (start before).extend ('\n' :: line.toList) := by
  simp [start, extend]

/-- The scanner on the line below a text. -/
def below (final : Scanner) (line : List Char) : Scanner :=
  ⟨line, final.place.after '\n', final.depth, true⟩

def breakTokens (final : Scanner) : List Token :=
  if final.depth = 0 then [final.token .newline ['\n']] else []

theorem scans_below (scans : Scans (start before) read final) (ended : final.rest = [])
    (line : String) :
    Scans (start (before ++ "\n" ++ line)) (read ++ final.breakTokens)
      (final.below line.toList) := by
  have atBreak : (final.extend ('\n' :: line.toList)).rest = '\n' :: line.toList := by
    rw [extend, ended, List.nil_append]
  rw [start_line]
  refine (scans.extend line.toList).trans ?_
  unfold breakTokens
  split
  case isTrue outside => exact (Step.newline atBreak outside).scans
  case isFalse inside => exact (Step.hiddenBreak atBreak (Nat.pos_of_ne_zero inside)).scans

theorem scans_blanks {characters rest : List Char}
    (blank : ∀ character ∈ characters, isBlank character = true)
    (stands : scanner.rest = characters ++ rest) :
    Scans scanner [] (scanner.skip characters rest) := by
  induction characters generalizing scanner with
  | nil =>
    obtain ⟨text, place, depth, atLineStart⟩ := scanner
    cases stands
    exact .done _
  | cons first others ih =>
    have step := Step.blank stands (blank first (.head _))
    exact .step step (ih (fun character member => blank character (.tail _ member)) rfl)

def commentTokens (scanner : Scanner) (comment : List Char) : List Token :=
  if scanner.atLineStart && versionMark.isPrefixOf comment then
    [scanner.token (.versionComment (String.ofList comment)) comment]
  else []

theorem commentTokens_of_states {comment : List Char} (atLineStart : scanner.atLineStart = true)
    (states : versionMark <+: comment) :
    scanner.commentTokens comment =
      [scanner.token (.versionComment (String.ofList comment)) comment] := by
  rw [commentTokens, atLineStart, Bool.true_and, if_pos (List.isPrefixOf_iff_prefix.mpr states)]

theorem commentTokens_of_ordinary {comment : List Char} (ordinary : ¬versionMark <+: comment) :
    scanner.commentTokens comment = [] := by
  have unstated : versionMark.isPrefixOf comment = false :=
    Bool.eq_false_iff.mpr (List.isPrefixOf_iff_prefix.not.mpr ordinary)
  rw [commentTokens, unstated, Bool.and_false, if_neg Bool.false_ne_true]

theorem line_of_comment {body rest : List Char} (noBreak : '\n' ∉ body)
    (lineEnd : ∀ character ∈ rest.head?, character = '\n') :
    (body ++ rest).takeWhile (· ≠ '\n') = body ∧ (body ++ rest).dropWhile (· ≠ '\n') = rest := by
  have passes := ne_newline_of_noBreak noBreak
  rw [List.takeWhile_append_of_pos passes, List.dropWhile_append_of_pos passes]
  cases rest with
  | nil => exact ⟨List.append_nil body, rfl⟩
  | cons first rest =>
    obtain rfl := lineEnd first rfl
    exact ⟨List.append_nil body, rfl⟩

theorem scans_comment (isComment : IsComment comment)
    (stands : scanner.rest = comment.toList ++ after.toList)
    (lineEnd : ∀ character ∈ after.toList.head?, character = '\n') :
    Scans scanner (scanner.commentTokens comment.toList)
      (scanner.skip comment.toList after.toList) := by
  obtain ⟨⟨body, opened⟩, noBreak⟩ := isComment
  rw [← opened] at noBreak stands ⊢
  have ahead : scanner.rest = '/' :: ('/' :: body ++ after.toList) := stands
  obtain ⟨text, behind⟩ := @line_of_comment ('/' :: body) after.toList
    (fun member => noBreak (.tail _ member)) lineEnd
  have whole : commentText ('/' :: body ++ after.toList) = ['/', '/'] ++ body :=
    congrArg ('/' :: ·) text
  have next : scanner.afterComment ('/' :: body ++ after.toList) =
      scanner.skip (['/', '/'] ++ body) after.toList := by
    rw [afterComment, whole, behind]
  unfold commentTokens
  cases special : scanner.statesVersion ('/' :: body ++ after.toList) with
  | true =>
    have step := Step.version ahead rfl special
    rw [statesVersion, whole] at special
    rw [if_pos special, ← next, ← whole]
    exact step.scans
  | false =>
    have step := Step.comment ahead rfl special
    rw [statesVersion, whole] at special
    rw [if_neg (Bool.eq_false_iff.mp special), ← next]
    exact step.scans

end Lexer.Scanner

/-! ## Comments in the place of others -/

/-- A version comment, and a comment of the same size that states no version. -/
structure Replaces (comment version : String) : Prop where
  isVersion : IsComment version
  isComment : IsComment comment
  states : versionMark <+: version.toList
  ordinary : ¬versionMark <+: comment.toList
  length : version.length = comment.length
  bytes : version.utf8ByteSize = comment.utf8ByteSize

theorem Replaces.afterAll {comment version : String} (replaces : Replaces comment version)
    (place : Place) : place.afterAll version.toList = place.afterAll comment.toList := by
  refine Place.afterAll_eq replaces.isVersion.noBreak replaces.isComment.noBreak ?_ ?_ place
  · rw [String.length_toList, String.length_toList, replaces.length]
  · rw [String.ofList_toList, String.ofList_toList, replaces.bytes]

/-- How many brackets are open behind a text, as far as it is one of tokens. -/
def openBrackets (before : String) : Nat :=
  (tokenize before).toOption.elim 0 (depthAfterAll 0)

/-- A text of tokens has one that is no line break. -/
def isPastHeader (before : String) : Bool :=
  (tokenize before).toOption.all (·.any fun token => !(token.kind matches .newline | .endOfInput))

section Line

variable {before blanks comment version after : String} {read : List Token} {final : Scanner}

theorem tokenize_stuck {error : LexicalError} (scans : Scans (start before) read final)
    (stuck : final.Stuck error) (line : String) :
    tokenize (before ++ "\n" ++ line) = .error error := by
  have extended := (scans.extend line.toList).tokens
  rw [(stuck.extend line.toList).tokens, ← start_line] at extended
  exact extended

theorem openBrackets_of_scans (scans : Scans (start before) read final) (ended : final.rest = []) :
    openBrackets before = final.depth := by
  have scanned : tokenize before = .ok (read ++ [final.token .endOfInput []]) :=
    scans.tokens_ok (tokens_of_end ended)
  rw [openBrackets, scanned, scans.depth]
  exact depthAfterAll_append 0 read _

theorem of_isPastHeader (scans : Scans (start before) read final) (ended : final.rest = [])
    (past : isPastHeader before = true) : ∃ token ∈ read, token.kind ≠ .newline := by
  have scanned : tokenize before = .ok (read ++ [final.token .endOfInput []]) :=
    scans.tokens_ok (tokens_of_end ended)
  rw [isPastHeader, scanned] at past
  obtain ⟨token, member, other⟩ := List.any_eq_true.mp past
  rcases List.mem_append.mp member with among | last
  · refine ⟨token, among, fun isBreak => ?_⟩
    rw [isBreak] at other
    cases other
  · cases List.mem_singleton.mp last
    cases other

/-- What a text with a comment on its last line is read as. -/
theorem tokenize_comment (scans : Scans (start before) read final) (ended : final.rest = [])
    (blank : ∀ character ∈ blanks.toList, isBlank character = true)
    (isComment : IsComment comment)
    (lineEnd : ∀ character ∈ after.toList.head?, character = '\n') :
    tokenize (before ++ "\n" ++ (blanks ++ comment ++ after)) =
      (read ++ final.breakTokens ++
        ((final.below []).skip blanks.toList []).commentTokens comment.toList ++ ·) <$>
        tokens ⟨after.toList, ((final.place.after '\n').afterAll blanks.toList).afterAll
          comment.toList, final.depth, true⟩ := by
  have line := scans_below scans ended (blanks ++ comment ++ after)
  have blankScans := scans_blanks blank
    (by simp [below] : (final.below (blanks ++ comment ++ after).toList).rest =
      blanks.toList ++ (comment.toList ++ after.toList))
  have commentScans := scans_comment isComment
    (by rfl : ((final.below (blanks ++ comment ++ after).toList).skip blanks.toList
      (comment.toList ++ after.toList)).rest = comment.toList ++ after.toList) lineEnd
  exact (line.trans (blankScans.trans commentScans)).tokens

/-- Outside of brackets it does not matter what a comment states. -/
theorem parse_outside (past : isPastHeader before = true)
    (blank : ∀ character ∈ blanks.toList, isBlank character = true)
    (replaces : Replaces comment version)
    (lineEnd : ∀ character ∈ after.toList.head?, character = '\n')
    (outside : openBrackets before = 0) :
    parse (before ++ "\n" ++ (blanks ++ version ++ after)) =
      parse (before ++ "\n" ++ (blanks ++ comment ++ after)) := by
  obtain ⟨read, final, scans, ended | ⟨error, stuck⟩⟩ := scans_or_stuck (start before)
  case inr => rw [parse, parse, tokenize_stuck scans stuck, tokenize_stuck scans stuck]
  rw [openBrackets_of_scans scans ended] at outside
  have newline : final.breakTokens = [_] := if_pos outside
  have special : ((final.below []).skip blanks.toList []).commentTokens version.toList = [_] :=
    commentTokens_of_states rfl replaces.states
  rw [parse, parse, tokenize_comment scans ended blank replaces.isVersion lineEnd,
    tokenize_comment scans ended blank replaces.isComment lineEnd, newline, special,
    commentTokens_of_ordinary replaces.ordinary, replaces.afterAll]
  cases behind : Scanner.tokens ⟨after.toList, _, final.depth, true⟩ with
  | error error => rfl
  | ok tokens =>
    obtain ⟨others, last, _, _, rfl⟩ := of_tokens_ok behind
    have dropped := @parseTokens_without_version read others (final.token .newline ['\n'])
      (((final.below []).skip blanks.toList []).token
        (.versionComment (String.ofList version.toList)) version.toList)
      (last.token .endOfInput []) _ (of_isPastHeader scans ended past) rfl rfl rfl
    simp only [List.append_assoc, List.cons_append] at dropped
    simp only [Functor.map, Except.map, List.append_assoc, List.cons_append, List.nil_append,
      dropped]

theorem parse_inside (blank : ∀ character ∈ blanks.toList, isBlank character = true)
    (isVersion : IsComment version) (states : versionMark <+: version.toList)
    (lineEnd : ∀ character ∈ after.toList.head?, character = '\n')
    (inside : 0 < openBrackets before) (program : Program) :
    parse (before ++ "\n" ++ (blanks ++ version ++ after)) ≠ .ok program := by
  intro parsed
  obtain ⟨read, final, scans, ended | ⟨error, stuck⟩⟩ := scans_or_stuck (start before)
  case inr =>
    rw [parse, tokenize_stuck scans stuck] at parsed
    cases parsed
  rw [openBrackets_of_scans scans ended] at inside
  have hidden : final.breakTokens = [] := if_neg (Nat.ne_of_gt inside)
  have special : ((final.below []).skip blanks.toList []).commentTokens version.toList = [_] :=
    commentTokens_of_states rfl states
  have scanned := tokenize_comment scans ended blank isVersion lineEnd
  rw [hidden, special, List.append_nil] at scanned
  obtain ⟨all, last, _, scansAll, endedAll, _, derived, _⟩ := of_parse_ok parsed
  have whole := scanned.symm.trans (scansAll.tokens_ok (tokens_of_end endedAll))
  cases behind : Scanner.tokens ⟨after.toList, _, final.depth, true⟩ with
  | error error =>
    rw [behind] at whole
    cases whole
  | ok tokens =>
    obtain ⟨others, _, _, _, rfl⟩ := of_tokens_ok behind
    rw [behind] at whole
    have same := Except.ok.inj whole
    dsimp only at same
    rw [← List.append_assoc] at same
    obtain ⟨rfl, _⟩ := List.append_inj' same rfl
    -- All tokens are read, and the comment would have to be outside of the brackets.
    obtain ⟨reads, split, _, outside⟩ := derived.balanced
    rw [derived.rest_eq_nil scansAll.unended, List.append_nil] at split
    have level := outside read _ others (split.symm.trans (List.append_assoc ..)) rfl 0
    have depth : final.depth = depthAfterAll 0 read := scans.depth
    omega

end Line

/-- A comment below a line break, with only blanks before it and behind the first token that is no
line break: outside of brackets it says nothing if it states a version, and in brackets there is no
program with it. -/
theorem parse_stray_version {before blanks version comment after : String}
    (past : isPastHeader before = true)
    (blank : ∀ character ∈ blanks.toList, isBlank character = true)
    (replaces : Replaces comment version)
    (lineEnd : ∀ character ∈ after.toList.head?, character = '\n') :
    (openBrackets before = 0 → parse (before ++ "\n" ++ (blanks ++ version ++ after)) =
      parse (before ++ "\n" ++ (blanks ++ comment ++ after))) ∧
    (0 < openBrackets before → ∀ program,
      parse (before ++ "\n" ++ (blanks ++ version ++ after)) ≠ .ok program) :=
  ⟨parse_outside past blank replaces lineEnd,
    parse_inside blank replaces.isVersion replaces.states lineEnd⟩

theorem replaces_versionComment : Replaces "// version 5" "//@version=5" := by
  refine ⟨⟨?_, ?_⟩, ⟨?_, ?_⟩, ?_, ?_, ?_, ?_⟩ <;> decide +kernel

theorem parse_stray_version_below :
    openBrackets "x = close" = 0 ∧
    parse ("x = close" ++ "\n" ++ ("  " ++ "//@version=5" ++ "\nplot(x)")) =
      parse ("x = close" ++ "\n" ++ ("  " ++ "// version 5" ++ "\nplot(x)")) := by
  have outside : openBrackets "x = close" = 0 := by decide +kernel
  have stray := @parse_stray_version "x = close" "  " "//@version=5" "// version 5" "\nplot(x)"
    (by decide +kernel) (by simp [isBlank]) replaces_versionComment (by simp)
  exact ⟨outside, stray.1 outside⟩

/-- In brackets the comments are not alike: the other one is skipped. -/
theorem parse_stray_version_argument :
    ¬ ∀ before blanks version comment after : String, isPastHeader before = true →
      (∀ character ∈ blanks.toList, isBlank character = true) → Replaces comment version →
      (∀ character ∈ after.toList.head?, character = '\n') →
      parse (before ++ "\n" ++ (blanks ++ version ++ after)) =
        parse (before ++ "\n" ++ (blanks ++ comment ++ after)) := by
  intro claimed
  have same := claimed "plot(close," "" "//@version=5" "// version 5" "\n1)" (by decide +kernel)
    (by simp) replaces_versionComment (by simp)
  have read := congrArg Except.isOk same
  revert read
  decide +kernel

end ChartScript
