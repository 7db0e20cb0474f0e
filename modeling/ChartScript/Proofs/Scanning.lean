import ChartScript.Lexer
import ChartScript.Proofs.Outcome
import Mathlib.Data.List.TakeWhile

/-!
# Scanning step by step

`Scanner.Step` is one step of the scanner: it skips a blank, a line break or a comment, or reads
one token. The tokens of a text are those of its steps. A step does not depend on where the text
stands, nor on what follows a line break behind it.
-/

set_option autoImplicit false

namespace ChartScript

/-- An operator, a bracket or a mark between other tokens. -/
def TokenKind.isSign : TokenKind → Bool
  | .number _ | .string _ | .color _ | .boolean _ | .identifier _ => false
  | .ifWord | .elseWord | .andWord | .orWord | .notWord => false
  | .newline | .versionComment _ | .endOfInput => false
  | _ => true

namespace Lexer

theorem append_front {first second text : List Char} (front : first <+: text)
    (behind : second <+: text.drop first.length) : first ++ second <+: text := by
  obtain ⟨rest, rfl⟩ := front
  rw [List.drop_left] at behind
  exact (List.prefix_append_right_inj first).mpr behind

theorem fractionPart_front (characters : List Char) : fractionPart characters <+: characters := by
  unfold fractionPart
  split
  · exact List.cons_prefix_cons.mpr ⟨rfl, List.takeWhile_prefix _⟩
  · exact List.nil_prefix

theorem withSign_front (mark : Char) (sign rest : List Char) :
    exponentPart.withSign mark sign rest <+: mark :: sign ++ rest := by
  unfold exponentPart.withSign
  simp only
  split
  · exact (List.prefix_append_right_inj (mark :: sign)).mpr (List.takeWhile_prefix _)
  · exact List.nil_prefix

theorem exponentPart_front (characters : List Char) : exponentPart characters <+: characters := by
  unfold exponentPart
  split
  · exact withSign_front _ _ _
  · exact withSign_front _ _ _
  · exact withSign_front _ _ _
  · exact List.nil_prefix

theorem numberText_front (characters : List Char) : numberText characters <+: characters := by
  unfold numberText
  simp only
  refine append_front (append_front (List.takeWhile_prefix _) (fractionPart_front _)) ?_
  rw [List.length_append, ← List.drop_drop]
  exact exponentPart_front _

/-- The quote that closes a string stands in the text, whatever follows. -/
theorem closingQuote_append {quote : Char} {characters : List Char} {length : Nat}
    (tail : List Char) (closed : closingQuote quote characters = some length) :
    closingQuote quote (characters ++ tail) = some length ∧ length < characters.length := by
  fun_induction closingQuote quote characters generalizing length with
  | case1 | case3 | case4 | case5 => cases closed
  | case2 rest =>
    cases closed
    rw [List.cons_append, closingQuote.eq_def]
    simp
  | case6 escaped rest notBreak notQuote _ ih =>
    obtain ⟨inner, known, rfl⟩ := Option.map_eq_some_iff.mp closed
    obtain ⟨again, within⟩ := ih known
    rw [List.cons_append, List.cons_append, closingQuote.eq_def]
    simp only [notQuote, notBreak, again, Option.map_some, List.length_cons]
    exact ⟨rfl, by omega⟩
  | case7 character rest notQuote notBreak notEscape ih =>
    obtain ⟨inner, known, rfl⟩ := Option.map_eq_some_iff.mp closed
    obtain ⟨again, within⟩ := ih known
    rw [List.cons_append, closingQuote.eq_def]
    simp only [notQuote, notBreak, notEscape, again, Option.map_some, List.length_cons]
    exact ⟨rfl, by omega⟩

/-- Nor does a line break behind a text close a string in it. -/
theorem closingQuote_newline {quote : Char} (notBreak : quote ≠ '\n')
    (characters tail : List Char) :
    closingQuote quote (characters ++ '\n' :: tail) = closingQuote quote characters := by
  cases closed : closingQuote quote characters with
  | some length => exact (closingQuote_append _ closed).1
  | none =>
    fun_induction closingQuote quote characters with
    | case1 => simp [closingQuote.eq_def, notBreak.symm]
    | case2 => cases closed
    | case3 | case4 | case5 =>
      rw [List.cons_append, closingQuote.eq_def]
      simp_all
    | case6 escaped rest notBreak notQuote _ ih =>
      have again := ih (Option.map_eq_none_iff.mp closed)
      rw [List.cons_append, List.cons_append, closingQuote.eq_def]
      simp_all
    | case7 character rest _ _ _ ih =>
      have again := ih (Option.map_eq_none_iff.mp closed)
      rw [List.cons_append, closingQuote.eq_def]
      simp_all

theorem withEquals_le {paired single kind : TokenKind} {rest : List Char} {further : Nat}
    (read : (.ok (withEquals paired single rest) : Except LexicalCause (TokenKind × Nat)) =
      .ok (kind, further)) : further ≤ rest.length := by
  unfold withEquals at read
  split at read <;> cases read
  · exact Nat.succ_le_succ (Nat.zero_le _)
  · exact Nat.zero_le _

/-- What a lexeme can be. -/
inductive IsLexeme (first : Char) (rest : List Char) : TokenKind → Prop
  | string (raw : String) : IsLexeme first rest (.string raw)
  | color (value : Color) : IsLexeme first rest (.color value)
  | number {value : Float} (digit : first.isDigit = true)
      (read : Numeral.readFloat? (numberText (first :: rest)) = some value) :
      IsLexeme first rest (.number value)
  | word (noDigit : first.isDigit = false) (starts : startsName first = true) :
      IsLexeme first rest (.ofWord (String.ofList (first :: rest.takeWhile continuesName)))
  | sign {kind : TokenKind} (isSign : kind.isSign = true) : IsLexeme first rest kind

theorem withEquals_isSign {paired single kind : TokenKind} {rest : List Char}
    {further : Nat} (isPaired : paired.isSign = true) (isSingle : single.isSign = true)
    (read : (.ok (withEquals paired single rest) : Except LexicalCause (TokenKind × Nat)) =
      .ok (kind, further)) : kind.isSign = true := by
  unfold withEquals at read
  split at read <;> cases read <;> assumption

theorem lexeme_cases {first : Char} {rest : List Char} {kind : TokenKind} {further : Nat}
    (read : lexeme first rest = .ok (kind, further)) : IsLexeme first rest kind := by
  unfold lexeme at read
  simp only at read
  split at read
  · split at read <;> cases read
    exact .string _
  split at read
  · split at read <;> cases read
    exact .color _
  split at read
  case isTrue digit =>
    split at read
    case h_1 known =>
      cases read
      exact .number digit known
    case h_2 => cases read
  case isFalse noDigit =>
    split at read
    case isTrue starts =>
      cases read
      exact .word (Bool.eq_false_iff.mpr noDigit) starts
    case isFalse =>
      refine .sign ?_
      split at read
      case h_17 =>
        split at read <;> cases read
        rfl
      case h_13 | h_14 | h_15 | h_16 => exact withEquals_isSign rfl rfl read
      all_goals
        cases read
        try rfl

/-! ## Lexemes before something else -/

/-- No lexeme goes on with the first character of a text, except a string. -/
def Separates (tail : List Char) : Prop :=
  ∀ character ∈ tail.head?, continuesName character = false ∧ character ≠ '.' ∧
    character ≠ '+' ∧ character ≠ '-' ∧ character ≠ '='

theorem separates_newline (tail : List Char) : Separates ('\n' :: tail) := by
  rintro _ ⟨⟩
  decide

theorem continuesName_of_isAlpha {character : Char} (alpha : character.isAlpha = true) :
    continuesName character = true := by
  have small : character.toNat < 0x80 := by
    rcases Bool.or_eq_true_iff.mp alpha with upper | lower
    · have last : character.val ≤ 'Z'.val := (of_decide_eq_true upper).2
      exact Nat.lt_of_le_of_lt (UInt32.le_iff_toNat_le.mp last) (by decide)
    · have last : character.val ≤ 'z'.val := of_decide_eq_true (Bool.and_eq_true_iff.mp lower).2
      exact Nat.lt_of_le_of_lt (UInt32.le_iff_toNat_le.mp last) (by decide)
  simp only [continuesName, Text.isLetter, if_pos small, alpha, Bool.true_or]

theorem continuesName_of_isDigit {character : Char} (digit : character.isDigit = true) :
    continuesName character = true := by
  have small : character.toNat < 0x80 := by
    have last : character.val ≤ '9'.val := of_decide_eq_true (Bool.and_eq_true_iff.mp digit).2
    exact Nat.lt_of_le_of_lt (UInt32.le_iff_toNat_le.mp last) (by decide)
  simp only [continuesName, Text.isNumeral, if_pos small, digit, Bool.true_or, Bool.or_true]

theorem continuesName_of_isAlphanum {character : Char}
    (alphanum : character.isAlphanum = true) : continuesName character = true := by
  rcases Bool.or_eq_true_iff.mp alphanum with alpha | digit
  · exact continuesName_of_isAlpha alpha
  · exact continuesName_of_isDigit digit

section Separates

variable {tail : List Char} (separates : Separates tail)

include separates

theorem Separates.stops {accepts : Char → Bool}
    (continues : ∀ character, accepts character = true → continuesName character = true) :
    tail.takeWhile accepts = [] := by
  cases tail with
  | nil => rfl
  | cons character rest =>
    refine List.takeWhile_cons_of_neg fun accepted => ?_
    have refused := (separates character rfl).1
    rw [continues character accepted] at refused
    cases refused

theorem Separates.takeWhile_append {accepts : Char → Bool} (characters : List Char)
    (continues : ∀ character, accepts character = true → continuesName character = true) :
    (characters ++ tail).takeWhile accepts = characters.takeWhile accepts := by
  rw [List.takeWhile_append, separates.stops continues, List.append_nil]
  split
  case isTrue all => exact ((List.takeWhile_prefix accepts).eq_of_length all).symm
  case isFalse => rfl

theorem fractionPart_append (characters : List Char) :
    fractionPart (characters ++ tail) = fractionPart characters := by
  rcases characters with _ | ⟨first, rest⟩
  · rcases tail with _ | ⟨character, rest⟩
    · rfl
    · have noPoint := (separates character rfl).2.1
      simp [fractionPart, noPoint]
  · by_cases point : first = '.'
    · subst point
      simp only [fractionPart, List.cons_append,
        separates.takeWhile_append rest (fun _ => continuesName_of_isDigit)]
    · simp [fractionPart, point]

theorem withSign_append (mark : Char) (sign rest : List Char) :
    exponentPart.withSign mark sign (rest ++ tail) = exponentPart.withSign mark sign rest := by
  simp only [exponentPart.withSign,
    separates.takeWhile_append rest (fun _ => continuesName_of_isDigit)]

theorem exponentPart_append (characters : List Char) :
    exponentPart (characters ++ tail) = exponentPart characters := by
  have withoutDigits (mark : Char) : exponentPart.withSign mark [] tail = [] := by
    simp [exponentPart.withSign, separates.stops fun _ => continuesName_of_isDigit]
  rcases characters with _ | ⟨mark, _ | ⟨sign, rest⟩⟩
  · rcases tail with _ | ⟨character, rest⟩
    · rfl
    · -- The text would have to start with the mark of an exponent.
      have noMark := (separates character rfl).1
      have small : character ≠ 'e' := by
        rintro rfl
        cases noMark
      have capital : character ≠ 'E' := by
        rintro rfl
        cases noMark
      simp only [List.nil_append, exponentPart]
      split <;> cases ‹character :: rest = _› <;>
        simp [exponentPart.withSign, small, capital]
  · have alone : exponentPart [mark] = [] := by
      simp [exponentPart, exponentPart.withSign]
    rw [alone, List.cons_append, List.nil_append]
    rcases tail with _ | ⟨character, rest⟩
    · exact alone
    · obtain ⟨_, _, noPlus, noMinus, _⟩ := separates character rfl
      have unsigned : exponentPart (mark :: character :: rest) =
          exponentPart.withSign mark [] (character :: rest) := by
        simp [exponentPart, noPlus, noMinus]
      rw [unsigned, withoutDigits]
  · by_cases plus : sign = '+'
    · subst plus
      exact withSign_append separates mark ['+'] rest
    · by_cases minus : sign = '-'
      · subst minus
        exact withSign_append separates mark ['-'] rest
      · have unsigned (others : List Char) : exponentPart (mark :: sign :: others) =
            exponentPart.withSign mark [] (sign :: others) := by
          simp [exponentPart, plus, minus]
        rw [List.cons_append, List.cons_append, unsigned, unsigned]
        exact withSign_append separates mark [] (sign :: rest)

theorem numberText_append (characters : List Char) :
    numberText (characters ++ tail) = numberText characters := by
  have whole := separates.takeWhile_append characters fun _ => continuesName_of_isDigit
  have wholeFits := (List.takeWhile_sublist (l := characters) Char.isDigit).length_le
  simp only [numberText, whole, List.drop_append_of_le_length wholeFits,
    fractionPart_append separates]
  rw [List.drop_append_of_le_length (fractionPart_front _).length_le,
    exponentPart_append separates]

theorem withEquals_append (paired single : TokenKind) (rest : List Char) :
    withEquals paired single (rest ++ tail) = withEquals paired single rest := by
  rcases rest with _ | ⟨first, others⟩
  · rcases tail with _ | ⟨character, others⟩
    · rfl
    · have noEquals := (separates character rfl).2.2.2.2
      simp [withEquals, noEquals]
  · by_cases equals : first = '='
    · subst equals
      rfl
    · simp [withEquals, equals]

/-- A lexeme is the same whatever separate text follows. -/
theorem lexeme_append {first : Char} {rest : List Char} {kind : TokenKind} {further : Nat}
    (read : lexeme first rest = .ok (kind, further)) :
    lexeme first (rest ++ tail) = .ok (kind, further) ∧ further ≤ rest.length := by
  unfold lexeme at read ⊢
  split at read
  case isTrue quote =>
    rw [if_pos quote]
    split at read
    case h_1 length closed =>
      cases read
      obtain ⟨again, within⟩ := closingQuote_append tail closed
      rw [again]
      simp only [List.take_append_of_le_length (Nat.le_of_lt within)]
      exact ⟨trivial, within⟩
    case h_2 => cases read
  case isFalse notQuote =>
    rw [if_neg notQuote]
    split at read
    case isTrue color =>
      rw [if_pos color]
      simp only at read ⊢
      rw [separates.takeWhile_append rest fun _ => continuesName_of_isAlphanum]
      refine ⟨read, ?_⟩
      split at read <;> cases read
      exact (List.takeWhile_sublist _).length_le
    case isFalse notColor =>
      rw [if_neg notColor]
      split at read
      case isTrue digit =>
        rw [if_pos digit]
        simp only at read ⊢
        rw [← List.cons_append, numberText_append separates]
        refine ⟨read, ?_⟩
        have within := (numberText_front (first :: rest)).length_le
        split at read <;> cases read
        rw [List.length_cons] at within
        omega
      case isFalse notDigit =>
        rw [if_neg notDigit]
        split at read
        case isTrue letter =>
          rw [if_pos letter]
          simp only at read ⊢
          rw [separates.takeWhile_append rest fun _ => id]
          refine ⟨read, ?_⟩
          cases read
          exact (List.takeWhile_sublist _).length_le
        case isFalse notLetter =>
          rw [if_neg notLetter]
          split at read
          case h_17 =>
            split at read <;> cases read
            exact ⟨rfl, by simp⟩
          case h_18 => cases read
          case h_13 | h_14 | h_15 | h_16 =>
            rw [withEquals_append separates]
            refine ⟨read, ?_⟩
            exact withEquals_le read
          all_goals
            cases read
            exact ⟨rfl, Nat.zero_le _⟩

end Separates

/-- A lexeme before a line break ends before it, or there is none. -/
theorem lexeme_newline (first : Char) (rest tail : List Char) :
    lexeme first (rest ++ '\n' :: tail) = lexeme first rest := by
  have separates := separates_newline tail
  unfold lexeme
  simp only [separates.takeWhile_append rest fun _ => continuesName_of_isAlphanum,
    separates.takeWhile_append rest fun _ => id, ← List.cons_append, numberText_append separates,
    withEquals_append separates]
  split
  case isTrue quote =>
    have notBreak : first ≠ '\n' := by
      rintro rfl
      cases quote
    rw [closingQuote_newline notBreak]
    cases closed : closingQuote first rest with
    | none => rfl
    | some length =>
      have within := (closingQuote_append [] closed).2
      simp only [List.take_append_of_le_length (Nat.le_of_lt within)]
  case isFalse =>
    rcases rest with _ | ⟨next, rest⟩
    · rfl
    · by_cases equals : next = '='
      · subst equals
        rfl
      · simp [equals]

/-- So a lexeme does not go on over a line break. -/
theorem lexeme_noBreak {first : Char} {rest : List Char} {kind : TokenKind} {further : Nat}
    (read : lexeme first rest = .ok (kind, further)) : '\n' ∉ rest.take further := by
  intro member
  obtain ⟨before, after, split⟩ := List.append_of_mem member
  have whole : rest = before ++ '\n' :: (after ++ rest.drop further) := by
    rw [← List.cons_append, ← List.append_assoc, ← split, List.take_append_drop]
  rw [whole, lexeme_newline] at read
  have within := (lexeme_append (separates_newline []) read).2
  have length := congrArg List.length split
  rw [List.length_append, List.length_cons, List.length_take] at length
  omega

/-! ## Steps -/

namespace Scanner

/-- A comment starts here. -/
def opensComment (first : Char) (rest : List Char) : Prop :=
  first = '/' ∧ rest.head? = some '/'

/-- The comment that starts here, without the line break behind it. -/
def commentText (rest : List Char) : List Char :=
  '/' :: rest.takeWhile (· ≠ '\n')

def afterComment (scanner : Scanner) (rest : List Char) : Scanner :=
  scanner.skip (commentText rest) (rest.dropWhile (· ≠ '\n'))

def afterNewline (scanner : Scanner) (rest : List Char) : Scanner :=
  { scanner.skip ['\n'] rest with atLineStart := true }

def afterLexeme (scanner : Scanner) (kind : TokenKind) (first : Char) (rest : List Char)
    (further : Nat) : Scanner :=
  { scanner.skip (first :: rest.take further) (rest.drop further) with
    depth := depthAfter scanner.depth kind, atLineStart := false }

/-- The comment states a version and stands alone on its line. -/
def statesVersion (scanner : Scanner) (rest : List Char) : Bool :=
  scanner.atLineStart && versionMark.isPrefixOf (commentText rest)

inductive Step : Scanner → List Token → Scanner → Prop
  | blank {scanner : Scanner} {first : Char} {rest : List Char}
      (stands : scanner.rest = first :: rest) (isBlank : Lexer.isBlank first = true) :
      Step scanner [] (scanner.skip [first] rest)
  | hiddenBreak {scanner : Scanner} {rest : List Char} (stands : scanner.rest = '\n' :: rest)
      (inside : 0 < scanner.depth) : Step scanner [] (scanner.afterNewline rest)
  | newline {scanner : Scanner} {rest : List Char} (stands : scanner.rest = '\n' :: rest)
      (outside : scanner.depth = 0) :
      Step scanner [scanner.token .newline ['\n']] (scanner.afterNewline rest)
  | comment {scanner : Scanner} {rest : List Char} (stands : scanner.rest = '/' :: rest)
      (opened : rest.head? = some '/') (ordinary : scanner.statesVersion rest = false) :
      Step scanner [] (scanner.afterComment rest)
  | version {scanner : Scanner} {rest : List Char} (stands : scanner.rest = '/' :: rest)
      (opened : rest.head? = some '/') (special : scanner.statesVersion rest = true) :
      Step scanner
        [scanner.token (.versionComment (String.ofList (commentText rest))) (commentText rest)]
        (scanner.afterComment rest)
  | lexeme {scanner : Scanner} {first : Char} {rest : List Char} {kind : TokenKind}
      {further : Nat} (stands : scanner.rest = first :: rest)
      (notBlank : Lexer.isBlank first = false) (notBreak : first ≠ '\n')
      (notComment : ¬opensComment first rest)
      (read : Lexer.lexeme first rest = .ok (kind, further)) :
      Step scanner [scanner.token kind (first :: rest.take further)]
        (scanner.afterLexeme kind first rest further)

/-- What a number of steps reads. -/
inductive Scans : Scanner → List Token → Scanner → Prop
  | done (scanner : Scanner) : Scans scanner [] scanner
  | step {scanner next final : Scanner} {read others : List Token}
      (first : Step scanner read next) (rest : Scans next others final) :
      Scans scanner (read ++ others) final

theorem Step.scans {scanner next : Scanner} {read : List Token} (step : Step scanner read next) :
    Scans scanner read next := by
  have single := Scans.step step (.done next)
  rwa [List.append_nil] at single

theorem Scans.trans {scanner middle final : Scanner} {read others : List Token}
    (first : Scans scanner read middle) (rest : Scans middle others final) :
    Scans scanner (read ++ others) final := by
  induction first with
  | done => exact rest
  | step first _ ih =>
    rw [List.append_assoc]
    exact .step first (ih rest)

theorem map_nil_append {result : Except LexicalError (List Token)} :
    ([] ++ ·) <$> result = result := by
  cases result <;> rfl

/-- A step reads its tokens, and the others are those behind it. -/
theorem Step.tokens {scanner next : Scanner} {read : List Token} (step : Step scanner read next) :
    scanner.tokens = (read ++ ·) <$> next.tokens := by
  obtain ⟨text, place, depth, atLineStart⟩ := scanner
  cases step with
  | blank stands isBlank =>
    cases stands
    rw [Scanner.tokens, if_pos isBlank, map_nil_append]
  | hiddenBreak stands inside =>
    cases stands
    rw [Scanner.tokens, if_neg (by decide), if_pos rfl, if_pos inside, map_nil_append]
    rfl
  | newline stands outside =>
    cases stands
    cases outside
    rw [Scanner.tokens, if_neg (by decide), if_pos rfl, if_neg (Nat.lt_irrefl 0)]
    rfl
  | @comment rest stands opened ordinary =>
    cases stands
    rw [Scanner.tokens, if_neg (by decide), if_neg (by decide), if_pos (by simp [opened]),
      map_nil_append]
    exact if_neg (Bool.not_eq_true _ ▸ ordinary)
  | @version rest stands opened special =>
    cases stands
    rw [Scanner.tokens, if_neg (by decide), if_neg (by decide), if_pos (by simp [opened])]
    exact if_pos special
  | @lexeme first rest kind further stands notBlank notBreak notComment read =>
    cases stands
    rw [Scanner.tokens, if_neg (by simp [notBlank]), if_neg notBreak,
      if_neg (by simpa [opensComment] using notComment)]
    simp only [read]
    rfl

theorem Step.length_lt {scanner next : Scanner} {read : List Token}
    (step : Step scanner read next) : next.rest.length < scanner.rest.length := by
  cases step with
  | blank stands _ | hiddenBreak stands _ | newline stands _ =>
    rw [stands]
    exact Nat.lt_succ_self _
  | comment stands _ _ | version stands _ _ =>
    rw [stands]
    exact Nat.lt_succ_of_le (List.dropWhile_sublist _).length_le
  | lexeme stands _ _ _ _ =>
    rw [stands]
    exact Nat.lt_succ_of_le (List.drop_sublist _ _).length_le

/-- No token starts here. -/
inductive Stuck (scanner : Scanner) : LexicalError → Prop
  | lexeme {first : Char} {rest : List Char} {cause : LexicalCause}
      (stands : scanner.rest = first :: rest) (notBlank : Lexer.isBlank first = false)
      (notBreak : first ≠ '\n') (notComment : ¬opensComment first rest)
      (failed : Lexer.lexeme first rest = .error cause) :
      Stuck scanner ⟨cause, scanner.place.line, scanner.place.column⟩

theorem Stuck.tokens {scanner : Scanner} {error : LexicalError} (stuck : scanner.Stuck error) :
    scanner.tokens = .error error := by
  obtain ⟨text, place, depth, atLineStart⟩ := scanner
  cases stuck with
  | lexeme stands notBlank notBreak notComment failed =>
    cases stands
    rw [Scanner.tokens, if_neg (by simp [notBlank]), if_neg notBreak,
      if_neg (by simpa [opensComment] using notComment)]
    simp only [failed]

/-- Where text is left, the scanner makes a step, or no token starts there. -/
theorem step_or_stuck (scanner : Scanner) : scanner.rest = [] ∨
    (∃ read next, Step scanner read next) ∨ ∃ error, scanner.Stuck error := by
  obtain ⟨_ | ⟨first, rest⟩, place, depth, atLineStart⟩ := scanner
  · exact .inl rfl
  right
  cases blank : isBlank first with
  | true => exact .inl ⟨_, _, .blank rfl blank⟩
  | false =>
    by_cases isBreak : first = '\n'
    · subst isBreak
      rcases Nat.eq_zero_or_pos depth with outside | inside
      · exact .inl ⟨_, _, .newline rfl outside⟩
      · exact .inl ⟨_, _, .hiddenBreak rfl inside⟩
    by_cases opened : opensComment first rest
    · obtain ⟨rfl, opened⟩ := opened
      cases special : statesVersion ⟨'/' :: rest, place, depth, atLineStart⟩ rest with
      | true => exact .inl ⟨_, _, .version rfl opened special⟩
      | false => exact .inl ⟨_, _, .comment rfl opened special⟩
    · cases read : lexeme first rest with
      | ok found => exact .inl ⟨_, _, .lexeme rfl blank isBreak opened read⟩
      | error cause => exact .inr ⟨_, .lexeme rfl blank isBreak opened read⟩

/-- The scanner gets to the end of the text, or to where no token starts. -/
theorem scans_or_stuck (scanner : Scanner) : ∃ read final, Scans scanner read final ∧
    (final.rest = [] ∨ ∃ error, final.Stuck error) := by
  rcases step_or_stuck scanner with ended | ⟨read, next, step⟩ | stuck
  · exact ⟨[], scanner, .done scanner, .inl ended⟩
  · have := step.length_lt
    obtain ⟨others, final, scans, last⟩ := scans_or_stuck next
    exact ⟨read ++ others, final, .step step scans, last⟩
  · exact ⟨[], scanner, .done scanner, .inr stuck⟩
termination_by scanner.rest.length

theorem Scans.tokens {scanner final : Scanner} {read : List Token}
    (scans : Scans scanner read final) : scanner.tokens = (read ++ ·) <$> final.tokens := by
  induction scans with
  | done => exact map_nil_append.symm
  | @step scanner next final read others first _ ih =>
    rw [first.tokens, ih]
    cases final.tokens with
    | error error => rfl
    | ok behind => exact congrArg Except.ok (List.append_assoc read others behind).symm

theorem Scans.tokens_ok {scanner final : Scanner} {read others : List Token}
    (scans : Scans scanner read final) (found : final.tokens = .ok others) :
    scanner.tokens = .ok (read ++ others) := by
  rw [scans.tokens, found]
  rfl

theorem tokens_of_end {scanner : Scanner} (ended : scanner.rest = []) :
    scanner.tokens = .ok [scanner.token .endOfInput []] := by
  obtain ⟨text, place, depth, atLineStart⟩ := scanner
  cases ended
  rw [Scanner.tokens]

/-- All tokens of a text are read by steps, but the end of input. -/
theorem of_tokens_ok {scanner : Scanner} {tokens : List Token}
    (found : scanner.tokens = .ok tokens) :
    ∃ read final, Scans scanner read final ∧ final.rest = [] ∧
      tokens = read ++ [final.token .endOfInput []] := by
  obtain ⟨read, final, scans, ended | ⟨error, stuck⟩⟩ := scans_or_stuck scanner
  · rw [scans.tokens, tokens_of_end ended] at found
    exact ⟨read, final, scans, ended, (Except.ok.inj found).symm⟩
  · rw [scans.tokens, stuck.tokens] at found
    cases found

/-! ## Other text behind -/

/-- The scanner of the same text with more behind it. -/
def extend (scanner : Scanner) (tail : List Char) : Scanner :=
  { scanner with rest := scanner.rest ++ tail }

theorem rest_extend {scanner : Scanner} {first : Char} {rest : List Char} (tail : List Char)
    (stands : scanner.rest = first :: rest) :
    (scanner.extend tail).rest = first :: (rest ++ tail) := by
  rw [extend, stands]
  rfl

theorem commentText_append_rest (rest : List Char) :
    commentText rest ++ rest.dropWhile (· ≠ '\n') = '/' :: rest :=
  congrArg ('/' :: ·) List.takeWhile_append_dropWhile

theorem commentText_append (rest tail : List Char) :
    commentText (rest ++ '\n' :: tail) = commentText rest := by
  rw [commentText, List.takeWhile_append, List.takeWhile_cons_of_neg (by simp), List.append_nil]
  split
  case isTrue all => rw [commentText, (List.takeWhile_prefix _).eq_of_length all]
  case isFalse => rfl

theorem dropWhile_append_newline (rest tail : List Char) :
    (rest ++ '\n' :: tail).dropWhile (· ≠ '\n') = rest.dropWhile (· ≠ '\n') ++ '\n' :: tail := by
  rw [List.dropWhile_append, List.dropWhile_cons_of_neg (by simp)]
  split
  case isTrue none => rw [List.isEmpty_iff.mp none, List.nil_append]
  case isFalse => rfl

theorem head?_append_of_some {character : Char} {rest tail : List Char}
    (first : rest.head? = some character) : (rest ++ tail).head? = some character := by
  rw [List.head?_append, first, Option.some_or]

theorem unopened_append {first : Char} {rest tail : List Char}
    (unopened : ¬opensComment first rest) : ¬opensComment first (rest ++ '\n' :: tail) := by
  rintro ⟨slash, opened⟩
  cases rest with
  | nil => cases opened
  | cons => exact unopened ⟨slash, opened⟩

/-- A line break behind a text changes none of its steps. -/
theorem Step.extend {scanner next : Scanner} {read : List Token} (step : Step scanner read next)
    (tail : List Char) :
    Step (scanner.extend ('\n' :: tail)) read (next.extend ('\n' :: tail)) := by
  have separates := separates_newline tail
  cases step with
  | blank stands isBlank => exact .blank (rest_extend _ stands) isBlank
  | hiddenBreak stands inside => exact .hiddenBreak (rest_extend _ stands) inside
  | newline stands outside => exact .newline (rest_extend _ stands) outside
  | @comment rest stands opened ordinary =>
    have step := Step.comment (rest_extend ('\n' :: tail) stands) (head?_append_of_some opened)
      (by rw [statesVersion, commentText_append]; exact ordinary)
    rw [afterComment, commentText_append, dropWhile_append_newline] at step
    exact step
  | @version rest stands opened special =>
    have step := Step.version (rest_extend ('\n' :: tail) stands) (head?_append_of_some opened)
      (by rw [statesVersion, commentText_append]; exact special)
    rw [afterComment, commentText_append, dropWhile_append_newline] at step
    exact step
  | @lexeme first rest kind further stands notBlank notBreak notComment read =>
    obtain ⟨again, within⟩ := lexeme_append separates read
    have step := Step.lexeme (rest_extend _ stands) notBlank notBreak (unopened_append notComment)
      again
    rw [afterLexeme, skip, List.take_append_of_le_length within,
      List.drop_append_of_le_length within] at step
    exact step

theorem Stuck.extend {scanner : Scanner} {error : LexicalError} (stuck : scanner.Stuck error)
    (tail : List Char) : (scanner.extend ('\n' :: tail)).Stuck error := by
  cases stuck with
  | lexeme stands notBlank notBreak notComment failed =>
    exact .lexeme (rest_extend _ stands) notBlank notBreak (unopened_append notComment)
      ((lexeme_newline ..).trans failed)

theorem Scans.extend {scanner final : Scanner} {read : List Token}
    (scans : Scans scanner read final) (tail : List Char) :
    Scans (scanner.extend ('\n' :: tail)) read (final.extend ('\n' :: tail)) := by
  induction scans with
  | done => exact .done _
  | step first _ ih => exact .step (first.extend tail) ih

end Scanner

end Lexer

/-- The place some bytes and lines farther on, in the same column. -/
def Place.moved (bytes lines : Nat) (place : Place) : Place :=
  ⟨place.offset + bytes, place.line + lines, place.column⟩

def Span.moved (bytes lines : Nat) (span : Span) : Span :=
  ⟨span.start + bytes, span.stop + bytes, span.line + lines, span.column⟩

def Token.moved (bytes lines : Nat) (token : Token) : Token :=
  { token with span := token.span.moved bytes lines }

section Moved

variable (bytes lines : Nat)

theorem Place.after_moved (place : Place) (character : Char) :
    (place.moved bytes lines).after character = (place.after character).moved bytes lines := by
  unfold Place.after
  split <;> simp only [Place.moved, Place.mk.injEq, and_true] <;> omega

theorem Place.afterAll_moved (place : Place) (characters : List Char) :
    (place.moved bytes lines).afterAll characters =
      (place.afterAll characters).moved bytes lines := by
  induction characters generalizing place with
  | nil => rfl
  | cons character rest ih =>
    show Place.afterAll ((place.moved bytes lines).after character) rest = _
    rw [Place.after_moved]
    exact ih _

namespace Lexer.Scanner

def moved (scanner : Scanner) : Scanner :=
  { scanner with place := scanner.place.moved bytes lines }

theorem skip_moved (scanner : Scanner) (characters rest : List Char) :
    (scanner.moved bytes lines).skip characters rest =
      (scanner.skip characters rest).moved bytes lines := by
  simp only [skip, moved, Place.afterAll_moved]

theorem token_moved (scanner : Scanner) (kind : TokenKind) (characters : List Char) :
    (scanner.moved bytes lines).token kind characters =
      (scanner.token kind characters).moved bytes lines := by
  unfold token moved
  rw [Place.afterAll_moved]
  rfl

theorem afterNewline_moved (scanner : Scanner) (rest : List Char) :
    (scanner.moved bytes lines).afterNewline rest =
      (scanner.afterNewline rest).moved bytes lines := by
  rw [afterNewline, skip_moved]
  rfl

theorem afterLexeme_moved (scanner : Scanner) (kind : TokenKind) (first : Char)
    (rest : List Char) (further : Nat) :
    (scanner.moved bytes lines).afterLexeme kind first rest further =
      (scanner.afterLexeme kind first rest further).moved bytes lines := by
  rw [afterLexeme, skip_moved]
  rfl

/-- A text elsewhere is read by the same steps. -/
theorem Step.moved {scanner next : Scanner} {read : List Token} (step : Step scanner read next) :
    Step (scanner.moved bytes lines) (read.map (Token.moved bytes lines))
      (next.moved bytes lines) := by
  cases step with
  | @blank first rest stands isBlank =>
    rw [← skip_moved]
    exact .blank stands isBlank
  | @hiddenBreak rest stands inside =>
    rw [← afterNewline_moved]
    exact .hiddenBreak stands inside
  | @newline rest stands outside =>
    rw [← afterNewline_moved, List.map_singleton, ← token_moved]
    exact .newline stands outside
  | @comment rest stands opened ordinary =>
    rw [afterComment, ← skip_moved]
    exact .comment stands opened ordinary
  | @version rest stands opened special =>
    rw [afterComment, ← skip_moved, List.map_singleton, ← token_moved]
    exact .version stands opened special
  | @lexeme first rest kind further stands notBlank notBreak notComment read =>
    rw [← afterLexeme_moved, List.map_singleton, ← token_moved]
    exact .lexeme stands notBlank notBreak notComment read

theorem Scans.moved {scanner final : Scanner} {read : List Token}
    (scans : Scans scanner read final) :
    Scans (scanner.moved bytes lines) (read.map (Token.moved bytes lines))
      (final.moved bytes lines) := by
  induction scans with
  | done => exact .done _
  | step first _ ih =>
    rw [List.map_append]
    exact .step (first.moved bytes lines) ih

end Lexer.Scanner

end Moved

namespace Lexer

/-- How many brackets are open after some tokens. -/
def depthAfterAll (depth : Nat) (tokens : List Token) : Nat :=
  tokens.foldl (fun depth token => depthAfter depth token.kind) depth

theorem depthAfterAll_append (depth : Nat) (first second : List Token) :
    depthAfterAll depth (first ++ second) = depthAfterAll (depthAfterAll depth first) second :=
  List.foldl_append

theorem ofWord_ne_endOfInput (word : String) : TokenKind.ofWord word ≠ .endOfInput := by
  unfold TokenKind.ofWord
  split <;> nofun

theorem lexeme_ne_newline {first : Char} {rest : List Char} {kind : TokenKind} {further : Nat}
    (read : lexeme first rest = .ok (kind, further)) : kind ≠ .newline := by
  cases lexeme_cases read with
  | string | color | number => nofun
  | word =>
    unfold TokenKind.ofWord
    split <;> nofun
  | sign isSign =>
    rintro rfl
    cases isSign

theorem lexeme_ne_endOfInput {first : Char} {rest : List Char} {kind : TokenKind} {further : Nat}
    (read : lexeme first rest = .ok (kind, further)) : kind ≠ .endOfInput := by
  cases lexeme_cases read with
  | string | color | number => nofun
  | word => exact ofWord_ne_endOfInput _
  | sign isSign =>
    rintro rfl
    cases isSign

namespace Scanner

theorem Scans.unended {scanner final : Scanner} {read : List Token}
    (scans : Scans scanner read final) : ∀ token ∈ read, token.kind ≠ .endOfInput := by
  induction scans with
  | done => exact nofun
  | step first _ ih =>
    intro token member
    rcases List.mem_append.mp member with here | there
    · cases first with
      | blank | hiddenBreak | comment => cases here
      | newline | version =>
        cases List.mem_singleton.mp here
        exact nofun
      | lexeme _ _ _ _ read =>
        cases List.mem_singleton.mp here
        exact lexeme_ne_endOfInput read
    · exact ih token there

theorem Scans.depth {scanner final : Scanner} {read : List Token}
    (scans : Scans scanner read final) : final.depth = depthAfterAll scanner.depth read := by
  induction scans with
  | done => rfl
  | step first _ ih =>
    rw [ih, depthAfterAll_append]
    congr 1
    cases first <;> rfl

end Scanner

end Lexer

end ChartScript
