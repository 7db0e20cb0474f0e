import ChartScript.Proofs.DisplayTokens
import ChartScript.Proofs.NodePlaces

/-!
# Literals that are scanned are read

Every numeral that the scanner takes has digits first, and a point and an exponent only in the form
in which the reader of numbers knows them, so none is refused. What it takes as the contents of a
string is made of characters that stand for themselves and of pairs of a backslash and another
character (`FitsQuotes`). From this every quote in it is escaped, and reading its escapes never
comes to a backslash that nothing follows.
-/

set_option autoImplicit false

namespace ChartScript

open Numeral (IsPlain splitSign splitDigits readExponent? readUnsigned? readFloat?)

namespace Lexer

/-- The mark of an exponent, a sign or none, and digits; or nothing. -/
inductive IsExponent : List Char → Prop
  | none : IsExponent []
  | digits {mark : Char} {sign digits : List Char} (isMark : mark = 'e' ∨ mark = 'E')
      (isSign : sign ∈ [[], ['+'], ['-']]) (nonempty : digits ≠ [])
      (areDigits : ∀ digit ∈ digits, digit.isDigit = true) :
      IsExponent (mark :: sign ++ digits)

/-- Digits, then a point with digits or without any behind it or no point, then an exponent. -/
inductive IsNumeral : List Char → Prop
  | parts {whole fraction exponent : List Char} (plain : IsPlain whole fraction)
      (isExponent : IsExponent exponent) : IsNumeral (whole ++ fraction ++ exponent)

theorem withSign_isExponent (mark : Char) (sign rest : List Char)
    (isSign : sign ∈ [[], ['+'], ['-']]) :
    IsExponent (exponentPart.withSign mark sign rest) := by
  unfold exponentPart.withSign
  simp only
  split
  case isTrue marked =>
    simp only [Bool.and_eq_true, Bool.or_eq_true, decide_eq_true_eq, Bool.not_eq_true',
      List.isEmpty_eq_false_iff] at marked
    exact .digits marked.1 isSign marked.2 fun _ member => List.mem_takeWhile_imp member
  case isFalse => exact .none

theorem exponentPart_isExponent (characters : List Char) :
    IsExponent (exponentPart characters) := by
  unfold exponentPart
  split
  · exact withSign_isExponent _ _ _ (by decide)
  · exact withSign_isExponent _ _ _ (by decide)
  · exact withSign_isExponent _ _ _ (by decide)
  · exact .none

theorem numberText_isNumeral {first : Char} (rest : List Char) (digit : first.isDigit = true) :
    IsNumeral (numberText (first :: rest)) := by
  refine .parts ⟨?_, ?_, ?_, ?_⟩ (exponentPart_isExponent _)
  · rw [List.takeWhile_cons_of_pos digit]
    exact List.cons_ne_nil _ _
  · exact fun _ member => List.mem_takeWhile_imp member
  all_goals
    unfold fractionPart
    split
  · exact fun _ member => List.mem_takeWhile_imp member
  · exact nofun
  · rintro _ ⟨⟩
    rfl
  · exact nofun

end Lexer

namespace Numeral

open Lexer (IsExponent IsNumeral)

theorem splitSign_of_digit {first : Char} (rest : List Char) (digit : first.isDigit = true) :
    splitSign (first :: rest) = (false, first :: rest) := by
  unfold splitSign
  split
  case h_1 same | h_2 same =>
    cases same
    cases digit
  case h_3 => rfl

/-- The digits at the front end before a character that is none. -/
theorem splitDigits_append {digits tail : List Char}
    (areDigits : ∀ digit ∈ digits, digit.isDigit = true)
    (stops : ∀ next ∈ tail.head?, next.isDigit = false) :
    splitDigits (digits ++ tail) = (digits, tail) := by
  unfold splitDigits
  rw [List.takeWhile_append_of_pos areDigits, List.dropWhile_append_of_pos areDigits]
  cases tail with
  | nil => rw [List.takeWhile_nil, List.dropWhile_nil, List.append_nil]
  | cons next rest =>
    have isOther := Bool.eq_false_iff.mp (stops next rfl)
    rw [List.takeWhile_cons_of_neg isOther, List.dropWhile_cons_of_neg isOther, List.append_nil]

theorem readExponent?_isSome {exponent : List Char} (isExponent : IsExponent exponent) :
    (readExponent? exponent).isSome = true := by
  cases isExponent with
  | none => rfl
  | @digits mark sign digits isMark isSign nonempty areDigits =>
    have signed : ∃ negative, splitSign (sign ++ digits) = (negative, digits) := by
      obtain ⟨first, rest, rfl⟩ := List.exists_cons_of_ne_nil nonempty
      simp only [List.mem_cons, List.not_mem_nil, or_false] at isSign
      rcases isSign with rfl | rfl | rfl
      · exact ⟨false, splitSign_of_digit rest (areDigits first List.mem_cons_self)⟩
      · exact ⟨false, rfl⟩
      · exact ⟨true, rfl⟩
    obtain ⟨negative, signed⟩ := signed
    have isRead : (digits.isEmpty || !digits.all Char.isDigit) = false := by
      rw [List.isEmpty_eq_false_iff.mpr nonempty, List.all_eq_true.mpr areDigits]
      rfl
    simp only [List.cons_append, readExponent?, isMark, Bool.or_eq_true, decide_eq_true_eq,
      if_true, signed, isRead]
    rfl

theorem readUnsigned?_isSome {whole fraction exponent : List Char} (negative : Bool)
    (plain : IsPlain whole fraction) (isExponent : IsExponent exponent) :
    (readUnsigned? negative (whole ++ fraction ++ exponent)).isSome = true := by
  have afterDigits : ∀ next ∈ exponent.head?, next.isDigit = false := by
    cases isExponent with
    | none => exact nofun
    | digits isMark =>
      rintro _ ⟨⟩
      rcases isMark with rfl | rfl <;> rfl
  have notEmpty (digits : List Char) : (whole.isEmpty && digits.isEmpty) = false := by
    rw [List.isEmpty_eq_false_iff.mpr plain.whole_ne_nil]
    rfl
  have reads := readExponent?_isSome isExponent
  rw [List.append_assoc]
  unfold readUnsigned?
  cases fraction with
  | nil =>
    rw [List.nil_append, splitDigits_append plain.whole_digits afterDigits]
    cases isExponent with
    | none => simp only [notEmpty, readExponent?, Bool.false_eq_true, if_false, Option.isSome_map,
        Option.isSome_some]
    | digits isMark =>
      rw [List.cons_append] at reads ⊢
      rcases isMark with rfl | rfl
      all_goals
        simp only [notEmpty, Bool.false_eq_true, if_false, Option.isSome_map]
        exact reads
  | cons point digits =>
    obtain rfl : point = '.' := plain.point point rfl
    have afterWhole : ∀ next ∈ ('.' :: digits ++ exponent).head?, next.isDigit = false := by
      rintro _ ⟨⟩
      rfl
    have others : splitDigits (digits ++ exponent) = (digits, exponent) :=
      splitDigits_append plain.fraction_digits afterDigits
    rw [splitDigits_append plain.whole_digits afterWhole, List.cons_append]
    simp only [others, notEmpty, Bool.false_eq_true, if_false, Option.isSome_map, reads]

theorem toLower_of_digit {character : Char} (digit : character.isDigit = true) :
    character.toLower = character := by
  unfold Char.toLower
  split
  case isTrue upper =>
    have last : character.val ≤ '9'.val := of_decide_eq_true (Bool.and_eq_true_iff.mp digit).2
    exact absurd (UInt32.le_trans upper.1 last) (by decide)
  case isFalse => rfl

theorem readFloat?_of_isNumeral {text : List Char} (isNumeral : IsNumeral text) :
    ∃ value, readFloat? text = some value := by
  obtain @⟨whole, fraction, exponent, plain, isExponent⟩ := isNumeral
  obtain ⟨first, rest, starts, digit⟩ := plain.starts
  have isRead := readUnsigned?_isSome false plain isExponent
  rw [starts, List.cons_append] at isRead ⊢
  -- The words that are read as numbers start with letters.
  have noWord (word : String) {letter : Char} {letters : List Char}
      (written : word.toList = letter :: letters) (other : letter.isDigit = false) :
      String.ofList ((first :: (rest ++ exponent)).map Char.toLower) ≠ word := by
    rintro rfl
    rw [String.toList_ofList, List.map_cons, toLower_of_digit digit] at written
    rw [(List.cons.inj written).1, other] at digit
    cases digit
  unfold readFloat?
  rw [splitSign_of_digit _ digit]
  simp only [noWord "inf" rfl rfl, noWord "infinity" rfl rfl, noWord "nan" rfl rfl, decide_false,
    Bool.or_self, Bool.false_eq_true, if_false]
  obtain ⟨literal, known⟩ := Option.isSome_iff_exists.mp isRead
  exact ⟨_, congrArg (Option.map DecimalLiteral.toFloat) known⟩

end Numeral

/-! ## Strings -/

/-- The value of a string literal, where no backslash stands at its end. -/
def unescape? : List Char → Option (List Char)
  | [] => some []
  | ['\\'] => none
  | '\\' :: 'n' :: rest => (unescape? rest).map ('\n' :: ·)
  | '\\' :: 't' :: rest => (unescape? rest).map ('\t' :: ·)
  | '\\' :: character :: rest => (unescape? rest).map (character :: ·)
  | character :: rest => (unescape? rest).map (character :: ·)

theorem unescape?_escape (letter : Char) : ∃ meant, ∀ rest,
    unescape ('\\' :: letter :: rest) = meant :: unescape rest ∧
      unescape? ('\\' :: letter :: rest) = (unescape? rest).map (meant :: ·) := by
  by_cases lineBreak : letter = 'n'
  · subst lineBreak
    exact ⟨'\n', fun _ => ⟨rfl, rfl⟩⟩
  by_cases tab : letter = 't'
  · subst tab
    exact ⟨'\t', fun _ => ⟨rfl, rfl⟩⟩
  · refine ⟨letter, fun rest => ⟨?_, ?_⟩⟩
    · rw [unescape] <;> assumption
    · rw [unescape?] <;> assumption

namespace Lexer

/-- What can stand between quotes: characters that are no quote, and pairs of a backslash and
another character, all on one line. -/
inductive FitsQuotes (quote : Char) : List Char → Prop
  | empty : FitsQuotes quote []
  | itself {character : Char} {rest : List Char} (notQuote : character ≠ quote)
      (notBreak : character ≠ '\n') (notEscape : character ≠ '\\')
      (fits : FitsQuotes quote rest) : FitsQuotes quote (character :: rest)
  | escaped {character : Char} {rest : List Char} (notBreak : character ≠ '\n')
      (fits : FitsQuotes quote rest) : FitsQuotes quote ('\\' :: character :: rest)

theorem fitsQuotes_of_closingQuote {quote : Char} {characters : List Char} {length : Nat}
    (closed : closingQuote quote characters = some length) :
    FitsQuotes quote (characters.take length) := by
  fun_induction closingQuote quote characters generalizing length with
  | case1 | case3 | case4 | case5 => cases closed
  | case2 rest =>
    cases closed
    exact .empty
  | case6 escaped rest notBreak _ _ ih =>
    obtain ⟨inner, known, rfl⟩ := Option.map_eq_some_iff.mp closed
    exact .escaped notBreak (ih known)
  | case7 character rest notQuote notBreak notEscape ih =>
    obtain ⟨inner, known, rfl⟩ := Option.map_eq_some_iff.mp closed
    exact .itself notQuote notBreak notEscape (ih known)

/-- How many backslashes stand at the end of a text. -/
def escapesAtEnd (characters : List Char) : Nat :=
  (characters.reverse.takeWhile (· = '\\')).length

theorem escapesAtEnd_cons {character : Char} (rest : List Char) (notEscape : character ≠ '\\') :
    escapesAtEnd (character :: rest) = escapesAtEnd rest := by
  have alone : [character].takeWhile (fun letter => decide (letter = '\\')) = [] :=
    List.takeWhile_cons_of_neg (by simpa using notEscape)
  rw [escapesAtEnd, List.reverse_cons, List.takeWhile_append, alone, List.append_nil]
  split
  case isTrue all => rw [← all, escapesAtEnd]
  case isFalse => rfl

/-- A pair in front adds two backslashes to those at the end, or none. -/
theorem escapesAtEnd_pair (escaped : Char) (rest : List Char) :
    escapesAtEnd ('\\' :: escaped :: rest) % 2 = escapesAtEnd rest % 2 := by
  rw [escapesAtEnd, List.reverse_cons, List.reverse_cons, List.append_assoc,
    List.takeWhile_append]
  split
  case isTrue all =>
    rw [escapesAtEnd, all, List.length_append]
    by_cases isEscape : escaped = '\\'
    · subst isEscape
      exact Nat.add_mod_right _ 2
    · rw [List.cons_append, List.takeWhile_cons_of_neg (by simpa using isEscape)]
      rfl
  case isFalse => rfl

/-- The text is on one line, every quote in it stands behind an odd number of backslashes, and an
even number of them stands at its end. -/
structure IsQuotable (quote : Char) (raw : List Char) : Prop where
  noBreak : '\n' ∉ raw
  escaped : ∀ before after, raw = before ++ quote :: after → escapesAtEnd before % 2 = 1
  paired : escapesAtEnd raw % 2 = 0

namespace FitsQuotes

variable {quote : Char} {raw : List Char}

theorem noBreak (fits : FitsQuotes quote raw) : '\n' ∉ raw := by
  induction fits with
  | empty => exact List.not_mem_nil
  | itself _ notBreak _ _ ih => simp [ih, notBreak.symm]
  | escaped notBreak _ ih => simp [ih, notBreak.symm]

theorem escapesAtEnd_even (fits : FitsQuotes quote raw) : escapesAtEnd raw % 2 = 0 := by
  induction fits with
  | empty => rfl
  | itself _ _ notEscape _ ih => rw [escapesAtEnd_cons _ notEscape, ih]
  | escaped _ _ ih => rw [escapesAtEnd_pair, ih]

theorem escapesAtEnd_odd (fits : FitsQuotes quote raw) (notEscape : quote ≠ '\\') :
    ∀ before after, raw = before ++ quote :: after → escapesAtEnd before % 2 = 1 := by
  induction fits with
  | empty =>
    intro before after same
    exact absurd same.symm (List.append_ne_nil_of_right_ne_nil _ (List.cons_ne_nil _ _))
  | itself notQuote _ ordinary _ ih =>
    intro before after same
    cases before with
    | nil => exact absurd (List.cons.inj same).1 notQuote
    | cons first others =>
      obtain ⟨rfl, behind⟩ := List.cons.inj same
      rw [escapesAtEnd_cons _ ordinary]
      exact ih others after behind
  | escaped _ _ ih =>
    intro before after same
    match before with
    | [] => exact absurd (List.cons.inj same).1.symm notEscape
    | [first] =>
      obtain ⟨rfl, _⟩ := List.cons.inj same
      rfl
    | first :: second :: others =>
      obtain ⟨rfl, pair⟩ := List.cons.inj same
      obtain ⟨rfl, behind⟩ := List.cons.inj pair
      rw [escapesAtEnd_pair]
      exact ih others after behind

theorem isQuotable (fits : FitsQuotes quote raw) (notEscape : quote ≠ '\\') :
    IsQuotable quote raw :=
  ⟨fits.noBreak, fits.escapesAtEnd_odd notEscape, fits.escapesAtEnd_even⟩

theorem unescape? (fits : FitsQuotes quote raw) :
    ChartScript.unescape? raw = some (unescape raw) := by
  induction fits with
  | empty => rfl
  | @itself character rest _ _ notEscape _ ih =>
    rw [ChartScript.unescape?.eq_def, unescape.eq_def]
    simp [notEscape, ih]
  | @escaped character rest _ _ ih =>
    obtain ⟨meant, known⟩ := unescape?_escape character
    rw [(known rest).1, (known rest).2, ih]
    rfl

end FitsQuotes

/-! ## Tokens -/

theorem lexeme_ne_invalidNumber {first : Char} {rest : List Char} {cause : LexicalCause}
    (failed : lexeme first rest = .error cause) (literal : String) :
    cause ≠ .invalidNumber literal := by
  rintro rfl
  unfold lexeme at failed
  simp only at failed
  split at failed
  case isTrue => split at failed <;> cases failed
  split at failed
  case isTrue => split at failed <;> cases failed
  split at failed
  case isTrue digit =>
    obtain ⟨value, known⟩ := Numeral.readFloat?_of_isNumeral (numberText_isNumeral rest digit)
    rw [known] at failed
    cases failed
  split at failed
  case isTrue => cases failed
  split at failed
  case h_17 => split at failed <;> cases failed
  all_goals cases failed

theorem Scanner.of_tokens_error {scanner : Scanner} {error : LexicalError}
    (found : scanner.tokens = .error error) : ∃ final : Scanner, final.Stuck error := by
  obtain ⟨read, final, scans, ended | ⟨other, stuck⟩⟩ := scans_or_stuck scanner
  · rw [scans.tokens, tokens_of_end ended] at found
    cases found
  · rw [scans.tokens, stuck.tokens] at found
    cases found
    exact ⟨final, stuck⟩

/-- The text of a numeral or a string is one that the readers of literals take. -/
def IsReadable (kind : TokenKind) (text : List Char) : Prop :=
  match kind with
  | .number value => IsNumeral text ∧ Numeral.readFloat? text = some value
  | .string raw => ∃ quote ∈ ['"', '\''], text = quote :: (raw.toList ++ [quote]) ∧
    IsQuotable quote raw.toList ∧ unescape? raw.toList = some (unescape raw.toList)
  | _ => True

theorem isReadable_ofWord (word : String) (text : List Char) :
    IsReadable (.ofWord word) text := by
  unfold TokenKind.ofWord
  split <;> trivial

theorem isReadable_withEquals {paired single kind : TokenKind} {text rest : List Char}
    {further : Nat}
    (read : (.ok (withEquals paired single rest) : Except LexicalCause (TokenKind × Nat)) =
      .ok (kind, further))
    (isPaired : IsReadable paired text) (isSingle : IsReadable single text) :
    IsReadable kind text := by
  unfold withEquals at read
  split at read <;> cases read <;> assumption

theorem isReadable_lexeme {first : Char} {rest : List Char} {kind : TokenKind} {further : Nat}
    (read : lexeme first rest = .ok (kind, further)) :
    IsReadable kind (first :: rest.take further) := by
  unfold lexeme at read
  simp only at read
  split at read
  case isTrue quote =>
    split at read
    case h_1 length closed =>
      cases read
      have isQuote : first ∈ ['"', '\''] := by simpa using quote
      have notEscape : first ≠ '\\' := by
        rintro rfl
        exact absurd isQuote (by decide)
      have fits := fitsQuotes_of_closingQuote closed
      refine ⟨first, isQuote, ?_⟩
      rw [String.toList_ofList, take_closingQuote closed]
      exact ⟨rfl, fits.isQuotable notEscape, fits.unescape?⟩
    case h_2 => cases read
  split at read
  case isTrue => split at read <;> cases read; trivial
  split at read
  case isTrue digit =>
    split at read
    case h_1 value known =>
      cases read
      rw [cons_take_numberText rest digit]
      exact ⟨numberText_isNumeral rest digit, known⟩
    case h_2 => cases read
  split at read
  case isTrue =>
    cases read
    exact isReadable_ofWord _ _
  split at read
  case h_13 | h_14 | h_15 | h_16 => exact isReadable_withEquals read trivial trivial
  case h_17 => split at read <;> cases read; trivial
  case h_18 => cases read
  all_goals
    cases read
    trivial

theorem Scanner.Scans.isReadable {scanner final : Scanner} {read : List Token}
    (scans : Scans scanner read final) :
    ∀ token ∈ read, IsReadable token.kind token.text.toList := by
  induction scans with
  | done => exact nofun
  | step first _ ih =>
    refine List.forall_mem_append.mpr ⟨?_, ih⟩
    cases first with
    | blank | hiddenBreak | comment => exact nofun
    | newline | version => exact List.forall_mem_singleton.mpr trivial
    | lexeme _ _ _ _ read =>
      refine List.forall_mem_singleton.mpr ?_
      rw [Scanner.token, String.toList_ofList]
      exact isReadable_lexeme read

end Lexer

section Tokens

variable {source : String}

theorem tokenize_ne_invalidNumber {error : LexicalError} (failed : tokenize source = .error error)
    (literal : String) : error.cause ≠ .invalidNumber literal := by
  obtain ⟨final, stuck⟩ := Lexer.Scanner.of_tokens_error failed
  cases stuck with
  | lexeme _ _ _ _ refused => exact Lexer.lexeme_ne_invalidNumber refused literal

theorem tokenize_isReadable {tokens : List Token} (scanned : tokenize source = .ok tokens) :
    ∀ token ∈ tokens, Lexer.IsReadable token.kind token.text.toList := by
  obtain ⟨read, final, scans, _, rfl⟩ := Lexer.Scanner.of_tokens_ok scanned
  exact List.forall_mem_append.mpr ⟨scans.isReadable, List.forall_mem_singleton.mpr trivial⟩

end Tokens

/-- No numeral is refused: what the scanner takes for one has the form of one, and the reader of
numbers knows it. What it takes for the contents of a string is on one line, with every closing
quote in it escaped, and its escapes are pairs: reading them never comes to a lone backslash. -/
theorem literals_readable (source : String) :
    (∀ error, tokenize source = .error error →
      ∀ literal, error.cause ≠ .invalidNumber literal) ∧
    (∀ first rest, first.isDigit = true →
      Lexer.IsNumeral (Lexer.numberText (first :: rest)) ∧
        ∃ value, Numeral.readFloat? (Lexer.numberText (first :: rest)) = some value) ∧
    ∀ tokens, tokenize source = .ok tokens → ∀ token ∈ tokens,
      (∀ value, token.kind = .number value → Lexer.IsNumeral token.text.toList ∧
        Numeral.readFloat? token.text.toList = some value) ∧
      ∀ raw, token.kind = .string raw → ∃ quote ∈ ['"', '\''],
        token.text.toList = quote :: (raw.toList ++ [quote]) ∧
        Lexer.IsQuotable quote raw.toList ∧
        unescape? raw.toList = some (unescape raw.toList) := by
  refine ⟨fun _ => tokenize_ne_invalidNumber, fun first rest digit => ?_, ?_⟩
  · have isNumeral := Lexer.numberText_isNumeral rest digit
    exact ⟨isNumeral, Numeral.readFloat?_of_isNumeral isNumeral⟩
  · intro tokens scanned token member
    have isReadable := tokenize_isReadable scanned token member
    constructor
    · intro value isNumber
      rwa [isNumber] at isReadable
    · intro raw isString
      rwa [isString] at isReadable

/-- A source with marks of exponents that no digits follow, and strings with escapes. -/
def literalSource : String :=
  "1e 2.e5 3e+ 'it\\'s' \"\\\\\""

theorem literals_readable_escaped : ∃ tokens, tokenize literalSource = .ok tokens ∧
    tokens.map (·.text) =
      ["1", "e", "2.e5", "3", "e", "+", "'it\\'s'", "\"\\\\\"", ""] ∧
    ∀ token ∈ tokens,
      (∀ value, token.kind = .number value → Lexer.IsNumeral token.text.toList ∧
        Numeral.readFloat? token.text.toList = some value) ∧
      ∀ raw, token.kind = .string raw → ∃ quote ∈ ['"', '\''],
        token.text.toList = quote :: (raw.toList ++ [quote]) ∧
        Lexer.IsQuotable quote raw.toList ∧
        unescape? raw.toList = some (unescape raw.toList) := by
  have reads : (tokenize literalSource).toOption.any fun tokens => tokens.map (·.text) =
      ["1", "e", "2.e5", "3", "e", "+", "'it\\'s'", "\"\\\\\"", ""] := by
    decide +kernel
  obtain ⟨tokens, scanned, texts⟩ := of_toOption_any reads
  exact ⟨tokens, scanned, of_decide_eq_true texts,
    (literals_readable literalSource).2.2 tokens scanned⟩

end ChartScript
