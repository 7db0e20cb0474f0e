import ChartScript.Proofs.LegibleSyntax
import ChartScript.Syntax.Display

/-!
# The tokens of displayed syntax

The text of an expression is scanned as tokens whose kinds follow the expression: `Expr.kinds`.
`Spells` says so for a piece of text in front of another, so that pieces can be put together; what
may follow a piece depends on its last token.
-/

set_option autoImplicit false

namespace ChartScript

open Lexer

namespace Lexer

open Scanner

/-- In front of `tail`, the text is scanned as tokens of these kinds. -/
def Spells (text : List Char) (kinds : List TokenKind) (tail : List Char) : Prop :=
  ∀ scanner : Scanner, scanner.rest = text ++ tail →
    ∃ read final, Scans scanner read final ∧ final.rest = tail ∧ read.map Token.kind = kinds

variable {text others tail : List Char} {kinds otherKinds : List TokenKind}

theorem spells_nil : Spells [] [] tail :=
  fun scanner stands => ⟨[], scanner, .done scanner, stands, rfl⟩

theorem Spells.append (first : Spells text kinds (others ++ tail))
    (second : Spells others otherKinds tail) :
    Spells (text ++ others) (kinds ++ otherKinds) tail := by
  intro scanner stands
  obtain ⟨read, middle, scans, atOthers, same⟩ := first scanner (by rw [stands, List.append_assoc])
  obtain ⟨more, final, rest, atTail, sameOthers⟩ := second middle atOthers
  exact ⟨read ++ more, final, scans.trans rest, atTail, by rw [List.map_append, same, sameOthers]⟩

theorem spells_blank : Spells [' '] [] tail :=
  fun _ stands => ⟨[], _, (Step.blank stands rfl).scans, rfl, rfl⟩

/-- A lexeme whose characters all belong to it. -/
theorem spells_lexeme {first : Char} {rest : List Char} {kind : TokenKind}
    (notBlank : Lexer.isBlank first = false) (notBreak : first ≠ '\n')
    (notComment : ¬opensComment first (rest ++ tail))
    (read : lexeme first (rest ++ tail) = .ok (kind, rest.length)) :
    Spells (first :: rest) [kind] tail := by
  intro scanner stands
  refine ⟨_, _, (Step.lexeme stands notBlank notBreak notComment read).scans, ?_, rfl⟩
  exact List.drop_left

theorem ne_of_accepted {accepts : Char → Bool} {first other : Char}
    (accepted : accepts first = true) (refused : accepts other = false) : first ≠ other := by
  rintro rfl
  rw [refused] at accepted
  cases accepted

/-- A lexeme that starts with a character of a sort that starts no blank, break or comment. -/
theorem spells_accepted {accepts : Char → Bool} {first : Char} {rest : List Char}
    {kind : TokenKind} (accepted : accepts first = true)
    (refused : ([' ', '\t', '\r', '\n', '/'].all fun other => !accepts other) = true)
    (read : lexeme first (rest ++ tail) = .ok (kind, rest.length)) :
    Spells (first :: rest) [kind] tail := by
  have ordinary (other : Char) (member : other ∈ [' ', '\t', '\r', '\n', '/']) : first ≠ other :=
    ne_of_accepted accepted ((Bool.not_eq_true' _).mp (List.all_eq_true.mp refused other member))
  refine spells_lexeme ?_ (ordinary _ (by simp)) (fun opened => ordinary _ (by simp) opened.1) read
  simp [isBlank, ordinary ' ', ordinary '\t', ordinary '\r']

/-- The characters that are a token by themselves, whatever follows. -/
def markKind? : Char → Option TokenKind
  | '(' => some .leftParen
  | ')' => some .rightParen
  | '[' => some .leftBracket
  | ']' => some .rightBracket
  | ',' => some .comma
  | '.' => some .dot
  | '?' => some .question
  | '-' => some .minus
  | _ => none

theorem spells_mark {mark : Char} {kind : TokenKind} (isMark : markKind? mark = some kind) :
    Spells [mark] [kind] tail := by
  unfold markKind? at isMark
  split at isMark <;> cases isMark <;>
    exact spells_lexeme rfl (by decide) (by simp [opensComment]) rfl

theorem Spells.mark {mark : Char} {kind : TokenKind} (isMark : markKind? mark = some kind)
    (spells : Spells text kinds tail) : Spells (mark :: text) (kind :: kinds) tail :=
  (spells_mark isMark).append spells

theorem Spells.blank (spells : Spells text kinds tail) : Spells (' ' :: text) kinds tail :=
  spells_blank.append spells

theorem separates_mark {mark : Char} (isMark : mark ∈ [' ', ',', ')', '[', ']'])
    (rest : List Char) : Separates (mark :: rest) := by
  rintro _ ⟨⟩
  simp only [List.mem_cons, List.not_mem_nil, or_false] at isMark
  rcases isMark with rfl | rfl | rfl | rfl | rfl <;> decide

theorem spells_assign {first : Char} {rest : List Char} (unpaired : first ≠ '=') :
    Spells ['='] [.assign] (first :: rest) := by
  have single : withEquals .equal .assign (first :: rest) = (.assign, 0) := by
    unfold withEquals
    split
    case h_1 same => exact absurd (List.cons.inj same).1 unpaired
    case h_2 => rfl
  exact spells_lexeme rfl (by decide) (by simp [opensComment])
    (congrArg Except.ok single)

theorem spells_colon : Spells [':'] [.colon] (' ' :: tail) :=
  spells_lexeme rfl (by decide) (by simp [opensComment]) rfl

/-- A word ends before the text. -/
def EndsWord (tail : List Char) : Prop :=
  ∀ character ∈ tail.head?, continuesName character = false

theorem Separates.endsWord (separates : Separates tail) : EndsWord tail :=
  fun character first => (separates character first).1

theorem endsWord_mark {mark : Char} (isMark : mark ∈ ['.', '(', '=']) (rest : List Char) :
    EndsWord (mark :: rest) := by
  rintro _ ⟨⟩
  simp only [List.mem_cons, List.not_mem_nil, or_false] at isMark
  rcases isMark with rfl | rfl | rfl <;> decide

theorem spells_word {first : Char} {rest : List Char} (noDigit : first.isDigit = false)
    (starts : startsName first = true)
    (continues : ∀ character ∈ rest, continuesName character = true) (ends : EndsWord tail) :
    Spells (first :: rest) [.ofWord (String.ofList (first :: rest))] tail := by
  have whole : (rest ++ tail).takeWhile continuesName = rest := by
    rw [List.takeWhile_append_of_pos continues]
    cases tail with
    | nil => exact List.append_nil _
    | cons character tail =>
      rw [List.takeWhile_cons_of_neg (by simp [ends character rfl]), List.append_nil]
  refine spells_accepted starts rfl ?_
  have double : first ≠ '"' := ne_of_accepted starts rfl
  have single : first ≠ '\'' := ne_of_accepted starts rfl
  simp only [lexeme, whole]
  rw [if_neg (by simp [double, single]), if_neg (ne_of_accepted starts rfl),
    if_neg (by simp [noDigit]), if_pos starts]

theorem IsWord.spells {word : List Char} (isWord : IsWord word) (ends : EndsWord tail) :
    Spells word [.identifier (String.ofList word)] tail := by
  obtain ⟨first, rest, rfl, noDigit, starts, continues, known⟩ := isWord
  rw [← known]
  exact spells_word noDigit starts continues ends

/-- Pieces that can each stand before a separator, and the last one before `tail`. -/
theorem spells_intercalate {follows : List Char → Prop} {separator : List Char}
    {separatorKinds : List TokenKind} (parted : ∀ rest, Spells separator separatorKinds rest)
    (atSeparator : ∀ rest, follows (separator ++ rest)) (atTail : follows tail)
    (pieces : List (List Char × List TokenKind))
    (spelled : ∀ piece ∈ pieces, ∀ rest, follows rest → Spells piece.1 piece.2 rest) :
    Spells (separator.intercalate (pieces.map Prod.fst))
      (separatorKinds.intercalate (pieces.map Prod.snd)) tail := by
  induction pieces with
  | nil => exact spells_nil
  | cons piece rest ih =>
    obtain ⟨first, others⟩ := List.forall_mem_cons.mp spelled
    cases rest with
    | nil =>
      simp only [List.map_cons, List.map_nil, List.intercalate_singleton]
      exact first _ atTail
    | cons next rest =>
      simp only [List.map_cons, List.intercalate_cons_cons, List.append_assoc]
      refine (first _ ?_).append ((parted _).append (ih others))
      rw [List.append_assoc]
      exact atSeparator _

/-- The tokens of words with points between them. -/
def pathKinds (path : String) : List TokenKind :=
  [TokenKind.dot].intercalate
    ((path.toList.splitOn '.').map fun word => [.identifier (String.ofList word)])

theorem intercalate_cons {α : Type} (separator first : List α) (rest : List (List α)) :
    separator.intercalate (first :: rest) = first ++ rest.flatMap (separator ++ ·) := by
  induction rest generalizing first with
  | nil => rw [List.intercalate_singleton, List.flatMap_nil, List.append_nil]
  | cons next rest ih =>
    rw [List.intercalate_cons_cons, ih, List.flatMap_cons]
    simp only [List.append_assoc]

/-- A path has a first word, and a point before every other one. -/
theorem exists_words (path : String) : ∃ word words, path.toList.splitOn '.' = word :: words ∧
    path.toList = word ++ words.flatMap (['.'] ++ ·) ∧
    pathKinds path = .identifier (String.ofList word) ::
      words.flatMap fun word => [.dot, .identifier (String.ofList word)] := by
  obtain ⟨word, words, split⟩ := List.exists_cons_of_ne_nil (List.splitOn_ne_nil '.' path.toList)
  refine ⟨word, words, split, ?_, ?_⟩
  · rw [← intercalate_cons, ← split, List.intercalate_splitOn]
  · rw [pathKinds, split, List.map_cons, intercalate_cons, List.flatMap_map]
    rfl

theorem IsPath.spells {path : String} (isPath : IsPath path) (ends : EndsWord tail) :
    Spells path.toList (pathKinds path) tail := by
  have atDot (rest : List Char) : EndsWord (['.'] ++ rest) := by
    rintro _ ⟨⟩
    decide
  have spelled := spells_intercalate (fun _ => spells_mark rfl) atDot ends
    ((path.toList.splitOn '.').map fun word => (word, [.identifier (String.ofList word)]))
    (List.forall_mem_map.mpr fun word member _ => (isPath word member).spells)
  simp only [List.map_map, Function.comp_def, List.map_id'] at spelled
  rwa [List.intercalate_splitOn] at spelled

theorem IsPath.starts {path : String} (isPath : IsPath path) :
    ∃ first rest, path.toList = first :: rest ∧ startsName first = true := by
  obtain ⟨word, words, split, joined, _⟩ := exists_words path
  rw [IsPath, split] at isPath
  obtain ⟨first, rest, rfl, _, starts, _⟩ := isPath word List.mem_cons_self
  exact ⟨first, _, joined, starts⟩

theorem spells_number {whole fraction : List Char} {value : Float}
    (plain : Numeral.IsPlain whole fraction)
    (read : Numeral.readFloat? (whole ++ fraction) = some value) (separates : Separates tail) :
    Spells (whole ++ fraction) [.number value] tail := by
  obtain ⟨first, rest, same, digit⟩ := plain.starts
  have taken := plain.numberText
  rw [same] at taken read ⊢
  refine spells_accepted digit rfl ?_
  have double : first ≠ '"' := ne_of_accepted digit rfl
  have single : first ≠ '\'' := ne_of_accepted digit rfl
  simp only [lexeme, ← List.cons_append, numberText_append separates, taken, read]
  rw [if_neg (by simp [double, single]), if_neg (ne_of_accepted digit rfl), if_pos digit]
  rfl

end Lexer

/-! ## Strings -/

namespace Text

/-- The character is shown as itself, or escaped by one letter that the scanner knows. -/
def IsPlainlyQuoted (character : Char) : Prop :=
  quotedChar character ∈
    [[character], ['\\', 'n'], ['\\', 't'], ['\\', '"'], ['\\', '\\']]

instance (character : Char) : Decidable (IsPlainlyQuoted character) :=
  inferInstanceAs (Decidable (_ ∈ _))

/-- A character that neither closes a string nor starts an escape in it. -/
def IsOrdinary (character : Char) : Prop :=
  character ≠ '"' ∧ character ≠ '\\' ∧ character ≠ '\n'

instance (character : Char) : Decidable (IsOrdinary character) :=
  inferInstanceAs (Decidable (_ ∧ _))

/-- What a character is shown as between quotes. -/
inductive IsPiece : List Char → Prop
  | itself {character : Char} (ordinary : IsOrdinary character) : IsPiece [character]
  | escaped {letter : Char} {rest : List Char} (notBreak : letter ≠ '\n')
      (ordinary : ∀ character ∈ rest, IsOrdinary character) : IsPiece ('\\' :: letter :: rest)

theorem exists_digit_of_mem_toDigits {number : Nat} {character : Char}
    (member : character ∈ Nat.toDigits 16 number) : ∃ digit < 16, character = digit.digitChar := by
  induction number using Nat.strongRecOn with
  | ind number ih =>
    rw [Nat.toDigits_eq_if (by decide)] at member
    split at member
    case isTrue small => exact ⟨number, small, List.mem_singleton.mp member⟩
    case isFalse large =>
      rcases List.mem_append.mp member with front | last
      · exact ih _ (Nat.div_lt_self (by omega) (by decide)) front
      · exact ⟨_, Nat.mod_lt _ (by decide), List.mem_singleton.mp last⟩

theorem ordinary_digitChar : ∀ digit < 16, IsOrdinary digit.digitChar := by
  decide

theorem isPiece_quotedChar (character : Char) : IsPiece (quotedChar character) := by
  unfold quotedChar
  split
  case h_7 notBreak notQuote notEscape =>
    split
    case isTrue => exact .itself ⟨notQuote, notEscape, notBreak⟩
    case isFalse =>
      refine .escaped (by decide) (List.forall_mem_append.mpr ⟨?_, ?_⟩)
      · refine List.forall_mem_cons.mpr ⟨by decide, fun digit member => ?_⟩
        obtain ⟨value, small, rfl⟩ := exists_digit_of_mem_toDigits member
        exact ordinary_digitChar value small
      · exact List.forall_mem_singleton.mpr (by decide)
  all_goals exact .escaped (by decide) nofun

theorem closingQuote_ordinary {front : List Char}
    (ordinary : ∀ character ∈ front, IsOrdinary character) (tail : List Char) :
    closingQuote '"' (front ++ tail) = (closingQuote '"' tail).map (· + front.length) := by
  induction front with
  | nil => simp
  | cons character rest ih =>
    obtain ⟨⟨notQuote, notEscape, notBreak⟩, others⟩ := List.forall_mem_cons.mp ordinary
    rw [List.cons_append, closingQuote.eq_def]
    simp [notQuote, notEscape, notBreak, ih others, Function.comp_def, Nat.add_assoc]

theorem IsPiece.closingQuote {piece : List Char} (isPiece : IsPiece piece) (tail : List Char) :
    closingQuote '"' (piece ++ tail) =
      (Lexer.closingQuote '"' tail).map (· + piece.length) := by
  cases isPiece with
  | itself ordinary => exact closingQuote_ordinary (List.forall_mem_singleton.mpr ordinary) tail
  | escaped notBreak ordinary =>
    rw [List.cons_append, List.cons_append, Lexer.closingQuote.eq_def]
    simp [notBreak, closingQuote_ordinary ordinary, Function.comp_def, Nat.add_assoc]

theorem closingQuote_quoted (text tail : List Char) :
    closingQuote '"' (text.flatMap quotedChar ++ '"' :: tail) =
      some (text.flatMap quotedChar).length := by
  induction text with
  | nil =>
    rw [List.flatMap_nil, List.nil_append, closingQuote.eq_def]
    simp
  | cons character rest ih =>
    rw [List.flatMap_cons, List.append_assoc, (isPiece_quotedChar character).closingQuote, ih,
      List.length_append, Nat.add_comm]
    rfl

theorem unescape_ordinary {front : List Char}
    (ordinary : ∀ character ∈ front, IsOrdinary character) (tail : List Char) :
    unescape (front ++ tail) = front ++ unescape tail := by
  induction front with
  | nil => rfl
  | cons character rest ih =>
    obtain ⟨⟨_, notEscape, _⟩, others⟩ := List.forall_mem_cons.mp ordinary
    rw [List.cons_append, unescape.eq_def]
    simp [notEscape, ih others]

theorem unescape_eq_self {front : List Char}
    (ordinary : ∀ character ∈ front, IsOrdinary character) : unescape front = front := by
  have alone := unescape_ordinary ordinary []
  rwa [List.append_nil, unescape, List.append_nil] at alone

theorem unescape_escape (letter : Char) : ∃ meant, ∀ rest,
    unescape ('\\' :: letter :: rest) = meant :: unescape rest := by
  by_cases lineBreak : letter = 'n'
  · subst lineBreak
    exact ⟨'\n', fun _ => rfl⟩
  by_cases tab : letter = 't'
  · subst tab
    exact ⟨'\t', fun _ => rfl⟩
  · exact ⟨letter, fun rest => by rw [unescape] <;> assumption⟩

theorem IsPiece.unescape_append {piece : List Char} (isPiece : IsPiece piece) (tail : List Char) :
    unescape (piece ++ tail) = unescape piece ++ unescape tail := by
  cases isPiece with
  | itself ordinary =>
    have ordinary := List.forall_mem_singleton.mpr ordinary
    rw [unescape_ordinary ordinary, unescape_eq_self ordinary]
  | @escaped letter rest _ ordinary =>
    obtain ⟨meant, known⟩ := unescape_escape letter
    rw [List.cons_append, List.cons_append, known, known, unescape_ordinary ordinary,
      unescape_eq_self ordinary]
    rfl

/-- Read back between quotes, a character is itself where it is shown plainly. -/
theorem unescape_quotedChar {character : Char} :
    unescape (quotedChar character) = [character] ↔ IsPlainlyQuoted character := by
  unfold IsPlainlyQuoted quotedChar
  split
  case h_7 notBreak notQuote notEscape =>
    split
    case isTrue =>
      have ordinary : IsOrdinary character := ⟨notQuote, notEscape, notBreak⟩
      exact iff_of_true (unescape_eq_self (List.forall_mem_singleton.mpr ordinary)) (.head _)
    case isFalse =>
      refine iff_of_false (fun same => ?_) (fun plain => ?_)
      · -- What is read back starts with the letter of the escape and the brace behind it.
        obtain ⟨meant, known⟩ := unescape_escape 'u'
        have brace := List.forall_mem_singleton.mpr (by decide : IsOrdinary '\x7b')
        have starts (rest : List Char) : unescape ('\\' :: 'u' :: '\x7b' :: rest) =
            meant :: '\x7b' :: unescape rest :=
          (known _).trans (congrArg (meant :: ·) (unescape_ordinary brace rest))
        exact List.cons_ne_nil _ _ (List.cons.inj ((starts _).symm.trans same)).2
      · simp at plain
  all_goals decide

theorem unescape_flatMap (text : List Char) :
    unescape (text.flatMap quotedChar) = text.flatMap fun character =>
      unescape (quotedChar character) := by
  induction text with
  | nil => rfl
  | cons character rest ih =>
    rw [List.flatMap_cons, List.flatMap_cons, (isPiece_quotedChar character).unescape_append, ih]

theorem unescape_quoted {text : List Char} (plain : ∀ character ∈ text, IsPlainlyQuoted character) :
    unescape (text.flatMap quotedChar) = text := by
  have alone : ∀ character ∈ text, unescape (quotedChar character) = [character] :=
    fun character member => unescape_quotedChar.mpr (plain character member)
  rw [unescape_flatMap, List.flatMap_congr alone, List.flatMap_singleton']

/-- What stands between the quotes of a quoted text. -/
def inner (text : String) : String :=
  String.ofList (text.toList.flatMap quotedChar)

theorem spells_quoted (text : String) {tail : List Char} :
    Spells (quoted text).toList [.string (inner text)] tail := by
  have shown : (quoted text).toList = '"' :: (text.toList.flatMap quotedChar ++ ['"']) := by
    simp [quoted]
  rw [shown]
  refine spells_lexeme rfl (by decide) (by simp [Scanner.opensComment]) ?_
  have closed := closingQuote_quoted text.toList tail
  simp only [lexeme, List.append_assoc, List.singleton_append, closed]
  simp [inner]

end Text

/-! ## Expressions -/

attribute [simp] Expr.display Call.display NamedArgument.display

namespace UnaryOp

def kind : UnaryOp → TokenKind
  | negate => .minus
  | logicalNot => .notWord

end UnaryOp

namespace BinaryOp

def kind : BinaryOp → TokenKind
  | add => .plus
  | subtract => .minus
  | multiply => .star
  | divide => .slash
  | modulo => .percent
  | equal => .equal
  | notEqual => .notEqual
  | greater => .greater
  | greaterEqual => .greaterEqual
  | less => .less
  | lessEqual => .lessEqual
  | logicalAnd => .andWord
  | logicalOr => .orWord

theorem spells_symbol (op : BinaryOp) {tail : List Char} :
    Spells op.symbol.toList [op.kind] (' ' :: tail) := by
  have ends : EndsWord (' ' :: tail) := by
    rintro _ ⟨⟩
    decide
  have sign {first : Char} {rest : List Char} {kind : TokenKind}
      (notBlank : Lexer.isBlank first = false) (notBreak : first ≠ '\n')
      (read : lexeme first (rest ++ ' ' :: tail) = .ok (kind, rest.length))
      (shown : op.symbol.toList = first :: rest)
      (notComment : rest = [] ∨ first ≠ '/') : Spells op.symbol.toList [kind] (' ' :: tail) := by
    rw [shown]
    refine spells_lexeme notBlank notBreak ?_ read
    rintro ⟨slash, again⟩
    rcases notComment with rfl | other
    · cases again
    · exact other slash
  cases op with
  | logicalAnd => exact @spells_word _ 'a' ['n', 'd'] rfl rfl (List.all_eq_true.mp rfl) ends
  | logicalOr => exact @spells_word _ 'o' ['r'] rfl rfl (List.all_eq_true.mp rfl) ends
  | equal | notEqual | greaterEqual | lessEqual =>
    exact sign rfl (by decide) rfl rfl (.inr (by decide))
  | _ => exact sign rfl (by decide) rfl rfl (.inl rfl)

end BinaryOp

mutual

/-- The kinds of the tokens that an expression is displayed as. -/
@[simp]
def Expr.kinds : Expr → List TokenKind
  | .number value _ => [.number value]
  | .string text _ => [.string (Text.inner text)]
  | .boolean value _ => [.boolean value]
  | .color value _ => [.color value]
  | .name path _ => pathKinds path
  | .member object name _ => object.kinds ++ [.dot, .identifier name]
  | .history series offset _ _ =>
    series.kinds ++ .leftBracket :: (offset.kinds ++ [.rightBracket])
  | .unary op operand _ => .leftParen :: op.kind :: (operand.kinds ++ [.rightParen])
  | .binary left op right _ =>
    .leftParen :: (left.kinds ++ op.kind :: (right.kinds ++ [.rightParen]))
  | .ternary condition whenTrue whenFalse _ =>
    .leftParen :: (condition.kinds ++ .question :: (whenTrue.kinds ++
      .colon :: (whenFalse.kinds ++ [.rightParen])))
  | .call call _ => call.kinds

@[simp]
def Call.kinds : Call → List TokenKind
  | .mk function _ arguments named =>
    pathKinds function ++ .leftParen :: ([TokenKind.comma].intercalate
      (Expr.kindsOfAll arguments ++ NamedArgument.kindsOfAll named) ++ [.rightParen])

def Expr.kindsOfAll : List Expr → List (List TokenKind)
  | [] => []
  | argument :: rest => argument.kinds :: Expr.kindsOfAll rest

@[simp]
def NamedArgument.kinds : NamedArgument → List TokenKind
  | .mk name value _ => .identifier name :: .assign :: value.kinds

def NamedArgument.kindsOfAll : List NamedArgument → List (List TokenKind)
  | [] => []
  | argument :: rest => argument.kinds :: NamedArgument.kindsOfAll rest

end

theorem Expr.displayAll_eq_map (arguments : List Expr) :
    Expr.displayAll arguments = arguments.map Expr.display := by
  induction arguments with
  | nil => rfl
  | cons argument rest ih => rw [Expr.displayAll, ih, List.map_cons]

theorem NamedArgument.displayAll_eq_map (arguments : List NamedArgument) :
    NamedArgument.displayAll arguments = arguments.map NamedArgument.display := by
  induction arguments with
  | nil => rfl
  | cons argument rest ih => rw [NamedArgument.displayAll, ih, List.map_cons]

theorem Expr.kindsOfAll_eq_map (arguments : List Expr) :
    Expr.kindsOfAll arguments = arguments.map Expr.kinds := by
  induction arguments with
  | nil => rfl
  | cons argument rest ih => rw [Expr.kindsOfAll, ih, List.map_cons]

theorem NamedArgument.kindsOfAll_eq_map (arguments : List NamedArgument) :
    NamedArgument.kindsOfAll arguments = arguments.map NamedArgument.kinds := by
  induction arguments with
  | nil => rfl
  | cons argument rest ih => rw [NamedArgument.kindsOfAll, ih, List.map_cons]

def Expr.isNumber : Expr → Bool
  | .number _ _ => true
  | _ => false

/-- The expression itself, without what is within it, is displayed as a text that can be read
back. -/
def Expr.IsPrintable : Expr → Prop
  | .number value _ => value.isNaN = false ∧ value.isInf = false ∧
    Numeral.readFloat? (Numeral.text value).toList = some value
  | .string text _ => ∀ character ∈ text.toList, Text.IsPlainlyQuoted character
  | .color _ _ => False
  | .member object _ _ => object.isNumber = false
  | _ => True

instance : (expr : Expr) → Decidable expr.IsPrintable
  | .number _ _ => inferInstanceAs (Decidable (_ = _ ∧ _ = _ ∧ _ = _))
  | .string text _ => List.decidableBAll Text.IsPlainlyQuoted text.toList
  | .color _ _ => inferInstanceAs (Decidable False)
  | .member object _ _ => inferInstanceAs (Decidable (object.isNumber = false))
  | .boolean _ _ | .name _ _ | .history _ _ _ _ | .unary _ _ _ | .binary _ _ _ _
  | .ternary _ _ _ _ | .call _ _ => inferInstanceAs (Decidable True)

/-- What is read from a source and can be displayed. -/
def Expr.Shown (expr : Expr) : Prop :=
  ∀ part ∈ expr.parts, part.IsLegible ∧ part.IsPrintable

namespace Expr

theorem starts_append {text others : List Char}
    (starts : ∃ first rest, text = first :: rest ∧ first ≠ '=') :
    ∃ first rest, text ++ others = first :: rest ∧ first ≠ '=' := by
  obtain ⟨first, rest, rfl, other⟩ := starts
  exact ⟨first, rest ++ others, rfl, other⟩

theorem Shown.starts {expr : Expr} (shown : expr.Shown) :
    ∃ first rest, expr.display.toList = first :: rest ∧ first ≠ '=' := by
  have path {path : String} (isPath : IsPath path) :
      ∃ first rest, path.toList = first :: rest ∧ first ≠ '=' := by
    obtain ⟨first, rest, same, starts⟩ := isPath.starts
    exact ⟨first, rest, same, ne_of_accepted starts rfl⟩
  induction expr with
  | number value span =>
    obtain ⟨unsigned, number, finite, _⟩ := shown _ List.mem_cons_self
    obtain ⟨whole, fraction, same, plain⟩ := Numeral.text_isPlain number finite unsigned
    obtain ⟨first, rest, known, digit⟩ := plain.starts
    refine ⟨first, rest, same.trans known, ?_⟩
    rintro rfl
    cases digit
  | string text span => exact ⟨'"', _, String.toList_ofList, by decide⟩
  | boolean value span =>
    rw [display]
    cases value with
    | true => exact ⟨'t', _, rfl, by decide⟩
    | false => exact ⟨'f', _, rfl, by decide⟩
  | color value span => exact (shown _ List.mem_cons_self).2.elim
  | name word span => exact path (shown _ List.mem_cons_self).1
  | member object name span known =>
    rw [display, String.toList_append, String.toList_append, List.append_assoc]
    exact starts_append (known (forall_parts_member.mp shown).2)
  | history series offset site span known _ =>
    rw [display, String.toList_append, String.toList_append, String.toList_append,
      List.append_assoc, List.append_assoc]
    exact starts_append (known (forall_parts_history.mp shown).2.1)
  | unary op operand span =>
    cases op <;> rw [display] <;> simp only [String.toList_append] <;> exact ⟨'(', _, rfl, by decide⟩
  | binary left op right span =>
    simp only [display, String.toList_append]
    exact ⟨'(', _, rfl, by decide⟩
  | ternary condition whenTrue whenFalse span =>
    simp only [display, String.toList_append]
    exact ⟨'(', _, rfl, by decide⟩
  | call function site arguments named span =>
    simp only [display, Call.display, String.toList_append, List.append_assoc]
    exact starts_append (path (forall_parts_call.mp shown).1.1.1)

/-- The text of the expression is scanned as its tokens, where no word or numeral goes on. -/
def Spelled (expr : Expr) : Prop :=
  ∀ tail, EndsWord tail → (expr.isNumber = true → Separates tail) →
    Spells expr.display.toList expr.kinds tail

theorem Spelled.separates {expr : Expr} (spelled : expr.Spelled) {tail : List Char}
    (separates : Separates tail) : Spells expr.display.toList expr.kinds tail :=
  spelled tail separates.endsWord fun _ => separates

theorem Spelled.mark {expr : Expr} (spelled : expr.Spelled) {mark : Char} {rest : List Char}
    (isMark : mark ∈ [' ', ',', ')', '[', ']']) :
    Spells expr.display.toList expr.kinds (mark :: rest) :=
  spelled.separates (separates_mark isMark rest)

theorem spelled_number {value : Float} {span : Span} (shown : (Expr.number value span).Shown) :
    (Expr.number value span).Spelled := by
  intro tail _ separates
  obtain ⟨unsigned, number, finite, read⟩ := shown _ List.mem_cons_self
  obtain ⟨whole, fraction, same, plain⟩ := Numeral.text_isPlain number finite unsigned
  rw [same] at read
  rw [display, kinds, same]
  exact spells_number plain read (separates rfl)

theorem spelled_boolean (value : Bool) (span : Span) : (Expr.boolean value span).Spelled := by
  intro tail ends _
  rw [display, kinds]
  cases value with
  | true => exact @spells_word _ 't' ['r', 'u', 'e'] rfl rfl (List.all_eq_true.mp rfl) ends
  | false => exact @spells_word _ 'f' ['a', 'l', 's', 'e'] rfl rfl (List.all_eq_true.mp rfl) ends

theorem spelled_member {object : Expr} {word : String} {span : Span}
    (shown : (Expr.member object word span).Shown) (spelled : object.Spelled) :
    (Expr.member object word span).Spelled := by
  intro tail ends _
  obtain ⟨⟨_, isWord⟩, noNumber⟩ := shown _ List.mem_cons_self
  have own := isWord.spells ends
  rw [String.ofList_toList] at own
  have text : (Expr.member object word span).display.toList =
      object.display.toList ++ '.' :: word.toList := by simp
  rw [text, kinds]
  refine .append (spelled _ (endsWord_mark (by decide) _) ?_) (.mark rfl own)
  rw [show object.isNumber = false from noNumber]
  exact nofun

theorem spelled_history {series offset : Expr} {site : Nat} {span : Span}
    (seriesSpelled : series.Spelled) (offsetSpelled : offset.Spelled) :
    (Expr.history series offset site span).Spelled := by
  intro tail _ _
  have text : (Expr.history series offset site span).display.toList =
      series.display.toList ++ '[' :: (offset.display.toList ++ [']']) := by simp
  rw [text, kinds]
  refine .append (seriesSpelled.mark (by decide)) (.mark rfl ?_)
  exact .append (offsetSpelled.mark (by decide)) (spells_mark rfl)

theorem spelled_unary {op : UnaryOp} {operand : Expr} {span : Span} (spelled : operand.Spelled) :
    (Expr.unary op operand span).Spelled := by
  intro tail _ _
  have inner : Spells (operand.display.toList ++ [')']) (operand.kinds ++ [.rightParen]) tail :=
    .append (spelled.mark (by decide)) (spells_mark rfl)
  cases op with
  | negate =>
    have text : (Expr.unary .negate operand span).display.toList =
        '(' :: '-' :: (operand.display.toList ++ [')']) := by simp
    rw [text, kinds]
    exact .mark rfl (.mark rfl inner)
  | logicalNot =>
    have text : (Expr.unary .logicalNot operand span).display.toList =
        '(' :: (['n', 'o', 't'] ++ ' ' :: (operand.display.toList ++ [')'])) := by simp
    have word (rest : List Char) : Spells ['n', 'o', 't'] [.notWord] (' ' :: rest) :=
      @spells_word _ 'n' ['o', 't'] rfl rfl (List.all_eq_true.mp rfl)
        (separates_mark (by decide) rest).endsWord
    rw [text, kinds]
    exact .mark rfl (.append (word _) inner.blank)

theorem spelled_binary {left right : Expr} {op : BinaryOp} {span : Span}
    (leftSpelled : left.Spelled) (rightSpelled : right.Spelled) :
    (Expr.binary left op right span).Spelled := by
  intro tail _ _
  have text : (Expr.binary left op right span).display.toList =
      '(' :: (left.display.toList ++ ' ' :: (op.symbol.toList ++ ' ' ::
        (right.display.toList ++ [')']))) := by simp
  rw [text, kinds]
  refine .mark rfl (.append (leftSpelled.mark (by decide)) (.blank ?_))
  refine .append op.spells_symbol (.blank ?_)
  exact .append (rightSpelled.mark (by decide)) (spells_mark rfl)

theorem spelled_ternary {condition whenTrue whenFalse : Expr} {span : Span}
    (conditionSpelled : condition.Spelled) (trueSpelled : whenTrue.Spelled)
    (falseSpelled : whenFalse.Spelled) :
    (Expr.ternary condition whenTrue whenFalse span).Spelled := by
  intro tail _ _
  have text : (Expr.ternary condition whenTrue whenFalse span).display.toList =
      '(' :: (condition.display.toList ++ ' ' :: '?' :: ' ' :: (whenTrue.display.toList ++
        ' ' :: ([':'] ++ ' ' :: (whenFalse.display.toList ++ [')'])))) := by simp
  rw [text, kinds]
  refine .mark rfl (.append (conditionSpelled.mark (by decide)) (.blank (.mark rfl (.blank ?_))))
  refine .append (trueSpelled.mark (by decide)) (.blank (.append spells_colon (.blank ?_)))
  exact .append (falseSpelled.mark (by decide)) (spells_mark rfl)

end Expr

/-- What stands behind the name of an argument begins with no second equals sign. -/
theorem NamedArgument.spells {argument : NamedArgument} (isWord : IsWord argument.name.toList)
    (shown : argument.value.Shown) (spelled : argument.value.Spelled) {tail : List Char}
    (separates : Separates tail) : Spells argument.display.toList argument.kinds tail := by
  obtain ⟨word, value, span⟩ := argument
  have own : Spells word.toList [.identifier word] (['='] ++ value.display.toList ++ tail) := by
    have known := isWord.spells (endsWord_mark (by decide : '=' ∈ _) (value.display.toList ++ tail))
    rwa [String.ofList_toList] at known
  have sign : Spells ['='] [.assign] (value.display.toList ++ tail) := by
    obtain ⟨first, rest, same, other⟩ := shown.starts
    rw [show value.display.toList = first :: rest from same]
    exact spells_assign other
  have text : (NamedArgument.mk word value span).display.toList =
      word.toList ++ (['='] ++ value.display.toList) := by simp
  rw [text, kinds]
  exact .append own (.append sign (spelled.separates separates))

namespace Expr

theorem spelled_call {function : String} {site : Nat} {arguments : List Expr}
    {named : List NamedArgument} {span : Span}
    (shown : (Expr.call (.mk function site arguments named) span).Shown)
    (argumentsSpelled : ∀ argument ∈ arguments, argument.Spelled)
    (namedSpelled : ∀ argument ∈ named, argument.value.Spelled) :
    (Expr.call (.mk function site arguments named) span).Spelled := by
  intro tail _ _
  obtain ⟨⟨⟨isPath, words, _⟩, _⟩, _, namedShown⟩ := forall_parts_call.mp shown
  have parted (rest : List Char) : Spells [',', ' '] [.comma] rest := .mark rfl spells_blank
  have list := @spells_intercalate (')' :: tail) Separates _ _ parted
    (fun rest => separates_mark (by decide) (' ' :: rest)) (separates_mark (by decide) tail)
    (arguments.map (fun argument => (argument.display.toList, argument.kinds)) ++
      named.map (fun argument => (argument.display.toList, argument.kinds))) ?_
  · have text : (Expr.call (.mk function site arguments named) span).display.toList =
        function.toList ++ '(' :: ([',', ' '].intercalate
          (arguments.map (·.display.toList) ++ named.map (·.display.toList)) ++ [')']) := by
      simp [displayAll_eq_map, NamedArgument.displayAll_eq_map,
        String.toList_intercalate, Function.comp_def]
    simp only [List.map_append, List.map_map, Function.comp_def] at list
    rw [text, kinds, Call.kinds, kindsOfAll_eq_map, NamedArgument.kindsOfAll_eq_map]
    refine .append (isPath.spells (endsWord_mark (by decide) _)) (.mark rfl ?_)
    exact .append list (spells_mark rfl)
  · refine List.forall_mem_append.mpr ⟨List.forall_mem_map.mpr ?_, List.forall_mem_map.mpr ?_⟩
    · exact fun argument member rest => (argumentsSpelled argument member).separates
    · intro argument member rest
      exact argument.spells (words argument member) (namedShown argument member)
        (namedSpelled argument member)

theorem Shown.spelled {expr : Expr} (shown : expr.Shown) : expr.Spelled := by
  induction expr with
  | number => exact spelled_number shown
  | string =>
    exact fun _ _ _ => Text.spells_quoted _
  | boolean => exact spelled_boolean _ _
  | color => exact (shown _ List.mem_cons_self).2.elim
  | name => exact fun tail ends _ => (shown _ List.mem_cons_self).1.spells ends
  | member object word span known =>
    exact spelled_member shown (known (forall_parts_member.mp shown).2)
  | history series offset site span known knownOffset =>
    obtain ⟨_, first, second⟩ := forall_parts_history.mp shown
    exact spelled_history (known first) (knownOffset second)
  | unary op operand span known => exact spelled_unary (known (forall_parts_unary.mp shown).2)
  | binary left op right span known knownRight =>
    obtain ⟨_, first, second⟩ := forall_parts_binary.mp shown
    exact spelled_binary (known first) (knownRight second)
  | ternary condition whenTrue whenFalse span known knownTrue knownFalse =>
    obtain ⟨_, first, second, third⟩ := forall_parts_ternary.mp shown
    exact spelled_ternary (known first) (knownTrue second) (knownFalse third)
  | call function site arguments named span known knownNamed =>
    obtain ⟨_, passed, passedNamed⟩ := forall_parts_call.mp shown
    exact spelled_call shown (fun argument member => known argument member (passed argument member))
      fun argument member => knownNamed argument member (passedNamed argument member)

end Expr

end ChartScript
