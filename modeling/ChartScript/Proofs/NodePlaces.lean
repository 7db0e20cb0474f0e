import ChartScript.Proofs.LegibleSyntax
import ChartScript.Proofs.ParserProgress
import ChartScript.Proofs.TokenPlaces

/-!
# Where nodes stand

Each node of a parsed program has the span of one token, the one that defines it. The text of that
token stands in the source where the span says, and shows the node: a literal, the first word of a
name, an operator, the name of an argument, or the start of a statement.
-/

set_option autoImplicit false

namespace ChartScript

/-- The only way to write a token of a kind. -/
def TokenKind.spelling? : TokenKind → Option String
  | .number _ | .string _ | .color _ => none
  | .boolean value => some (toString value)
  | .identifier name => some name
  | .ifWord => some "if"
  | .elseWord => some "else"
  | .andWord => some "and"
  | .orWord => some "or"
  | .notWord => some "not"
  | .plus => some "+"
  | .minus => some "-"
  | .star => some "*"
  | .slash => some "/"
  | .percent => some "%"
  | .assign => some "="
  | .reassign => some ":="
  | .equal => some "=="
  | .notEqual => some "!="
  | .greater => some ">"
  | .greaterEqual => some ">="
  | .less => some "<"
  | .lessEqual => some "<="
  | .question => some "?"
  | .colon => some ":"
  | .comma => some ","
  | .dot => some "."
  | .leftParen => some "("
  | .rightParen => some ")"
  | .leftBracket => some "["
  | .rightBracket => some "]"
  | .newline => some "\n"
  | .versionComment comment => some comment
  | .endOfInput => some ""

/-- A token of this kind can have this text. -/
def TokenKind.Spelled (kind : TokenKind) (text : String) : Prop :=
  match kind with
  | .number value => Numeral.readFloat? text.toList = some value
  | .string raw => ∃ quote ∈ ['"', '\''], text.toList = quote :: (raw.toList ++ [quote])
  | .color value => ∃ digits, text.toList = '#' :: digits ∧ Color.ofHex? digits = some value
  | kind => kind.spelling? = some text

namespace TokenKind

theorem Spelled.text_eq {kind : TokenKind} {text spelling : String} (spelled : kind.Spelled text)
    (known : kind.spelling? = some spelling) : text = spelling := by
  cases kind with
  | number | string | color => cases known
  | _ => exact Option.some.inj (spelled.symm.trans known)

theorem spelling_binaryOp {kind : TokenKind} {op : BinaryOp} {precedence : Nat}
    (isOp : kind.binaryOp? = some (op, precedence)) : kind.spelling? = some op.symbol := by
  cases kind <;> cases isOp <;> rfl

theorem spelling_unaryOp {kind : TokenKind} {op : UnaryOp} (isOp : kind.unaryOp? = some op) :
    kind.spelling? = some op.symbol := by
  cases kind <;> cases isOp <;> rfl

theorem spelled_ofWord (word : String) : (ofWord word).Spelled word := by
  unfold ofWord
  split <;> rfl

end TokenKind

namespace Lexer

theorem take_closingQuote {quote : Char} {characters : List Char} {length : Nat}
    (closed : closingQuote quote characters = some length) :
    characters.take (length + 1) = characters.take length ++ [quote] := by
  fun_induction closingQuote quote characters generalizing length with
  | case1 | case3 | case4 | case5 => cases closed
  | case2 rest =>
    cases closed
    rfl
  | case6 escaped rest _ _ _ ih =>
    obtain ⟨inner, known, rfl⟩ := Option.map_eq_some_iff.mp closed
    simp only [List.take_succ_cons, List.cons_append, ih known]
  | case7 character rest _ _ _ ih =>
    obtain ⟨inner, known, rfl⟩ := Option.map_eq_some_iff.mp closed
    simp only [List.take_succ_cons, List.cons_append, ih known]

theorem spelled_withEquals {paired single kind : TokenKind} {first : Char} {rest : List Char}
    {further : Nat}
    (read : (.ok (withEquals paired single rest) : Except LexicalCause (TokenKind × Nat)) =
      .ok (kind, further))
    (isPaired : paired.Spelled (String.ofList [first, '=']))
    (isSingle : single.Spelled (String.ofList [first])) :
    kind.Spelled (String.ofList (first :: rest.take further)) := by
  unfold withEquals at read
  split at read <;> cases read
  · exact isPaired
  · exact isSingle

theorem take_length_takeWhile (accepts : Char → Bool) (rest : List Char) :
    rest.take (rest.takeWhile accepts).length = rest.takeWhile accepts :=
  (List.prefix_iff_eq_take.mp (List.takeWhile_prefix accepts)).symm

theorem cons_take_numberText {first : Char} (rest : List Char) (digit : first.isDigit = true) :
    first :: rest.take ((numberText (first :: rest)).length - 1) = numberText (first :: rest) := by
  have front := List.prefix_iff_eq_take.mp (numberText_front (first :: rest))
  have nonempty : 0 < (numberText (first :: rest)).length := by
    simp [numberText, List.takeWhile_cons_of_pos digit]
  obtain ⟨further, length⟩ := Nat.exists_eq_succ_of_ne_zero (Nat.ne_of_gt nonempty)
  rw [length] at front ⊢
  rw [front]
  rfl

theorem spelled_lexeme {first : Char} {rest : List Char} {kind : TokenKind} {further : Nat}
    (read : lexeme first rest = .ok (kind, further)) :
    kind.Spelled (String.ofList (first :: rest.take further)) := by
  unfold lexeme at read
  simp only at read
  split at read
  case isTrue quote =>
    split at read
    case h_1 length closed =>
      cases read
      refine ⟨first, by simpa using quote, ?_⟩
      rw [String.toList_ofList, String.toList_ofList, take_closingQuote closed]
    case h_2 => cases read
  split at read
  case isTrue hash =>
    split at read
    case h_1 color known =>
      cases read
      refine ⟨_, ?_, known⟩
      rw [String.toList_ofList, take_length_takeWhile, hash]
    case h_2 => cases read
  split at read
  case isTrue digit =>
    split at read
    case h_1 value known =>
      cases read
      show Numeral.readFloat? (String.toList (String.ofList _)) = some value
      rw [String.toList_ofList, cons_take_numberText rest digit]
      exact known
    case h_2 => cases read
  split at read
  case isTrue starts =>
    cases read
    rw [take_length_takeWhile]
    exact TokenKind.spelled_ofWord _
  split at read
  case h_13 | h_14 | h_15 | h_16 => exact spelled_withEquals read rfl rfl
  case h_17 =>
    split at read <;> cases read
    rfl
  case h_18 => cases read
  all_goals
    cases read
    rfl

theorem Scanner.Scans.spelled {scanner final : Scanner} {read : List Token}
    (scans : Scans scanner read final) : ∀ token ∈ read, token.kind.Spelled token.text := by
  induction scans with
  | done => exact nofun
  | step first _ ih =>
    refine List.forall_mem_append.mpr ⟨?_, ih⟩
    cases first with
    | blank | hiddenBreak | comment => exact nofun
    | newline | version => exact List.forall_mem_singleton.mpr rfl
    | lexeme _ _ _ _ read => exact List.forall_mem_singleton.mpr (spelled_lexeme read)

end Lexer

/-- The token is one of the tokens of a source, and its text stands there where its span says. -/
structure Token.StandsIn (token : Token) (source : String) : Prop where
  read : ∃ tokens, tokenize source = .ok tokens ∧ token ∈ tokens
  place : ∃ before after, source.toList = before ++ (token.text.toList ++ after) ∧
    token.StandsBehind before

/-- The span is that of a token with this text. -/
def Span.Shows (span : Span) (source text : String) : Prop :=
  ∃ token : Token, token.StandsIn source ∧ token.span = span ∧ token.text = text

def firstWord (path : String) : String :=
  String.ofList (path.toList.takeWhile (· ≠ '.'))

/-- The span of the expression itself, without what is within it, shows the expression. -/
def Expr.PointsAt (source : String) : Expr → Prop
  | .number value span => ∃ text, span.Shows source text ∧
    Numeral.readFloat? text.toList = some value
  | .string value span => ∃ text, span.Shows source text ∧ ∃ quote ∈ ['"', '\''], ∃ raw,
    text.toList = quote :: (raw ++ [quote]) ∧ value = String.ofList (unescape raw)
  | .boolean value span => span.Shows source (toString value)
  | .color value span => ∃ text, span.Shows source text ∧
    ∃ digits, text.toList = '#' :: digits ∧ Color.ofHex? digits = some value
  | .name path span => span.Shows source (firstWord path)
  | .member _ word span => span.Shows source word
  | .history _ _ _ span => span.Shows source "["
  | .unary op _ span => span.Shows source op.symbol
  | .binary _ op _ span => span.Shows source op.symbol
  | .ternary _ _ _ span => span.Shows source "?"
  | .call passed span => span.Shows source (firstWord passed.function) ∧
    ∀ argument ∈ passed.named, argument.span.Shows source argument.name

def Statement.nested : Statement → List Statement
  | .assign name value span => [.assign name value span]
  | .expression value span => [.expression value span]
  | .ifThen condition thenBranch span => .ifThen condition thenBranch span :: thenBranch.nested
  | .ifThenElse condition thenBranch elseBranch span =>
    .ifThenElse condition thenBranch elseBranch span :: (thenBranch.nested ++ elseBranch.nested)

/-- The statement is what the parser makes of some tokens of a source, which are its own. -/
def Statement.IsReadFrom (source : String) (own : List Token) (statement : Statement) : Prop :=
  ∃ front others finish site nextSite fewer,
    tokenize source = .ok (front ++ own ++ others ++ [finish]) ∧
    Cursor.statement ⟨own ++ others, finish, site⟩ =
      .ok ⟨statement, ⟨others, finish, nextSite⟩, fewer⟩

/-- The first of the statement's own tokens can have this text. -/
def Statement.StartsWith (text : String) : Statement → Prop
  | .assign name _ _ => text = name
  | .expression _ _ => True
  | .ifThen _ _ _ => text = "if"
  | .ifThenElse _ _ _ _ => text = "if"

/-- The span of the statement itself is that of the first of its own tokens. -/
def Statement.PointsAt (source : String) (statement : Statement) : Prop :=
  ∃ first others, statement.IsReadFrom source (first :: others) ∧ first.StandsIn source ∧
    statement.span = first.span ∧ statement.StartsWith first.text

def DeclarationKind.word : DeclarationKind → String
  | .indicator => "indicator"
  | .strategy => "strategy"

theorem DeclarationKind.word_of_ofName? {name : String} {kind : DeclarationKind}
    (isWord : DeclarationKind.ofName? name = some kind) : name = kind.word := by
  unfold DeclarationKind.ofName? at isWord
  split at isWord <;> cases isWord <;> rfl

/-- Every node of the program points at the token that defines it. -/
structure Program.PointsAt (source : String) (program : Program) : Prop where
  expressions : ∀ part ∈ program.parts, part.PointsAt source
  statements : ∀ statement ∈ program.statements.flatMap Statement.nested,
    statement.PointsAt source
  declaration : ∀ declaration ∈ program.declaration,
    declaration.span.Shows source declaration.kind.word
  declared : ∀ declaration ∈ program.declaration, ∀ argument ∈ declaration.call.named,
    argument.span.Shows source argument.name

/-! ## Tokens of a source -/

section Source

variable {source : String}

structure Token.IsOf (source : String) (token : Token) : Prop where
  stands : token.StandsIn source
  spelled : token.kind.Spelled token.text
  legible : token.kind.IsLegible

namespace Token.IsOf

variable {token : Token}

theorem shows_text (isOf : token.IsOf source) : token.span.Shows source token.text :=
  ⟨token, isOf.stands, rfl, rfl⟩

theorem shows (isOf : token.IsOf source) {spelling : String}
    (known : token.kind.spelling? = some spelling) : token.span.Shows source spelling :=
  isOf.spelled.text_eq known ▸ isOf.shows_text

theorem shows_name (isOf : token.IsOf source) {name : String}
    (isName : token.kind = .identifier name) : token.span.Shows source name :=
  isOf.shows (by rw [isName]; rfl)

end Token.IsOf

theorem firstWord_of_isWord {name : String} (isWord : Lexer.IsWord name.toList) :
    firstWord name = name := by
  have unpointed : ∀ character ∈ name.toList, decide (character ≠ '.') = true := by
    intro character member
    refine decide_eq_true fun point => ?_
    have continues := isWord.continues character member
    rw [point] at continues
    cases continues
  rw [firstWord, List.takeWhile_eq_self_iff.mpr unpointed, String.ofList_toList]

theorem firstWord_append (path name : String) :
    firstWord (path ++ "." ++ name) = firstWord path := by
  simp only [firstWord, String.toList_append, List.append_assoc, List.takeWhile_append]
  split
  case isTrue all =>
    have whole := (List.takeWhile_prefix (· ≠ '.')).eq_of_length all
    rw [whole]
    simp
  case isFalse => rfl

theorem Token.pointsAt_literal {token : Token} {value : Expr} (isOf : token.IsOf source)
    (literal : token.literal? = some value) : ∀ part ∈ value.parts, part.PointsAt source := by
  have shows := isOf.shows_text
  have spelled := isOf.spelled
  obtain ⟨kind, text, span⟩ := token
  unfold Token.literal? at literal
  cases kind with
  | number number =>
    cases literal
    exact List.forall_mem_singleton.mpr ⟨text, shows, spelled⟩
  | string raw =>
    cases literal
    obtain ⟨quote, isQuote, written⟩ := spelled
    exact List.forall_mem_singleton.mpr ⟨text, shows, quote, isQuote, raw.toList, written, rfl⟩
  | color color =>
    cases literal
    exact List.forall_mem_singleton.mpr ⟨text, shows, spelled⟩
  | boolean boolean =>
    cases literal
    have shows : span.Shows source (toString boolean) := isOf.shows rfl
    exact List.forall_mem_singleton.mpr shows
  | _ => cases literal

theorem tokenize_isOf {tokens : List Token} (scanned : tokenize source = .ok tokens) :
    ∀ token ∈ tokens, token.IsOf source := by
  intro token member
  obtain ⟨read, final, scans, ended, rfl⟩ := Lexer.Scanner.of_tokens_ok scanned
  have start : (Lexer.Scanner.start source).StandsBehind [] := ⟨rfl, fun _ _ _ _ => rfl⟩
  have place := (scans.covers ended start).texts token member
  refine ⟨⟨⟨_, scanned, member⟩, place⟩, ?_, ?_⟩
  all_goals
    rcases List.mem_append.mp member with among | last
  · exact scans.spelled token among
  · cases List.mem_singleton.mp last
    rfl
  · exact scans.legible token among
  · cases List.mem_singleton.mp last
    trivial

namespace Cursor

def StandsIn (source : String) (cursor : Cursor) : Prop :=
  ∃ tokens, tokenize source = .ok tokens ∧ cursor.ahead <:+ tokens

variable {start next final : Cursor} {token : Token}

theorem StandsIn.behind (stands : start.StandsIn source) (behind : start.Behind next) :
    next.StandsIn source := by
  obtain ⟨tokens, scanned, suffix⟩ := stands
  exact ⟨tokens, scanned, List.IsSuffix.trans behind suffix⟩

theorem StandsIn.current (stands : start.StandsIn source) : start.current.IsOf source := by
  obtain ⟨tokens, scanned, suffix⟩ := stands
  exact tokenize_isOf scanned _ (suffix.subset start.current_mem_ahead)

theorem StandsIn.takes (stands : start.StandsIn source) (taken : start.Takes token next) :
    token.IsOf source ∧ next.StandsIn source :=
  ⟨taken.current ▸ stands.current, stands.behind taken.behind⟩

theorem Balanced.behind (balanced : Balanced start final) (same : final.finish = start.finish) :
    start.Behind final := by
  obtain ⟨read, split, _⟩ := balanced
  refine ⟨read, ?_⟩
  rw [ahead, ahead, split, same, List.append_assoc]

theorem Derives.behind {production : Production} (derived : Derives start production final) :
    start.Behind final :=
  derived.balanced.behind derived.finish

theorem DerivesStatement.behind {statement : Statement}
    (derived : DerivesStatement start statement final) : start.Behind final :=
  derived.balanced.behind derived.finish

theorem Ends.behind (ended : start.Ends next) : start.Behind next := by
  cases ended with
  | newline taken _ => exact taken.behind
  | finished _ => exact .refl start

/-! ## Expressions and statements -/

structure ArgumentList.PointsAt (source : String) (list : ArgumentList) : Prop where
  positional : ∀ argument ∈ list.positional, ∀ part ∈ argument.parts, part.PointsAt source
  named : ∀ argument ∈ list.named, ∀ part ∈ argument.value.parts, part.PointsAt source
  names : ∀ argument ∈ list.named, argument.span.Shows source argument.name

theorem ArgumentList.PointsAt.addPositional {list : ArgumentList} {value : Expr}
    (before : list.PointsAt source) (points : ∀ part ∈ value.parts, part.PointsAt source) :
    (list.addPositional value).PointsAt source where
  positional := List.forall_mem_append.mpr
    ⟨before.positional, List.forall_mem_singleton.mpr points⟩
  named := before.named
  names := before.names

theorem ArgumentList.PointsAt.addNamed {list : ArgumentList} {name : String} {value : Expr}
    {span : Span} (before : list.PointsAt source)
    (points : ∀ part ∈ value.parts, part.PointsAt source) (shows : span.Shows source name) :
    (list.addNamed (.mk name value span)).PointsAt source where
  positional := before.positional
  named := List.forall_mem_append.mpr ⟨before.named, List.forall_mem_singleton.mpr points⟩
  names := List.forall_mem_append.mpr ⟨before.names, List.forall_mem_singleton.mpr shows⟩

/-- What a production was given points at tokens. -/
def Production.GivenPoints (source : String) : Production → Prop
  | .operators _ left _ => ∀ part ∈ left.parts, part.PointsAt source
  | .suffixes operand _ => ∀ part ∈ operand.parts, part.PointsAt source
  | .nameOrCall path span _ => span.Shows source (firstWord path)
  | .argumentList before _ => before.PointsAt source
  | .argument before _ => before.PointsAt source
  | _ => True

/-- What a production yields points at tokens, a call where its name does. -/
def Production.Points (source : String) : Production → Prop
  | .expression value => ∀ part ∈ value.parts, part.PointsAt source
  | .binary _ value => ∀ part ∈ value.parts, part.PointsAt source
  | .operators _ _ value => ∀ part ∈ value.parts, part.PointsAt source
  | .unary value => ∀ part ∈ value.parts, part.PointsAt source
  | .primary value => ∀ part ∈ value.parts, part.PointsAt source
  | .suffixes _ value => ∀ part ∈ value.parts, part.PointsAt source
  | .nameOrCall _ _ value => ∀ part ∈ value.parts, part.PointsAt source
  | .callArguments function call => ∀ span : Span, span.Shows source (firstWord function) →
    ∀ part ∈ (Expr.call call span).parts, part.PointsAt source
  | .argumentList _ after => after.PointsAt source
  | .argument _ after => after.PointsAt source

theorem Derives.points {production : Production} (derived : Derives start production final)
    (stands : start.StandsIn source) (given : production.GivenPoints source) :
    production.Points source := by
  induction derived with
  | choice first marked isMark second parted _ _ conditionPoints truePoints falsePoints =>
    obtain ⟨mark, atMark⟩ := (stands.behind first.behind).takes marked
    have atColon := ((atMark.behind second.behind).takes parted).2
    exact Expr.forall_parts_ternary.mpr ⟨mark.shows (by rw [isMark]; rfl),
      conditionPoints stands trivial, truePoints atMark trivial, falsePoints atColon trivial⟩
  | operation _ _ known => exact known stands trivial
  | operands first _ leftPoints known =>
    exact known (stands.behind first.behind) (leftPoints stands trivial)
  | operator taken isOp _ second _ rightPoints known =>
    obtain ⟨op, atOp⟩ := stands.takes taken
    exact known (atOp.behind second.behind) (Expr.forall_parts_binary.mpr
      ⟨op.shows (TokenKind.spelling_binaryOp isOp), given, rightPoints atOp trivial⟩)
  | noOperator | noSuffix | noArgument => exact given
  | unaryOperator taken isOp _ known =>
    obtain ⟨op, atOp⟩ := stands.takes taken
    exact Expr.forall_parts_unary.mpr
      ⟨op.shows (TokenKind.spelling_unaryOp isOp), known atOp trivial⟩
  | operand _ first _ headPoints known =>
    exact known (stands.behind first.behind) (headPoints stands trivial)
  | literal taken isLiteral => exact Token.pointsAt_literal (stands.takes taken).1 isLiteral
  | @named _ _ _ token name _ taken isName _ known =>
    obtain ⟨isOf, after⟩ := stands.takes taken
    have isWord := isOf.legible
    rw [isName] at isWord
    have shows : token.span.Shows source (firstWord name) :=
      (firstWord_of_isWord isWord).symm ▸ isOf.shows_name isName
    exact known after shows
  | parenthesised opened _ _ _ _ known => exact known (stands.takes opened).2 trivial
  | @longerName _ _ _ _ _ _ _ path name span _ _ dotted _ taken _ first _ longerPoints known =>
    have after := ((stands.takes dotted).2.takes taken).2
    have shows : span.Shows source (firstWord path) := given _ List.mem_cons_self
    rw [← firstWord_append path name] at shows
    exact known (after.behind first.behind) (longerPoints after shows)
  | member _ dotted _ taken isName _ _ known =>
    obtain ⟨word, after⟩ := (stands.takes dotted).2.takes taken
    exact known after (Expr.forall_parts_member.mpr ⟨word.shows_name isName, given⟩)
  | history opened isOpening inner closed _ _ offsetPoints known =>
    obtain ⟨bracket, inside⟩ := stands.takes opened
    have after := ((inside.behind inner.behind).takes closed).2
    exact known after (Expr.forall_parts_history.mpr
      ⟨bracket.shows (by rw [isOpening]; rfl), given, offsetPoints inside trivial⟩)
  | uncalled _ => exact List.forall_mem_singleton.mpr given
  | called _ known => exact known stands trivial _ given
  | callArguments opened _ _ _ _ known =>
    have inside := (stands.takes opened).2
    have list : ArgumentList.PointsAt source _ := known inside ⟨nofun, nofun, nofun⟩
    exact fun span shows =>
      Expr.forall_parts_call.mpr ⟨⟨shows, list.names⟩, list.positional, list.named⟩
  | lastArgument _ _ _ known => exact known stands given
  | moreArguments _ first parted _ _ firstPoints known =>
    exact known ((stands.behind first.behind).takes parted).2 (firstPoints stands given)
  | namedArgument taken isName assigned _ _ _ known =>
    obtain ⟨word, after⟩ := stands.takes taken
    have points := known (after.takes assigned).2 trivial
    have before : ArgumentList.PointsAt source _ := given
    exact before.addNamed points (word.shows_name isName)
  | positionalArgument _ _ known =>
    have before : ArgumentList.PointsAt source _ := given
    exact before.addPositional (known stands trivial)

theorem DerivesStatement.isReadFrom {statement : Statement}
    (derived : DerivesStatement start statement final) (stands : start.StandsIn source) :
    ∃ others, statement.IsReadFrom source (start.current :: others) := by
  obtain ⟨fewer, runs⟩ := derived.runs
  obtain ⟨read, split, _⟩ := derived.balanced
  have same := derived.finish
  obtain ⟨tokens, scanned, front, rfl⟩ := stands
  obtain ⟨rest, finish, site⟩ := start
  obtain ⟨behind, _, nextSite⟩ := final
  cases same
  cases split
  cases read with
  | nil => exact absurd fewer (Nat.lt_irrefl _)
  | cons first others =>
    refine ⟨others, front, behind, finish, site, nextSite, fewer, ?_, runs⟩
    rw [scanned, List.append_assoc front, List.append_assoc front]
    rfl

theorem DerivesStatement.pointsAt {statement : Statement}
    (derived : DerivesStatement start statement final) (stands : start.StandsIn source) :
    statement.PointsAt source := by
  obtain ⟨others, isReadFrom⟩ := derived.isReadFrom stands
  have isOf := stands.current
  refine ⟨start.current, others, isReadFrom, isOf.stands, ?_⟩
  have spelled := isOf.spelled
  cases derived with
  | ifThenElse taken isIf | ifThen taken isIf =>
    rw [taken.current] at spelled ⊢
    exact ⟨rfl, spelled.text_eq (by rw [isIf]; rfl)⟩
  | assign taken isName =>
    rw [taken.current] at spelled ⊢
    exact ⟨rfl, spelled.text_eq (by rw [isName]; rfl)⟩
  | expression => exact ⟨rfl, trivial⟩

theorem DerivesStatement.points {statement : Statement}
    (derived : DerivesStatement start statement final) (stands : start.StandsIn source) :
    (∀ part ∈ statement.parts, part.PointsAt source) ∧
      ∀ within ∈ statement.nested, within.PointsAt source := by
  have here := derived.pointsAt stands
  induction derived with
  | @ifThenElse _ _ afterCondition afterThen afterElse _ _ _ _ _ _ taken _ decided thenPart parted _
      elsePart thenPoints elsePoints =>
    have atIf := (stands.takes taken).2
    have atThen := (atIf.behind decided.behind).behind afterCondition.behind_skipBreaks
    have behindThen := (atThen.behind thenPart.behind).behind afterThen.behind_skipBreaks
    have atElse := (behindThen.takes parted).2.behind afterElse.behind_skipBreaks
    obtain ⟨thenParts, thenNested⟩ := thenPoints atThen (thenPart.pointsAt atThen)
    obtain ⟨elseParts, elseNested⟩ := elsePoints atElse (elsePart.pointsAt atElse)
    constructor
    · refine List.forall_mem_append.mpr ⟨?_, elseParts⟩
      exact List.forall_mem_append.mpr ⟨decided.points atIf trivial, thenParts⟩
    · refine List.forall_mem_cons.mpr ⟨here, ?_⟩
      exact List.forall_mem_append.mpr ⟨thenNested, elseNested⟩
  | @ifThen _ _ afterCondition _ _ _ _ taken _ decided thenPart _ thenPoints =>
    have atIf := (stands.takes taken).2
    have atThen := (atIf.behind decided.behind).behind afterCondition.behind_skipBreaks
    obtain ⟨thenParts, thenNested⟩ := thenPoints atThen (thenPart.pointsAt atThen)
    constructor
    · exact List.forall_mem_append.mpr ⟨decided.points atIf trivial, thenParts⟩
    · exact List.forall_mem_cons.mpr ⟨here, thenNested⟩
  | assign taken _ assigned _ only =>
    have atValue := ((stands.takes taken).2.takes assigned).2
    exact ⟨only.points atValue trivial, List.forall_mem_singleton.mpr here⟩
  | expression _ _ _ only =>
    exact ⟨only.points stands trivial, List.forall_mem_singleton.mpr here⟩

theorem DerivesAll.points {statements : List Statement}
    (derived : DerivesAll start statements final) (stands : start.StandsIn source) :
    (∀ part ∈ statements.flatMap Statement.parts, part.PointsAt source) ∧
      ∀ within ∈ statements.flatMap Statement.nested, within.PointsAt source := by
  induction derived with
  | nil _ => exact ⟨nofun, nofun⟩
  | @cons start _ _ _ _ _ _ first ended _ others =>
    have here := stands.behind start.behind_skipBreaks
    obtain ⟨parts, nested⟩ := first.points here
    obtain ⟨otherParts, otherNested⟩ := others ((here.behind first.behind).behind ended.behind)
    rw [List.flatMap_cons, List.flatMap_cons]
    exact ⟨List.forall_mem_append.mpr ⟨parts, otherParts⟩,
      List.forall_mem_append.mpr ⟨nested, otherNested⟩⟩

theorem DerivesProgram.points {program : Program}
    (derived : DerivesProgram start program.declaration program.statements final)
    (stands : start.StandsIn source) : program.PointsAt source := by
  obtain ⟨version, declaration, statements, siteCount⟩ := program
  have here := stands.behind start.behind_skipBreaks
  cases derived with
  | @declared _ _ _ _ token name kind call _ taken isName isWord called ended others =>
    obtain ⟨word, after⟩ := here.takes taken
    have legible := word.legible
    rw [isName] at legible
    have shows : token.span.Shows source name := word.shows_name isName
    -- The call points where it would with its name as a node.
    have points := called.points after trivial token.span
      ((firstWord_of_isWord legible).symm ▸ shows)
    obtain ⟨⟨_, names⟩, inner⟩ := List.forall_mem_cons.mp points
    obtain ⟨parts, nested⟩ := others.points ((after.behind called.behind).behind ended.behind)
    refine ⟨List.forall_mem_append.mpr ⟨inner, parts⟩, nested, ?_, ?_⟩
    · rintro _ ⟨⟩
      exact DeclarationKind.word_of_ofName? isWord ▸ shows
    · rintro _ ⟨⟩
      exact names
  | undeclared _ only =>
    obtain ⟨parts, nested⟩ := only.points here
    exact ⟨parts, nested, nofun, nofun⟩

end Cursor

/-- Every node of a parsed program has the span of the token that defines it, and the text of that
token stands in the source between the bytes, on the line and in the column of the span. -/
theorem parse_points {program : Program} (parsed : parse source = .ok program) :
    program.PointsAt source := by
  obtain ⟨read, last, final, scans, ended, _, derived, _⟩ := of_parse_ok parsed
  exact derived.points ⟨_, scans.tokens_ok (Lexer.Scanner.tokens_of_end ended), List.suffix_refl _⟩

end Source

/-- A source with a node of every form. -/
def everyFormSource : String :=
  "strategy('S', overlay = true)\nx = -close[1] > 2 and not (high + low).y ? #ff0000 : na\n" ++
    "if x\n  y := ta.sma(close, length = 3) // mean\nelse plot(x)"

theorem parse_points_every_form : ∃ program, parse everyFormSource = .ok program ∧
    program.parts.length = 23 ∧ (program.statements.flatMap Statement.nested).length = 4 ∧
    program.PointsAt everyFormSource := by
  have reads : (parse everyFormSource).toOption.any fun program =>
      program.parts.length = 23 && (program.statements.flatMap Statement.nested).length = 4 := by
    decide +kernel
  obtain ⟨program, parsed, counts⟩ := of_toOption_any reads
  obtain ⟨parts, nested⟩ := Bool.and_eq_true_iff.mp counts
  exact ⟨program, parsed, of_decide_eq_true parts, of_decide_eq_true nested, parse_points parsed⟩

end ChartScript
