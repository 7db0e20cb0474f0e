import ChartScript.Proofs.NextTokens

/-!
# The grammar of expressions

`Derives` says which values a production can read between two cursors, with one rule for each
form of the syntax. What the parser decides by looking at the next token is a condition on its
kind. The parsing functions yield a value exactly where a derivation of it exists.
-/

set_option autoImplicit false

namespace ChartScript

namespace Cursor

/-- What is read: the result of a parsing function, with what the function was given. -/
inductive Production where
  | expression (value : Expr)
  | binary (level : Nat) (value : Expr)
  | operators (level : Nat) (left value : Expr)
  | unary (value : Expr)
  | primary (value : Expr)
  | suffixes (operand value : Expr)
  | nameOrCall (path : String) (span : Span) (value : Expr)
  | callArguments (function : String) (call : Call)
  | argumentList (before after : ArgumentList)
  | argument (before after : ArgumentList)

/-- A production can be read from one cursor up to another. -/
inductive Derives : Cursor → Production → Cursor → Prop
  | choice {start atMark afterMark atColon afterColon final : Cursor} {mark colon : Token}
      {condition whenTrue whenFalse : Expr}
      (first : Derives start (.binary 1 condition) atMark)
      (marked : atMark.Takes mark afterMark) (isMark : mark.kind = .question)
      (second : Derives afterMark (.expression whenTrue) atColon)
      (parted : atColon.Takes colon afterColon) (isColon : colon.kind = .colon)
      (third : Derives afterColon (.expression whenFalse) final) :
      Derives start (.expression (.ternary condition whenTrue whenFalse mark.span)) final
  | operation {start final : Cursor} {value : Expr} (only : Derives start (.binary 1 value) final)
      (unmarked : final.kind ≠ .question) :
      Derives start (.expression value) final
  | operands {start afterLeft final : Cursor} {level : Nat} {left value : Expr}
      (first : Derives start (.unary left) afterLeft)
      (others : Derives afterLeft (.operators level left value) final) :
      Derives start (.binary level value) final
  | operator {start afterOp afterRight final : Cursor} {token : Token} {op : BinaryOp}
      {level precedence : Nat} {left right value : Expr} (taken : start.Takes token afterOp)
      (isOp : token.kind.binaryOp? = some (op, precedence)) (binds : level ≤ precedence)
      (second : Derives afterOp (.binary (precedence + 1) right) afterRight)
      (others : Derives afterRight (.operators level (.binary left op right token.span) value)
        final) :
      Derives start (.operators level left value) final
  | noOperator {start : Cursor} {level : Nat} {left : Expr}
      (looser : ∀ op precedence, start.kind.binaryOp? = some (op, precedence) →
        precedence < level) :
      Derives start (.operators level left left) start
  | unaryOperator {start afterOp final : Cursor} {token : Token} {op : UnaryOp} {operand : Expr}
      (taken : start.Takes token afterOp) (isOp : token.kind.unaryOp? = some op)
      (only : Derives afterOp (.unary operand) final) :
      Derives start (.unary (.unary op operand token.span)) final
  | operand {start afterHead final : Cursor} {head value : Expr}
      (noOp : start.kind.unaryOp? = none) (first : Derives start (.primary head) afterHead)
      (others : Derives afterHead (.suffixes head value) final) :
      Derives start (.unary value) final
  | literal {start final : Cursor} {token : Token} {value : Expr}
      (taken : start.Takes token final) (isLiteral : token.literal? = some value) :
      Derives start (.primary value) final
  | named {start afterName final : Cursor} {token : Token} {name : String} {value : Expr}
      (taken : start.Takes token afterName) (isName : token.kind = .identifier name)
      (others : Derives afterName (.nameOrCall name token.span value) final) :
      Derives start (.primary value) final
  | parenthesised {start inside atEnd final : Cursor} {opening closing : Token} {value : Expr}
      (opened : start.Takes opening inside) (isOpening : opening.kind = .leftParen)
      (inner : Derives inside (.expression value) atEnd)
      (closed : atEnd.Takes closing final) (isClosing : closing.kind = .rightParen) :
      Derives start (.primary value) final
  | longerName {start afterDot afterName afterLonger final : Cursor} {dot token : Token}
      {path name : String} {span : Span} {longer value : Expr}
      (dotted : start.Takes dot afterDot) (isDot : dot.kind = .dot)
      (taken : afterDot.Takes token afterName) (isName : token.kind = .identifier name)
      (first : Derives afterName (.nameOrCall (path ++ "." ++ name) span longer) afterLonger)
      (others : Derives afterLonger (.suffixes longer value) final) :
      Derives start (.suffixes (.name path span) value) final
  | member {start afterDot afterName final : Cursor} {dot token : Token} {name : String}
      {object value : Expr} (unnamed : object.isName = false)
      (dotted : start.Takes dot afterDot) (isDot : dot.kind = .dot)
      (taken : afterDot.Takes token afterName) (isName : token.kind = .identifier name)
      (uncalled : afterName.kind ≠ .leftParen)
      (others : Derives afterName (.suffixes (.member object name token.span) value) final) :
      Derives start (.suffixes object value) final
  | history {start inside atEnd afterEnd final : Cursor} {opening closing : Token}
      {series offset value : Expr}
      (opened : start.Takes opening inside) (isOpening : opening.kind = .leftBracket)
      (inner : Derives inside (.expression offset) atEnd)
      (closed : atEnd.Takes closing afterEnd) (isClosing : closing.kind = .rightBracket)
      (others : Derives afterEnd.takeSite
        (.suffixes (.history series offset afterEnd.nextSite opening.span) value) final) :
      Derives start (.suffixes series value) final
  | noSuffix {start : Cursor} {operand : Expr} (undotted : start.kind ≠ .dot)
      (unopened : start.kind ≠ .leftBracket) :
      Derives start (.suffixes operand operand) start
  | uncalled {start : Cursor} {path : String} {span : Span}
      (unopened : start.kind ≠ .leftParen) :
      Derives start (.nameOrCall path span (.name path span)) start
  | called {start final : Cursor} {path : String} {span : Span} {call : Call}
      (only : Derives start (.callArguments path call) final) :
      Derives start (.nameOrCall path span (.call call span)) final
  | callArguments {start inside atEnd final : Cursor} {opening closing : Token}
      {function : String} {list : ArgumentList}
      (opened : start.Takes opening inside) (isOpening : opening.kind = .leftParen)
      (inner : Derives inside.takeSite (.argumentList .empty list) atEnd)
      (closed : atEnd.Takes closing final) (isClosing : closing.kind = .rightParen) :
      Derives start
        (.callArguments function (.mk function inside.nextSite list.positional list.named)) final
  | noArgument {start : Cursor} {list : ArgumentList}
      (ended : start.kind = .rightParen) :
      Derives start (.argumentList list list) start
  | lastArgument {start final : Cursor} {before after : ArgumentList}
      (unended : start.kind ≠ .rightParen)
      (only : Derives start (.argument before after) final)
      (unparted : final.kind ≠ .comma) :
      Derives start (.argumentList before after) final
  | moreArguments {start atComma afterComma final : Cursor} {comma : Token}
      {before list after : ArgumentList}
      (unended : start.kind ≠ .rightParen)
      (first : Derives start (.argument before list) atComma)
      (parted : atComma.Takes comma afterComma) (isComma : comma.kind = .comma)
      (others : Derives afterComma (.argumentList list after) final) :
      Derives start (.argumentList before after) final
  | namedArgument {start afterName afterSign final : Cursor} {token sign : Token} {name : String}
      {before : ArgumentList} {value : Expr} (taken : start.Takes token afterName)
      (isName : token.kind = .identifier name) (assigned : afterName.Takes sign afterSign)
      (isSign : sign.kind.isAssign = true) (new : before.named.any (·.name = name) = false)
      (only : Derives afterSign (.expression value) final) :
      Derives start (.argument before (before.addNamed (.mk name value token.span))) final
  | positionalArgument {start final : Cursor} {before : ArgumentList} {value : Expr}
      (unnamed : ¬start.StartsName TokenKind.isAssign)
      (only : Derives start (.expression value) final) :
      Derives start (.argument before (before.addPositional value)) final

theorem Derives.finish {start final : Cursor} {production : Production}
    (derived : Derives start production final) : final.finish = start.finish := by
  induction derived with
  | choice _ marked _ _ parted _ _ first second third =>
    rw [third, parted.finish, second, marked.finish, first]
  | operation _ _ only => exact only
  | operands _ _ first others => rw [others, first]
  | operator taken _ _ _ _ second others => rw [others, second, taken.finish]
  | noOperator | noSuffix | uncalled | noArgument => rfl
  | unaryOperator taken _ _ only => rw [only, taken.finish]
  | operand _ _ _ first others => rw [others, first]
  | literal taken _ => exact taken.finish
  | named taken _ _ others => rw [others, taken.finish]
  | parenthesised opened _ _ closed _ inner => rw [closed.finish, inner, opened.finish]
  | longerName dotted _ taken _ _ _ first others =>
    rw [others, first, taken.finish, dotted.finish]
  | member _ dotted _ taken _ _ _ others => rw [others, taken.finish, dotted.finish]
  | history opened _ _ closed _ _ inner others =>
    exact others.trans (closed.finish.trans (inner.trans opened.finish))
  | called _ only => exact only
  | callArguments opened _ _ closed _ inner =>
    exact closed.finish.trans (inner.trans opened.finish)
  | lastArgument _ _ _ only => exact only
  | moreArguments _ _ parted _ _ first others => rw [others, parted.finish, first]
  | namedArgument taken _ assigned _ _ _ only => rw [only, assigned.finish, taken.finish]
  | positionalArgument _ _ only => exact only

/-! ## What is derived is parsed -/

/-- Parses nested expressions as expressions are parsed. -/
abbrev inner (bound : Nat) : Nested bound := fun cursor _ => cursor.expression

/-- What the parsing function of a production makes of a cursor, whatever bound it is given. -/
def Production.Gives (gives : ∀ {α : Type} {bound : Nat}, α → ParseResult α bound → Prop)
    (start : Cursor) : Production → Prop
  | .expression value => gives value start.expression
  | .binary level value => ∀ bound fits,
    gives value (Cursor.binary bound (Cursor.unary bound (inner bound)) level start fits)
  | .operators level left value => ∀ bound fits,
    gives value (Cursor.operators bound (Cursor.unary bound (inner bound)) level left start fits)
  | .unary value => ∀ bound fits, gives value (Cursor.unary bound (inner bound) start fits)
  | .primary value => ∀ bound fits, gives value (Cursor.primary bound (inner bound) start fits)
  | .suffixes operand value => ∀ bound fits,
    gives value (Cursor.suffixes bound (inner bound) operand start fits)
  | .nameOrCall path span value => ∀ bound fits,
    gives value (Cursor.nameOrCall bound (inner bound) path span start fits)
  | .callArguments function call => ∀ bound fits,
    gives call (Cursor.callArguments bound (inner bound) function start fits)
  | .argumentList before after => ∀ bound fits,
    gives after (Cursor.argumentList bound (inner bound) before start fits)
  | .argument before after => ∀ bound fits,
    gives after (Cursor.argument bound (inner bound) before start fits)

/-- The parsing function of a production yields it. -/
def Production.Runs (start final : Cursor) (production : Production) : Prop :=
  production.Gives (fun value result => ∃ lt, result = .ok ⟨value, final, lt⟩) start

/-- What is read first is there for what follows. -/
theorem exists_bind_ok {α β : Type} {bound larger : Nat} {value : α} {whole : β}
    {middle final : Cursor} {result : ParseResult α bound}
    {next : Parsed α bound → ParseResult β larger}
    (read : ∃ lt, result = .ok ⟨value, middle, lt⟩)
    (further : ∀ lt, ∃ lt', next ⟨value, middle, lt⟩ = .ok ⟨whole, final, lt'⟩) :
    ∃ lt, (result >>= next) = .ok ⟨whole, final, lt⟩ := by
  obtain ⟨lt, rfl⟩ := read
  exact further lt

theorem Takes.exists_expect {cursor next : Cursor} {token : Token} {accepts : TokenKind → Bool}
    (taken : cursor.Takes token next) (accepted : accepts token.kind = true) (expected : Expected) :
    ∃ lt, cursor.expect expected accepts = .ok ⟨token.span, next, lt⟩ :=
  ⟨_, taken.expect accepted expected⟩

theorem Derives.runs {start final : Cursor} {production : Production}
    (derived : Derives start production final) : production.Runs start final := by
  induction derived with
  | choice _ marked isMark _ parted isColon _ first second third =>
    show ∃ lt, Cursor.expression _ = _
    unfold Cursor.expression Cursor.ternary
    refine exists_bind_ok (first _ _) fun _ => ?_
    simp only [marked.accept?, isMark]
    refine exists_bind_ok second fun _ => ?_
    refine exists_bind_ok (parted.exists_expect (by rw [isColon]) _) fun _ => ?_
    exact exists_bind_ok third fun _ => ⟨_, rfl⟩
  | operation _ unmarked only =>
    show ∃ lt, Cursor.expression _ = _
    unfold Cursor.expression Cursor.ternary
    refine exists_bind_ok (only _ _) fun _ => ?_
    dsimp only
    rw [accept?_of_false (by split <;> trivial)]
    exact ⟨_, rfl⟩
  | operands _ _ first others =>
    intro bound fits
    unfold Cursor.binary
    refine exists_bind_ok (first bound fits) fun _ => ?_
    exact exists_bind_ok (others bound _) fun _ => ⟨_, rfl⟩
  | operator taken isOp binds _ _ second others =>
    intro bound fits
    rw [operators_of_takes fits taken isOp binds]
    refine exists_bind_ok (second bound _) fun _ => ?_
    exact exists_bind_ok (others bound _) fun _ => ⟨_, rfl⟩
  | noOperator looser =>
    intro bound fits
    exact ⟨_, operators_of_looser fits looser⟩
  | unaryOperator taken isOp _ only =>
    intro bound fits
    rw [unary_of_operator fits taken isOp]
    exact exists_bind_ok (only bound _) fun _ => ⟨_, rfl⟩
  | operand noOp _ _ first others =>
    intro bound fits
    rw [unary_of_operand fits noOp]
    refine exists_bind_ok (first bound fits) fun _ => ?_
    exact exists_bind_ok (others bound _) fun _ => ⟨_, rfl⟩
  | literal taken isLiteral =>
    intro bound fits
    exact ⟨_, primary_of_literal fits taken isLiteral⟩
  | named taken isName _ others =>
    intro bound fits
    rw [primary_of_name fits taken isName]
    exact exists_bind_ok (others bound _) fun _ => ⟨_, rfl⟩
  | parenthesised opened isOpening _ closed isClosing inner =>
    intro bound fits
    rw [primary_of_opening fits opened isOpening]
    refine exists_bind_ok inner fun _ => ?_
    exact exists_bind_ok (closed.exists_expect (by rw [isClosing]) _) fun _ => ⟨_, rfl⟩
  | longerName dotted isDot taken isName _ _ first others =>
    intro bound fits
    rw [suffixes_of_longer fits dotted isDot taken isName]
    refine exists_bind_ok (first bound _) fun _ => ?_
    exact exists_bind_ok (others bound _) fun _ => ⟨_, rfl⟩
  | member unnamed dotted isDot taken isName uncalled _ others =>
    intro bound fits
    rw [suffixes_of_member fits unnamed dotted isDot taken isName uncalled]
    exact exists_bind_ok (others bound _) fun _ => ⟨_, rfl⟩
  | history opened isOpening _ closed isClosing _ inner others =>
    intro bound fits
    rw [suffixes_of_opening fits opened isOpening]
    refine exists_bind_ok inner fun _ => ?_
    refine exists_bind_ok (closed.exists_expect (by rw [isClosing]) _) fun _ => ?_
    exact exists_bind_ok (others bound _) fun _ => ⟨_, rfl⟩
  | noSuffix undotted unopened =>
    intro bound fits
    exact ⟨_, suffixes_of_neither fits undotted unopened⟩
  | uncalled unopened =>
    intro bound fits
    exact ⟨_, nameOrCall_of_uncalled fits unopened⟩
  | called derived only =>
    intro bound fits
    cases derived with
    | callArguments opened isOpening _ _ _ =>
      rw [nameOrCall_of_called fits (opened.kind.trans isOpening)]
      exact exists_bind_ok (only bound fits) fun _ => ⟨_, rfl⟩
  | callArguments opened isOpening _ closed isClosing inner =>
    intro bound fits
    unfold Cursor.callArguments
    refine exists_bind_ok (opened.exists_expect (by rw [isOpening]) _) fun _ => ?_
    refine exists_bind_ok (inner bound _) fun _ => ?_
    exact exists_bind_ok (closed.exists_expect (by rw [isClosing]) _) fun _ => ⟨_, rfl⟩
  | noArgument ended =>
    intro bound fits
    exact ⟨_, argumentList_of_closed fits ended⟩
  | lastArgument unended _ unparted only =>
    intro bound fits
    rw [argumentList_of_unclosed fits unended]
    refine exists_bind_ok (only bound fits) fun _ => ?_
    dsimp only
    rw [accept?_of_false (by split <;> trivial)]
    exact ⟨_, rfl⟩
  | moreArguments unended _ parted isComma _ first others =>
    intro bound fits
    rw [argumentList_of_unclosed fits unended]
    refine exists_bind_ok (first bound fits) fun _ => ?_
    simp only [parted.accept?, isComma]
    exact exists_bind_ok (others bound _) fun _ => ⟨_, rfl⟩
  | namedArgument taken isName assigned isSign new _ only =>
    intro bound fits
    rw [argument_of_named fits taken isName assigned isSign new]
    exact exists_bind_ok only fun _ => ⟨_, rfl⟩
  | positionalArgument unnamed _ only =>
    intro bound fits
    rw [argument_of_unnamed fits unnamed]
    exact exists_bind_ok only fun _ => ⟨_, rfl⟩

/-! ## What is parsed is derived -/

theorem Derives.closed {start final : Cursor} {production : Production}
    (derived : Derives start production final) (closed : start.Closed) : final.Closed :=
  (congrArg Token.kind derived.finish).trans closed

/-- Nested expressions are read by derivations. -/
def NestedDerives (bound : Nat) (nested : Nested bound) : Prop :=
  ∀ start fits value final lt, start.Closed → nested start fits = .ok ⟨value, final, lt⟩ →
    Derives start (.expression value) final

section Nested

variable {bound : Nat} {nested : Nested bound} (nestedDerives : NestedDerives bound nested)

include nestedDerives

theorem of_argument_ok {before after : ArgumentList} {start final : Cursor}
    {fits : start.remaining < bound} {lt : final.remaining < start.remaining}
    (closed : start.Closed)
    (parsed : argument bound nested before start fits = .ok ⟨after, final, lt⟩) :
    Derives start (.argument before after) final := by
  unfold argument at parsed
  split at parsed
  case h_1 name span afterSign afterSign_lt named =>
    obtain ⟨token, afterName, sign, taken, isName, assigned, isSign, rfl⟩ :=
      of_nameBefore?_some named
    split at parsed
    case isTrue => cases parsed
    case isFalse new =>
      obtain ⟨⟨value, next, next_lt⟩, only, parsed⟩ := of_bind_ok parsed
      cases parsed
      exact .namedArgument taken isName assigned isSign (by simpa using new)
        (nestedDerives _ _ _ _ _ (assigned.closed (taken.closed closed)) only)
  case h_2 unnamed =>
    obtain ⟨⟨value, next, next_lt⟩, only, parsed⟩ := of_bind_ok parsed
    cases parsed
    exact .positionalArgument ((nameBefore?_eq_none_iff closed rfl).mp unnamed)
      (nestedDerives _ _ _ _ _ closed only)

theorem of_argumentList_ok {before after : ArgumentList} {start final : Cursor}
    {fits : start.remaining < bound} {lt : final.remaining < start.remaining + 1}
    (closed : start.Closed)
    (parsed : argumentList bound nested before start fits = .ok ⟨after, final, lt⟩) :
    Derives start (.argumentList before after) final := by
  unfold argumentList at parsed
  split at parsed
  case isTrue ended =>
    cases parsed
    refine .noArgument ?_
    simp only [isAt] at ended
    split at ended <;> trivial
  case isFalse unended =>
    have unended : start.kind ≠ .rightParen := fun ended => unended (by simp [isAt, ended])
    obtain ⟨⟨list, afterArgument, argument_lt⟩, first, parsed⟩ := of_bind_ok parsed
    have first := of_argument_ok nestedDerives closed first
    have closedAfter := first.closed closed
    simp only at parsed
    split at parsed
    case h_1 span next next_lt accepted =>
      obtain ⟨comma, parted, isComma, _⟩ := of_accept?_some accepted
      obtain ⟨⟨others, last, last_lt⟩, more, parsed⟩ := of_bind_ok parsed
      cases parsed
      refine .moreArguments unended first parted ?_
        (of_argumentList_ok (parted.closed closedAfter) more)
      split at isComma <;> trivial
    case h_2 nothing =>
      cases parsed
      refine .lastArgument unended first ?_
      have refused := of_accept?_none closedAfter rfl nothing
      intro isComma
      rw [isComma] at refused
      cases refused
termination_by start.remaining

theorem of_callArguments_ok {function : String} {call : Call} {start final : Cursor}
    {fits : start.remaining ≤ bound} {lt : final.remaining < start.remaining}
    (closed : start.Closed)
    (parsed : Cursor.callArguments bound nested function start fits = .ok ⟨call, final, lt⟩) :
    Derives start (.callArguments function call) final := by
  obtain ⟨⟨_, inside, _⟩, opening, parsed⟩ := of_bind_ok parsed
  obtain ⟨token, opened, isOpening, _⟩ := of_expect_ok opening
  obtain ⟨⟨list, atEnd, _⟩, arguments, parsed⟩ := of_bind_ok parsed
  have closedInside : inside.takeSite.Closed := opened.closed closed
  have arguments := of_argumentList_ok nestedDerives closedInside arguments
  obtain ⟨⟨_, next, _⟩, closing, parsed⟩ := of_bind_ok parsed
  obtain ⟨last, shut, isClosing, _⟩ := of_expect_ok closing
  cases parsed
  refine .callArguments opened ?_ arguments shut ?_
  · split at isOpening <;> trivial
  · split at isClosing <;> trivial

theorem of_nameOrCall_ok {path : String} {span : Span} {value : Expr} {start final : Cursor}
    {fits : start.remaining ≤ bound} {lt : final.remaining < start.remaining + 1}
    (closed : start.Closed)
    (parsed : Cursor.nameOrCall bound nested path span start fits = .ok ⟨value, final, lt⟩) :
    Derives start (.nameOrCall path span value) final := by
  unfold Cursor.nameOrCall at parsed
  split at parsed
  case isTrue =>
    obtain ⟨⟨call, next, _⟩, only, parsed⟩ := of_bind_ok parsed
    cases parsed
    exact .called (of_callArguments_ok nestedDerives closed only)
  case isFalse unopened =>
    cases parsed
    exact .uncalled fun opened => unopened (by simp [isAt, opened])

theorem of_primary_ok {value : Expr} {start final : Cursor} {fits : start.remaining ≤ bound}
    {lt : final.remaining < start.remaining} (closed : start.Closed)
    (parsed : Cursor.primary bound nested start fits = .ok ⟨value, final, lt⟩) :
    Derives start (.primary value) final := by
  unfold Cursor.primary at parsed
  split at parsed
  case h_1 => cases parsed
  case h_2 kind span next next_lt selected =>
    obtain ⟨token, taken, chosen, rfl⟩ := of_select?_some selected
    have isKind : token.kind = kind := Option.some.inj chosen
    have literal (shape : Expr) (known : token.literal? = some shape) :
        Derives start (.primary shape) next := .literal taken known
    split at parsed
    case h_1 | h_2 | h_3 | h_4 =>
      cases parsed
      exact literal _ (by rw [Token.literal?, isKind])
    case h_5 name =>
      obtain ⟨⟨value, next, _⟩, others, parsed⟩ := of_bind_ok parsed
      cases parsed
      exact .named taken isKind (of_nameOrCall_ok nestedDerives (taken.closed closed) others)
    case h_6 =>
      obtain ⟨⟨value, atEnd, _⟩, inside, parsed⟩ := of_bind_ok parsed
      obtain ⟨⟨_, after, _⟩, closing, parsed⟩ := of_bind_ok parsed
      obtain ⟨last, shut, isClosing, _⟩ := of_expect_ok closing
      cases parsed
      refine .parenthesised taken isKind
        (nestedDerives _ _ _ _ _ (taken.closed closed) inside) shut ?_
      split at isClosing <;> trivial
    case h_7 => cases parsed

theorem of_suffixes_ok {operand value : Expr} {start final : Cursor}
    {fits : start.remaining ≤ bound} {lt : final.remaining < start.remaining + 1}
    (closed : start.Closed)
    (parsed : Cursor.suffixes bound nested operand start fits = .ok ⟨value, final, lt⟩) :
    Derives start (.suffixes operand value) final := by
  unfold Cursor.suffixes at parsed
  split at parsed
  case h_1 span afterDot afterDot_lt accepted =>
    obtain ⟨dot, dotted, isDot, _⟩ := of_accept?_some accepted
    have isDot : dot.kind = .dot := by split at isDot <;> trivial
    have closedDot := dotted.closed closed
    split at parsed
    case h_1 => cases parsed
    case h_2 name nameSpan next next_lt selected =>
      obtain ⟨token, taken, chosen, rfl⟩ := of_select?_some selected
      have isName := of_identifier?_some chosen
      have closedName := taken.closed closedDot
      split at parsed
      case h_1 path pathSpan =>
        obtain ⟨⟨longer, after, _⟩, first, parsed⟩ := of_bind_ok parsed
        have first := of_nameOrCall_ok nestedDerives closedName first
        obtain ⟨⟨value, last, _⟩, others, parsed⟩ := of_bind_ok parsed
        cases parsed
        exact .longerName dotted isDot taken isName first
          (of_suffixes_ok (first.closed closedName) others)
      case h_2 unnamed =>
        split at parsed
        case isTrue => cases parsed
        case isFalse uncalled =>
          obtain ⟨⟨value, last, _⟩, others, parsed⟩ := of_bind_ok parsed
          cases parsed
          refine .member ?_ dotted isDot taken isName
            (fun opened => uncalled (by simp [isAt, opened]))
            (of_suffixes_ok closedName others)
          unfold Expr.isName
          split
          · exact absurd rfl (unnamed _ _)
          · rfl
  case h_2 undotted =>
    have undotted := of_accept?_none closed rfl undotted
    split at parsed
    case h_1 span inside inside_lt accepted =>
      obtain ⟨opening, opened, isOpening, rfl⟩ := of_accept?_some accepted
      obtain ⟨⟨offset, atEnd, _⟩, nested, parsed⟩ := of_bind_ok parsed
      have nested := nestedDerives _ _ _ _ _ (opened.closed closed) nested
      obtain ⟨⟨_, after, _⟩, closing, parsed⟩ := of_bind_ok parsed
      obtain ⟨last, shut, isClosing, _⟩ := of_expect_ok closing
      have closedAfter : after.takeSite.Closed :=
        shut.closed (nested.closed (opened.closed closed))
      obtain ⟨⟨value, last, _⟩, others, parsed⟩ := of_bind_ok parsed
      cases parsed
      refine .history opened ?_ nested shut ?_ (of_suffixes_ok closedAfter others)
      · split at isOpening <;> trivial
      · split at isClosing <;> trivial
    case h_2 unopened =>
      have unopened := of_accept?_none closed rfl unopened
      cases parsed
      refine .noSuffix ?_ ?_
      · intro isDot
        rw [isDot] at undotted
        cases undotted
      · intro isOpening
        rw [isOpening] at unopened
        cases unopened
termination_by start.remaining
decreasing_by
  all_goals try rw [remaining_takeSite]
  all_goals omega

theorem of_unary_ok {value : Expr} {start final : Cursor} {fits : start.remaining ≤ bound}
    {lt : final.remaining < start.remaining} (closed : start.Closed)
    (parsed : Cursor.unary bound nested start fits = .ok ⟨value, final, lt⟩) :
    Derives start (.unary value) final := by
  unfold Cursor.unary at parsed
  split at parsed
  case h_1 op span next next_lt selected =>
    obtain ⟨token, taken, isOp, rfl⟩ := of_select?_some selected
    obtain ⟨⟨operand, last, _⟩, only, parsed⟩ := of_bind_ok parsed
    cases parsed
    exact .unaryOperator taken isOp (of_unary_ok (taken.closed closed) only)
  case h_2 nothing =>
    obtain ⟨⟨head, next, _⟩, first, parsed⟩ := of_bind_ok parsed
    have first := of_primary_ok nestedDerives closed first
    obtain ⟨⟨value, last, _⟩, others, parsed⟩ := of_bind_ok parsed
    cases parsed
    exact .operand (of_select?_none closed rfl nothing) first
      (of_suffixes_ok nestedDerives (first.closed closed) others)
termination_by start.remaining

end Nested

mutual

theorem of_binary_ok {bound : Nat} {nested : Nested bound}
    (nestedDerives : NestedDerives bound nested) {level : Nat} {value : Expr} {start final : Cursor}
    {fits : start.remaining ≤ bound} {lt : final.remaining < start.remaining}
    (closed : start.Closed)
    (parsed : Cursor.binary bound (Cursor.unary bound nested) level start fits =
      .ok ⟨value, final, lt⟩) : Derives start (.binary level value) final := by
  unfold Cursor.binary at parsed
  obtain ⟨⟨left, next, _⟩, first, parsed⟩ := of_bind_ok parsed
  have first := of_unary_ok nestedDerives closed first
  obtain ⟨⟨value, last, _⟩, others, parsed⟩ := of_bind_ok parsed
  cases parsed
  exact .operands first (of_operators_ok nestedDerives (first.closed closed) others)
termination_by 2 * start.remaining

theorem of_operators_ok {bound : Nat} {nested : Nested bound}
    (nestedDerives : NestedDerives bound nested) {level : Nat} {left value : Expr} {start final : Cursor}
    {fits : start.remaining ≤ bound} {lt : final.remaining < start.remaining + 1}
    (closed : start.Closed)
    (parsed : Cursor.operators bound (Cursor.unary bound nested) level left start fits =
      .ok ⟨value, final, lt⟩) : Derives start (.operators level left value) final := by
  unfold Cursor.operators at parsed
  split at parsed
  case h_1 op precedence span next next_lt selected =>
    obtain ⟨token, taken, chosen, rfl⟩ := of_select?_some selected
    obtain ⟨isOp, binds⟩ := Option.filter_eq_some_iff.mp chosen
    obtain ⟨⟨right, afterRight, _⟩, second, parsed⟩ := of_bind_ok parsed
    have second := of_binary_ok nestedDerives (taken.closed closed) second
    obtain ⟨⟨value, last, _⟩, others, parsed⟩ := of_bind_ok parsed
    cases parsed
    exact .operator taken isOp (of_decide_eq_true binds) second
      (of_operators_ok nestedDerives (second.closed (taken.closed closed)) others)
  case h_2 nothing =>
    have nothing := of_select?_none closed rfl nothing
    cases parsed
    refine .noOperator fun op precedence isOp => ?_
    have loose := Option.filter_eq_none_iff.mp nothing (op, precedence) isOp
    simpa using loose
termination_by 2 * start.remaining + 1

end

theorem of_expression_ok {value : Expr} {start final : Cursor}
    {lt : final.remaining < start.remaining} (closed : start.Closed)
    (parsed : start.expression = .ok ⟨value, final, lt⟩) :
    Derives start (.expression value) final := by
  have nestedDerives : NestedDerives start.remaining (inner start.remaining) :=
    fun _ _ _ _ _ closedInside parsed => of_expression_ok closedInside parsed
  unfold Cursor.expression Cursor.ternary at parsed
  obtain ⟨⟨condition, afterCondition, _⟩, first, parsed⟩ := of_bind_ok parsed
  have first := of_binary_ok nestedDerives closed first
  have closedFirst := first.closed closed
  simp only at parsed
  split at parsed
  case h_1 span afterMark afterMark_lt accepted =>
    obtain ⟨mark, marked, isMark, rfl⟩ := of_accept?_some accepted
    have closedMark := marked.closed closedFirst
    obtain ⟨⟨whenTrue, atColon, atColon_lt⟩, second, parsed⟩ := of_bind_ok parsed
    have second := nestedDerives _ (by omega) _ _ _ closedMark second
    obtain ⟨⟨_, afterColon, _⟩, colon, parsed⟩ := of_bind_ok parsed
    obtain ⟨token, parted, isColon, _⟩ := of_expect_ok colon
    have closedColon := parted.closed (second.closed closedMark)
    have colon_lt : afterColon.remaining < atColon.remaining := parted.remaining_lt
    obtain ⟨⟨whenFalse, last, _⟩, third, parsed⟩ := of_bind_ok parsed
    have third := nestedDerives _ (by omega) _ _ _ closedColon third
    cases parsed
    refine .choice first marked ?_ second parted ?_ third
    · split at isMark <;> trivial
    · split at isColon <;> trivial
  case h_2 nothing =>
    have unmarked := of_accept?_none closedFirst rfl nothing
    cases parsed
    refine .operation first fun isMark => ?_
    rw [isMark] at unmarked
    cases unmarked
termination_by start.remaining

end Cursor

end ChartScript
