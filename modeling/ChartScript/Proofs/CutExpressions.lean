import ChartScript.Proofs.Grammar

/-!
# Expressions that are cut off

Where the tokens behind some place are missing, a production goes the way it goes with them as long
as it finds tokens. Then it stops at the end of the input, or fails there: no token it was given is
refused.
-/

set_option autoImplicit false

namespace ChartScript

/-- Something is missing at the end of the input. -/
def SyntaxError.missing (finish : Token) (expected : Expected) : SyntaxError :=
  .atSpan finish.span (.unexpected expected .endOfInput)

theorem SyntaxError.message_missing (finish : Token) (expected : Expected) :
    (missing finish expected).message =
      "Expected " ++ expected.describe ++ ", " ++ "got end of input" := by
  have parted : ", got " ++ "end of input" = ", " ++ "got end of input" := by decide +kernel
  calc "Expected " ++ expected.describe ++ ", got " ++ "end of input"
    _ = "Expected " ++ expected.describe ++ (", " ++ "got end of input") := by
      rw [String.append_assoc, parted]
    _ = "Expected " ++ expected.describe ++ ", " ++ "got end of input" :=
      (String.append_assoc ..).symm

namespace Cursor

/-- The cursor stands behind all tokens. -/
structure AtEnd (finish : Token) (cursor : Cursor) : Prop where
  rest : cursor.rest = []
  finish : cursor.finish = finish

/-- The first cursor stands where the second one does, but the tokens behind some place are
missing. -/
structure Cut (finish : Token) (short long : Cursor) : Prop where
  rest : short.rest <+: long.rest
  finish : short.finish = finish
  nextSite : short.nextSite = long.nextSite

end Cursor

open Cursor (AtEnd Cut)

/-- What a production makes of tokens that are cut off: the value and the place it has with the
missing ones, another value where it can stop, or a failure at the end of the input. -/
inductive ParseResult.Viable {α : Type} {bound : Nat} (finish : Token) (stops : Cursor → Prop)
    (value : α) (final : Cursor) : ParseResult α bound → Prop
  | reads {next : Cursor} {lt : next.remaining < bound} (cut : next.Cut finish final) :
      Viable finish stops value final (.ok ⟨value, next, lt⟩)
  | stops {other : α} {next : Cursor} {lt : next.remaining < bound} (here : stops next) :
      Viable finish stops value final (.ok ⟨other, next, lt⟩)
  | fails (expected : Expected) :
      Viable finish stops value final (.error (.missing finish expected))

open ParseResult (Viable)

theorem ParseResult.Viable.bind {α β : Type} {bound larger : Nat} {finish : Token}
    {stopsFirst stops : Cursor → Prop} {value : α} {whole : β} {middle final : Cursor}
    {result : ParseResult α bound} {next : Parsed α bound → ParseResult β larger}
    (viable : Viable finish stopsFirst value middle result)
    (further : ∀ after lt, after.Cut finish middle →
      Viable finish stops whole final (next ⟨value, after, lt⟩))
    (stopped : ∀ other after lt, stopsFirst after →
      Viable finish stops whole final (next ⟨other, after, lt⟩)) :
    Viable finish stops whole final (result >>= next) := by
  cases viable with
  | reads cut => exact further _ _ cut
  | stops here => exact stopped _ _ _ here
  | fails expected => exact .fails expected

section Last

variable {α β : Type} {bound larger : Nat} {finish : Token} {stops : Cursor → Prop} {value : α}
  {final : Cursor} {result : ParseResult α bound}

theorem ParseResult.Viable.widen {bound_le : bound ≤ larger}
    (viable : Viable finish stops value final result) :
    Viable finish stops value final (result >>= fun parsed => pure (parsed.widen bound_le)) :=
  viable.bind (fun _ _ cut => .reads cut) fun _ _ _ here => .stops here

theorem ParseResult.Viable.map {f : α → β} {whole : β} {bound_le : bound ≤ larger}
    (viable : Viable finish stops value final result) (mapped : f value = whole) :
    Viable finish stops whole final
      (result >>= fun parsed => pure ((parsed.map f).widen bound_le)) := by
  subst mapped
  exact viable.bind (fun _ _ cut => .reads cut) fun _ _ _ here => .stops here

end Last

namespace Cursor

namespace AtEnd

variable {α : Type} {finish : Token} {cursor : Cursor} (atEnd : cursor.AtEnd finish)

include atEnd

theorem select? (choose : TokenKind → Option α) : cursor.select? choose = none :=
  select?_of_nil atEnd.rest

theorem accept? (accepts : TokenKind → Bool) : cursor.accept? accepts = none :=
  accept?_of_nil atEnd.rest

theorem current : cursor.current = finish := by
  rw [Cursor.current, atEnd.rest, atEnd.finish]
  rfl

theorem kind : cursor.kind = finish.kind :=
  congrArg Token.kind atEnd.current

theorem nameBefore? (accepts : TokenKind → Bool) : cursor.nameBefore? accepts = none := by
  rw [Cursor.nameBefore?, atEnd.select?]
  rfl

variable (ended : finish.kind = .endOfInput)

include ended

theorem unexpected (expected : Expected) :
    cursor.unexpected expected = .missing finish expected := by
  rw [Cursor.unexpected, atEnd.current, Token.found, ended]
  rfl

theorem isAt (accepts : TokenKind → Bool) : cursor.isAt accepts = accepts .endOfInput := by
  rw [Cursor.isAt, atEnd.kind, ended]

theorem expect (expected : Expected) (accepts : TokenKind → Bool) :
    cursor.expect expected accepts = .error (.missing finish expected) := by
  rw [Cursor.expect, atEnd.accept?, atEnd.unexpected ended]

/-- Where a token is required, it is missing. -/
theorem viable_expect {expected : Expected} {accepts : TokenKind → Bool} {bound : Nat} {whole : α}
    {final : Cursor} {stops : Cursor → Prop}
    {further : Parsed Span cursor.remaining → ParseResult α bound} :
    Viable finish stops whole final (cursor.expect expected accepts >>= further) := by
  rw [atEnd.expect ended]
  exact .fails expected

variable {bound : Nat} {nested : Nested bound}

theorem nameOrCall (path : String) (span : Span) (fits : cursor.remaining ≤ bound) :
    nameOrCall bound nested path span cursor fits =
      .ok ⟨.name path span, cursor, Nat.lt_succ_self _⟩ := by
  refine nameOrCall_of_uncalled fits ?_
  rw [atEnd.kind, ended]
  nofun

theorem primary (fits : cursor.remaining ≤ bound) :
    primary bound nested cursor fits = .error (.missing finish .expression) := by
  unfold Cursor.primary
  rw [atEnd.select?, atEnd.unexpected ended]

omit ended in
theorem suffixes (operand : Expr) (fits : cursor.remaining ≤ bound) :
    suffixes bound nested operand cursor fits = .ok ⟨operand, cursor, Nat.lt_succ_self _⟩ := by
  unfold Cursor.suffixes
  rw [atEnd.accept?, atEnd.accept?]

/-- Behind a point the name is missing. -/
theorem suffixes_of_dot {start : Cursor} {dot : Token} (operand : Expr)
    (fits : start.remaining ≤ bound) (dotted : start.Takes dot cursor) (isDot : dot.kind = .dot) :
    Cursor.suffixes bound nested operand start fits = .error (.missing finish .memberName) := by
  unfold Cursor.suffixes
  rw [dotted.accept? (by rw [isDot])]
  simp only [atEnd.select?, atEnd.unexpected ended]

theorem unary (fits : cursor.remaining ≤ bound) :
    unary bound nested cursor fits = .error (.missing finish .expression) := by
  unfold Cursor.unary
  rw [atEnd.select?, atEnd.primary ended]
  rfl

omit ended in
theorem operators (operand : Operand bound) (level : Nat) (left : Expr)
    (fits : cursor.remaining ≤ bound) :
    operators bound operand level left cursor fits = .ok ⟨left, cursor, Nat.lt_succ_self _⟩ := by
  unfold Cursor.operators
  rw [atEnd.select?]

theorem binary (level : Nat) (fits : cursor.remaining ≤ bound) :
    binary bound (Cursor.unary bound nested) level cursor fits =
      .error (.missing finish .expression) := by
  unfold Cursor.binary
  rw [atEnd.unary ended]
  rfl

theorem expression : cursor.expression = .error (.missing finish .expression) := by
  unfold Cursor.expression Cursor.ternary
  rw [atEnd.binary ended]
  rfl

theorem argument (before : ArgumentList) (fits : cursor.remaining < bound) :
    argument bound (inner bound) before cursor fits = .error (.missing finish .expression) := by
  unfold Cursor.argument
  rw [argumentName?_eq, atEnd.nameBefore?]
  simp only [atEnd.expression ended]
  rfl

theorem argumentList (before : ArgumentList) (fits : cursor.remaining < bound) :
    argumentList bound (inner bound) before cursor fits =
      .error (.missing finish .expression) := by
  unfold Cursor.argumentList
  rw [if_neg (by rw [atEnd.isAt ended]; exact Bool.false_ne_true), atEnd.argument ended]
  rfl

end AtEnd

/-! ## Places that correspond -/

namespace Cut

variable {finish : Token} {short long next : Cursor} {token : Token}
  (cut : short.Cut finish long)

include cut

/-- Before a token there, the cursor here stands before the same token or at the end. -/
theorem takes (taken : long.Takes token next) : short.AtEnd finish ∨
    ∃ shortNext, short.Takes token shortNext ∧ shortNext.Cut finish next := by
  obtain ⟨prefixed, atFinish, site⟩ := cut
  obtain ⟨_ | ⟨first, rest⟩, _, number⟩ := short
  · exact .inl ⟨rfl, atFinish⟩
  · subst taken atFinish
    obtain ⟨rfl, others⟩ := List.cons_prefix_cons.mp prefixed
    exact .inr ⟨⟨rest, _, number⟩, rfl, ⟨others, rfl, site⟩⟩

theorem takes_back (taken : short.Takes token next) :
    ∃ longNext, long.Takes token longNext ∧ next.Cut finish longNext := by
  obtain ⟨prefixed, atFinish, site⟩ := cut
  subst taken
  obtain ⟨tokens, finish', number⟩ := long
  obtain ⟨rest, rfl⟩ := prefixed
  exact ⟨⟨next.rest ++ rest, finish', number⟩, rfl,
    ⟨List.prefix_append _ _, atFinish, site⟩⟩

theorem current_cases : short.AtEnd finish ∨ short.current = long.current := by
  obtain ⟨prefixed, atFinish, _⟩ := cut
  obtain ⟨_ | ⟨first, rest⟩, _, _⟩ := short
  · exact .inl ⟨rfl, atFinish⟩
  · obtain ⟨behind, same⟩ := prefixed
    refine .inr ?_
    show first = long.rest.headD long.finish
    rw [← same]
    rfl

theorem kind_cases : short.AtEnd finish ∨ short.kind = long.kind :=
  cut.current_cases.imp_right (congrArg Token.kind)

theorem takeSite : short.takeSite.Cut finish long.takeSite :=
  ⟨cut.rest, cut.finish, congrArg (· + 1) cut.nextSite⟩

variable (ended : finish.kind = .endOfInput)

include ended

theorem kind_ne {kind : TokenKind} (other : long.kind ≠ kind) (unended : kind ≠ .endOfInput) :
    short.kind ≠ kind := by
  rcases cut.kind_cases with atEnd | same
  · rw [atEnd.kind, ended]
    exact unended.symm
  · rwa [same]

theorem startsName {accepts : TokenKind → Bool} (starts : short.StartsName accepts)
    (atEnd : accepts .endOfInput = false) : long.StartsName accepts := by
  obtain ⟨token, afterName, name, taken, isName, isSign⟩ := starts
  obtain ⟨longNext, takenThere, cut⟩ := cut.takes_back taken
  refine ⟨token, longNext, name, takenThere, isName, ?_⟩
  rcases cut.kind_cases with nothing | same
  · rw [nothing.kind, ended, atEnd] at isSign
    cases isSign
  · rwa [← same]

/-- Before a token there, that token is taken here if there is one. -/
theorem expect {accepts : TokenKind → Bool} {bound : Nat} {α : Type} {whole : α}
    {final : Cursor} {stops : Cursor → Prop} (expected : Expected)
    {further : Parsed Span short.remaining → ParseResult α bound}
    (taken : long.Takes token next) (accepted : accepts token.kind = true)
    (viable : ∀ after lt, after.Cut finish next →
      Viable finish stops whole final (further ⟨token.span, after, lt⟩)) :
    Viable finish stops whole final (short.expect expected accepts >>= further) := by
  rcases cut.takes taken with atEnd | ⟨after, taken, cut⟩
  · rw [atEnd.expect ended]
    exact .fails expected
  · rw [taken.expect accepted]
    exact viable _ _ cut

end Cut

/-! ## Productions -/

/-- A name with nothing behind it is an expression. -/
theorem Takes.derives_name {start final : Cursor} {finish token : Token} {name : String}
    (taken : start.Takes token final) (isName : token.kind = .identifier name)
    (atEnd : final.AtEnd finish) (ended : finish.kind = .endOfInput) :
    Derives start (.expression (.name name token.span)) final := by
  have nothing : final.kind = .endOfInput := atEnd.kind.trans ended
  have noOp : start.kind.unaryOp? = none := by rw [taken.kind, isName]; rfl
  have head : Derives start (.primary (.name name token.span)) final :=
    .named taken isName (.uncalled (by rw [nothing]; nofun))
  refine .operation (.operands (.operand noOp head (.noSuffix ?_ ?_)) (.noOperator ?_)) ?_
  all_goals
    rw [nothing]
    nofun

/-- A production goes the same way where tokens are cut off, up to the end of the input. -/
def Production.Survives (finish : Token) (start : Cursor) (production : Production)
    (final : Cursor) : Prop :=
  ∀ short : Cursor, short.Cut finish start →
    production.Gives (Viable finish (AtEnd finish) · final ·) short

namespace Production.Survives

variable {finish token : Token} {start middle final : Cursor}

section Operators

variable {level precedence : Nat} {left right value : Expr}

theorem operands (first : Survives finish start (.unary left) middle)
    (others : Survives finish middle (.operators level left value) final) :
    Survives finish start (.binary level value) final := by
  intro short cut bound fits
  unfold Cursor.binary
  refine (first short cut _ _).bind (fun afterLeft _ cut => ?_) fun _ _ _ atEnd => ?_
  · exact (others afterLeft cut _ _).widen
  · simp only [atEnd.operators]
    exact .stops atEnd

theorem operator {afterOp : Cursor} {op : BinaryOp} (taken : start.Takes token afterOp)
    (isOp : token.kind.binaryOp? = some (op, precedence)) (binds : level ≤ precedence)
    (second : Survives finish afterOp (.binary (precedence + 1) right) middle)
    (others : Survives finish middle (.operators level (.binary left op right token.span) value)
      final) : Survives finish start (.operators level left value) final := by
  intro short cut bound fits
  rcases cut.takes taken with atEnd | ⟨afterOp, taken, cut⟩
  · rw [atEnd.operators]
    exact .stops atEnd
  · rw [operators_of_takes fits taken isOp binds]
    refine (second afterOp cut _ _).bind (fun afterRight _ cut => ?_) fun _ _ _ atEnd => ?_
    · exact (others afterRight cut _ _).widen
    · simp only [atEnd.operators]
      exact .stops atEnd

theorem noOperator (looser : ∀ op precedence, start.kind.binaryOp? = some (op, precedence) →
    precedence < level) : Survives finish start (.operators level left left) start := by
  intro short cut bound fits
  rcases cut.kind_cases with atEnd | same
  · rw [atEnd.operators]
    exact .stops atEnd
  · rw [operators_of_looser fits (by rwa [same])]
    exact .reads cut

end Operators

variable (ended : finish.kind = .endOfInput)

include ended

section Choices

variable {value condition whenTrue whenFalse : Expr}

theorem choice {afterMark atColon afterColon : Cursor} {colon : Token}
    (first : Survives finish start (.binary 1 condition) middle)
    (marked : middle.Takes token afterMark) (isMark : token.kind = .question)
    (second : Survives finish afterMark (.expression whenTrue) atColon)
    (parted : atColon.Takes colon afterColon) (isColon : colon.kind = .colon)
    (third : Survives finish afterColon (.expression whenFalse) final) :
    Survives finish start (.expression (.ternary condition whenTrue whenFalse token.span))
      final := by
  intro short cut
  show Viable finish _ _ _ short.expression
  unfold Cursor.expression Cursor.ternary
  refine (first short cut _ _).bind (fun atMark _ cut => ?_) fun _ _ _ atEnd => ?_
  · rcases cut.takes marked with atEnd | ⟨afterMark, marked, cut⟩
    · simp only [atEnd.accept?]
      exact .stops atEnd
    · simp only [marked.accept?, isMark]
      refine (second afterMark cut).bind (fun atColon _ cut => ?_)
        fun _ _ _ atEnd => atEnd.viable_expect ended
      refine cut.expect ended _ parted (by rw [isColon]) fun afterColon _ cut => ?_
      exact (third afterColon cut).bind (fun _ _ cut => .reads cut)
        fun _ _ _ atEnd => .stops atEnd
  · simp only [atEnd.accept?]
    exact .stops atEnd

theorem operation (only : Survives finish start (.binary 1 value) final)
    (unmarked : final.kind ≠ .question) : Survives finish start (.expression value) final := by
  intro short cut
  show Viable finish _ _ _ short.expression
  unfold Cursor.expression Cursor.ternary
  refine (only short cut _ _).bind (fun after _ cut => ?_) fun _ _ _ atEnd => ?_
  · have unmarked := cut.kind_ne ended unmarked (by simp)
    dsimp only
    rw [accept?_of_false (by split <;> trivial)]
    exact .reads cut
  · simp only [atEnd.accept?]
    exact .stops atEnd

end Choices

section Operands

variable {inside afterName : Cursor} {closing : Token} {name : String} {head object value : Expr}

theorem unaryOperator {afterOp : Cursor} {op : UnaryOp} {operand : Expr}
    (taken : start.Takes token afterOp) (isOp : token.kind.unaryOp? = some op)
    (only : Survives finish afterOp (.unary operand) final) :
    Survives finish start (.unary (.unary op operand token.span)) final := by
  intro short cut bound fits
  rcases cut.takes taken with atEnd | ⟨afterOp, taken, cut⟩
  · rw [atEnd.unary ended]
    exact .fails _
  · rw [unary_of_operator fits taken isOp]
    exact (only afterOp cut _ _).map rfl

theorem operand (noOp : start.kind.unaryOp? = none)
    (first : Survives finish start (.primary head) middle)
    (others : Survives finish middle (.suffixes head value) final) :
    Survives finish start (.unary value) final := by
  intro short cut bound fits
  rcases cut.kind_cases with atEnd | same
  · rw [atEnd.unary ended]
    exact .fails _
  · rw [unary_of_operand fits (by rwa [same])]
    refine (first short cut _ _).bind (fun afterHead _ cut => ?_) fun _ _ _ atEnd => ?_
    · exact (others afterHead cut _ _).widen
    · simp only [atEnd.suffixes]
      exact .stops atEnd

theorem literal (taken : start.Takes token final) (isLiteral : token.literal? = some value) :
    Survives finish start (.primary value) final := by
  intro short cut bound fits
  rcases cut.takes taken with atEnd | ⟨final, taken, cut⟩
  · rw [atEnd.primary ended]
    exact .fails _
  · rw [primary_of_literal fits taken isLiteral]
    exact .reads cut

theorem named (taken : start.Takes token afterName) (isName : token.kind = .identifier name)
    (others : Survives finish afterName (.nameOrCall name token.span value) final) :
    Survives finish start (.primary value) final := by
  intro short cut bound fits
  rcases cut.takes taken with atEnd | ⟨afterName, taken, cut⟩
  · rw [atEnd.primary ended]
    exact .fails _
  · rw [primary_of_name fits taken isName]
    exact (others afterName cut _ _).widen

theorem parenthesised (opened : start.Takes token inside) (isOpening : token.kind = .leftParen)
    (inner : Survives finish inside (.expression value) middle)
    (closed : middle.Takes closing final) (isClosing : closing.kind = .rightParen) :
    Survives finish start (.primary value) final := by
  intro short cut bound fits
  rcases cut.takes opened with atEnd | ⟨inside, opened, cut⟩
  · rw [atEnd.primary ended]
    exact .fails _
  · rw [primary_of_opening fits opened isOpening]
    refine (inner inside cut).bind (fun atClosing _ cut => ?_)
      fun _ _ _ atEnd => atEnd.viable_expect ended
    exact cut.expect ended _ closed (by rw [isClosing]) fun _ _ cut => .reads cut

theorem longerName {afterDot : Cursor} {dot : Token} {path : String} {span : Span} {longer : Expr}
    (dotted : start.Takes dot afterDot) (isDot : dot.kind = .dot)
    (taken : afterDot.Takes token afterName) (isName : token.kind = .identifier name)
    (first : Survives finish afterName (.nameOrCall (path ++ "." ++ name) span longer) middle)
    (others : Survives finish middle (.suffixes longer value) final) :
    Survives finish start (.suffixes (.name path span) value) final := by
  intro short cut bound fits
  rcases cut.takes dotted with atEnd | ⟨afterDot, dotted, cut⟩
  · rw [atEnd.suffixes]
    exact .stops atEnd
  rcases cut.takes taken with atEnd | ⟨afterName, taken, cut⟩
  · rw [atEnd.suffixes_of_dot ended _ fits dotted isDot]
    exact .fails _
  · rw [suffixes_of_longer fits dotted isDot taken isName]
    refine (first afterName cut _ _).bind (fun afterLonger _ cut => ?_) fun _ _ _ atEnd => ?_
    · exact (others afterLonger cut _ _).widen
    · simp only [atEnd.suffixes]
      exact .stops atEnd

theorem member {afterDot : Cursor} {dot : Token} (unnamed : object.isName = false)
    (dotted : start.Takes dot afterDot) (isDot : dot.kind = .dot)
    (taken : afterDot.Takes token afterName) (isName : token.kind = .identifier name)
    (uncalled : afterName.kind ≠ .leftParen)
    (others : Survives finish afterName (.suffixes (.member object name token.span) value) final) :
    Survives finish start (.suffixes object value) final := by
  intro short cut bound fits
  rcases cut.takes dotted with atEnd | ⟨afterDot, dotted, cut⟩
  · rw [atEnd.suffixes]
    exact .stops atEnd
  rcases cut.takes taken with atEnd | ⟨afterName, taken, cut⟩
  · rw [atEnd.suffixes_of_dot ended _ fits dotted isDot]
    exact .fails _
  · have uncalled := cut.kind_ne ended uncalled (by simp)
    rw [suffixes_of_member fits unnamed dotted isDot taken isName uncalled]
    exact (others afterName cut _ _).widen

theorem history {afterEnd : Cursor} {series offset : Expr} (opened : start.Takes token inside)
    (isOpening : token.kind = .leftBracket)
    (inner : Survives finish inside (.expression offset) middle)
    (closed : middle.Takes closing afterEnd) (isClosing : closing.kind = .rightBracket)
    (others : Survives finish afterEnd.takeSite
      (.suffixes (.history series offset afterEnd.nextSite token.span) value) final) :
    Survives finish start (.suffixes series value) final := by
  intro short cut bound fits
  rcases cut.takes opened with atEnd | ⟨inside, opened, cut⟩
  · rw [atEnd.suffixes]
    exact .stops atEnd
  · rw [suffixes_of_opening fits opened isOpening]
    refine (inner inside cut).bind (fun atClosing _ cut => ?_)
      fun _ _ _ atEnd => atEnd.viable_expect ended
    refine cut.expect ended _ closed (by rw [isClosing]) fun afterEnd _ cut => ?_
    rw [← cut.nextSite] at others
    exact (others afterEnd.takeSite cut.takeSite _ _).widen

theorem noSuffix (undotted : start.kind ≠ .dot) (unopened : start.kind ≠ .leftBracket) :
    Survives finish start (.suffixes object object) start := by
  intro short cut bound fits
  rw [suffixes_of_neither fits (cut.kind_ne ended undotted (by simp))
    (cut.kind_ne ended unopened (by simp))]
  exact .reads cut

end Operands

section Calls

variable {inside afterName afterSign : Cursor} {function path name : String} {span : Span}
  {call : Call} {before list after : ArgumentList} {value : Expr}

theorem uncalled (unopened : start.kind ≠ .leftParen) :
    Survives finish start (.nameOrCall path span (.name path span)) start := by
  intro short cut bound fits
  rw [nameOrCall_of_uncalled fits (cut.kind_ne ended unopened (by simp))]
  exact .reads cut

theorem called (opened : start.Takes token inside) (isOpening : token.kind = .leftParen)
    (only : Survives finish start (.callArguments path call) final) :
    Survives finish start (.nameOrCall path span (.call call span)) final := by
  intro short cut bound fits
  rcases cut.takes opened with atEnd | ⟨inside, opened, _⟩
  · rw [atEnd.nameOrCall ended]
    exact .stops atEnd
  · rw [nameOrCall_of_called fits (opened.kind.trans isOpening)]
    exact (only short cut _ _).map rfl

theorem callArguments {closing : Token} (opened : start.Takes token inside)
    (isOpening : token.kind = .leftParen)
    (inner : Survives finish inside.takeSite (.argumentList .empty list) middle)
    (closed : middle.Takes closing final) (isClosing : closing.kind = .rightParen) :
    Survives finish start
      (.callArguments function (.mk function inside.nextSite list.positional list.named))
      final := by
  intro short cut bound fits
  unfold Cursor.callArguments
  refine cut.expect ended _ opened (by rw [isOpening]) fun inside _ cut => ?_
  refine (inner inside.takeSite cut.takeSite _ _).bind (fun atClosing _ atClosingCut => ?_)
    fun _ _ _ atEnd => atEnd.viable_expect ended
  refine atClosingCut.expect ended _ closed (by rw [isClosing]) fun _ _ finalCut => ?_
  rw [← cut.nextSite]
  exact .reads finalCut

theorem noArgument (isClosing : start.kind = .rightParen) :
    Survives finish start (.argumentList list list) start := by
  intro short cut bound fits
  rcases cut.kind_cases with atEnd | same
  · rw [atEnd.argumentList ended]
    exact .fails _
  · rw [argumentList_of_closed fits (same.trans isClosing)]
    exact .reads cut

theorem lastArgument (unclosed : start.kind ≠ .rightParen)
    (only : Survives finish start (.argument before after) final)
    (unparted : final.kind ≠ .comma) :
    Survives finish start (.argumentList before after) final := by
  intro short cut bound fits
  rw [argumentList_of_unclosed fits (cut.kind_ne ended unclosed (by simp))]
  refine (only short cut _ _).bind (fun after _ cut => ?_) fun _ _ _ atEnd => ?_
  · have unparted := cut.kind_ne ended unparted (by simp)
    dsimp only
    rw [accept?_of_false (by split <;> trivial)]
    exact .reads cut
  · simp only [atEnd.accept?]
    exact .stops atEnd

theorem moreArguments {afterComma : Cursor} (unclosed : start.kind ≠ .rightParen)
    (first : Survives finish start (.argument before list) middle)
    (parted : middle.Takes token afterComma) (isComma : token.kind = .comma)
    (others : Survives finish afterComma (.argumentList list after) final) :
    Survives finish start (.argumentList before after) final := by
  intro short cut bound fits
  rw [argumentList_of_unclosed fits (cut.kind_ne ended unclosed (by simp))]
  refine (first short cut _ _).bind (fun atComma _ cut => ?_) fun _ _ _ atEnd => ?_
  · rcases cut.takes parted with atEnd | ⟨afterComma, parted, cut⟩
    · simp only [atEnd.accept?]
      exact .stops atEnd
    · simp only [parted.accept?, isComma]
      exact (others afterComma cut _ _).widen
  · simp only [atEnd.accept?]
    exact .stops atEnd

theorem namedArgument {sign : Token} (taken : start.Takes token afterName)
    (isName : token.kind = .identifier name) (assigned : afterName.Takes sign afterSign)
    (isSign : sign.kind.isAssign = true) (new : before.named.any (·.name = name) = false)
    (only : Survives finish afterSign (.expression value) final) :
    Survives finish start (.argument before (before.addNamed (.mk name value token.span)))
      final := by
  intro short cut bound fits
  rcases cut.takes taken with atEnd | ⟨afterName, taken, cut⟩
  · rw [atEnd.argument ended]
    exact .fails _
  rcases cut.takes assigned with atEnd | ⟨afterSign, assigned, cut⟩
  · -- Without the sign behind it, the name is an argument.
    rw [argument_of_unnamed fits (taken.not_startsName (by rw [atEnd.kind, ended]; rfl))]
    obtain ⟨_, alone⟩ := (taken.derives_name isName atEnd ended).runs
    have alone : inner bound short fits = _ := alone
    rw [alone]
    exact .stops atEnd
  · rw [argument_of_named fits taken isName assigned isSign new]
    exact (only afterSign cut).map rfl

theorem positionalArgument (unnamed : ¬start.StartsName TokenKind.isAssign)
    (only : Survives finish start (.expression value) final) :
    Survives finish start (.argument before (before.addPositional value)) final := by
  intro short cut bound fits
  rw [argument_of_unnamed fits fun starts => unnamed (cut.startsName ended starts rfl)]
  exact (only short cut).bind (fun _ _ cut => .reads cut) fun _ _ _ atEnd => .stops atEnd

end Calls

end Production.Survives

theorem Derives.viable {finish : Token} (ended : finish.kind = .endOfInput) {start final : Cursor}
    {production : Production} (derived : Derives start production final) :
    production.Survives finish start final := by
  induction derived with
  | choice _ marked isMark _ parted isColon _ first second third =>
    exact .choice ended first marked isMark second parted isColon third
  | operation _ unmarked only => exact .operation ended only unmarked
  | operands _ _ first others => exact .operands first others
  | operator taken isOp binds _ _ second others => exact .operator taken isOp binds second others
  | noOperator looser => exact .noOperator looser
  | unaryOperator taken isOp _ only => exact .unaryOperator ended taken isOp only
  | operand noOp _ _ first others => exact .operand ended noOp first others
  | literal taken isLiteral => exact .literal ended taken isLiteral
  | named taken isName _ others => exact .named ended taken isName others
  | parenthesised opened isOpening _ closed isClosing inner =>
    exact .parenthesised ended opened isOpening inner closed isClosing
  | longerName dotted isDot taken isName _ _ first others =>
    exact .longerName ended dotted isDot taken isName first others
  | member unnamed dotted isDot taken isName uncalled _ others =>
    exact .member ended unnamed dotted isDot taken isName uncalled others
  | history opened isOpening _ closed isClosing _ inner others =>
    exact .history ended opened isOpening inner closed isClosing others
  | noSuffix undotted unopened => exact .noSuffix ended undotted unopened
  | uncalled unopened => exact .uncalled ended unopened
  | called derived only =>
    cases derived with
    | callArguments opened isOpening => exact .called ended opened isOpening only
  | callArguments opened isOpening _ closed isClosing inner =>
    exact .callArguments ended opened isOpening inner closed isClosing
  | noArgument isClosing => exact .noArgument ended isClosing
  | lastArgument unclosed _ unparted only => exact .lastArgument ended unclosed only unparted
  | moreArguments unclosed _ parted isComma _ first others =>
    exact .moreArguments ended unclosed first parted isComma others
  | namedArgument taken isName assigned isSign new _ only =>
    exact .namedArgument ended taken isName assigned isSign new only
  | positionalArgument unnamed _ only => exact .positionalArgument ended unnamed only

end Cursor

end ChartScript
