import ChartScript.Proofs.ReadTokens
import ChartScript.Proofs.SyntaxParts

/-!
# Tokens at another place

A list of tokens is relocated by moving their spans and putting other tokens behind them. As long
as those start with a line break, the same is derived from the relocated list, at its place and
with the numbers of its sites.
-/

set_option autoImplicit false

namespace ChartScript

open Cursor

def TokenKind.endsLine : TokenKind → Bool
  | .newline | .endOfInput => true
  | _ => false

structure Relocation where
  /-- How many sites were numbered before. -/
  sites : Nat
  place : Span → Span
  /-- The tokens that follow. -/
  tail : List Token
  finish : Token

namespace Relocation

variable (move : Relocation)

def token (token : Token) : Token :=
  { token with span := move.place token.span }

def cursor (cursor : Cursor) : Cursor :=
  ⟨cursor.rest.map move.token ++ move.tail, move.finish, cursor.nextSite + move.sites⟩

def expr (expr : Expr) : Expr :=
  expr.relabel (· + move.sites) move.place

def call (call : Call) : Call :=
  call.relabel (· + move.sites) move.place

def arguments (list : ArgumentList) : ArgumentList where
  positional := list.positional.map move.expr
  named := list.named.map (NamedArgument.relabel (· + move.sites) move.place)

def production : Production → Production
  | .expression value => .expression (move.expr value)
  | .binary level value => .binary level (move.expr value)
  | .operators level left value => .operators level (move.expr left) (move.expr value)
  | .unary value => .unary (move.expr value)
  | .primary value => .primary (move.expr value)
  | .suffixes operand value => .suffixes (move.expr operand) (move.expr value)
  | .nameOrCall path span value => .nameOrCall path (move.place span) (move.expr value)
  | .callArguments function call => .callArguments function (move.call call)
  | .argumentList before after => .argumentList (move.arguments before) (move.arguments after)
  | .argument before after => .argument (move.arguments before) (move.arguments after)

/-- The cursor before what follows. -/
def behind (site : Nat) : Cursor :=
  ⟨move.tail, move.finish, site⟩

/-- What follows starts with a line break, or there is nothing. -/
def Parts : Prop :=
  ∀ site, (move.behind site).kind = .newline ∨ (move.behind site).kind = .endOfInput

variable {move} {start next : Cursor}

theorem takes {token : Token} (taken : start.Takes token next) :
    (move.cursor start).Takes (move.token token) (move.cursor next) := by
  subst taken
  rfl

theorem kind_eq (closed : start.Closed) (parts : move.Parts) :
    (move.cursor start).kind = start.kind ∨
      start.kind = .endOfInput ∧
        ((move.cursor start).kind = .newline ∨ (move.cursor start).kind = .endOfInput) := by
  obtain ⟨_ | ⟨token, rest⟩, finish, site⟩ := start
  · exact .inr ⟨closed, parts (site + move.sites)⟩
  · exact .inl rfl

theorem kind_of_kind {kind : TokenKind} (closed : start.Closed) (parts : move.Parts)
    (within : kind.endsLine = false) (same : start.kind = kind) :
    (move.cursor start).kind = kind := by
  rcases kind_eq closed parts with kept | ⟨ended, _⟩
  · exact kept.trans same
  · rw [← same, ended] at within
    cases within

/-- A decision against a kind of token is made again, unless it concerns the end of a line. -/
theorem kind_ne {kind : TokenKind} (closed : start.Closed) (parts : move.Parts)
    (differ : start.kind ≠ kind) (within : kind.endsLine = false) :
    (move.cursor start).kind ≠ kind := by
  rcases kind_eq closed parts with kept | ⟨_, broken | ended⟩
  · exact kept ▸ differ
  · rintro rfl
    rw [broken] at within
    cases within
  · rintro rfl
    rw [ended] at within
    cases within

/-- A name at a relocated cursor was there before. -/
theorem of_takes_name {token : Token} {name : String} (parts : move.Parts)
    (taken : (move.cursor start).Takes token next) (isName : token.kind = .identifier name) :
    ∃ before after, start.Takes before after ∧ before.kind = .identifier name ∧
      next = move.cursor after := by
  obtain ⟨_ | ⟨first, rest⟩, finish, site⟩ := start
  · have kind : (move.cursor ⟨[], finish, site⟩).kind = .identifier name :=
      taken.kind.trans isName
    rcases parts (site + move.sites) with broken | ended
    · exact absurd (broken.symm.trans kind) nofun
    · exact absurd (ended.symm.trans kind) nofun
  · have known : (move.cursor ⟨first :: rest, finish, site⟩).Takes (move.token first)
        (move.cursor ⟨rest, finish, site⟩) := takes rfl
    obtain ⟨rfl, rfl⟩ := known.unique taken
    exact ⟨first, ⟨rest, finish, site⟩, rfl, isName, rfl⟩

theorem startsName {accepts : TokenKind → Bool} (closed : start.Closed) (parts : move.Parts)
    (atBreak : accepts .newline = false) (atEnd : accepts .endOfInput = false)
    (unnamed : ¬start.StartsName accepts) : ¬(move.cursor start).StartsName accepts := by
  rintro ⟨token, afterName, name, taken, isName, isSign⟩
  obtain ⟨before, after, takenBefore, wasName, rfl⟩ := of_takes_name parts taken isName
  refine unnamed ⟨before, after, name, takenBefore, wasName, ?_⟩
  rcases kind_eq (takenBefore.closed closed) parts with kept | ⟨_, broken | ended⟩
  · exact kept ▸ isSign
  · rw [broken, atBreak] at isSign
    cases isSign
  · rw [ended, atEnd] at isSign
    cases isSign

theorem startsDeclaration (closed : start.Closed) (parts : move.Parts)
    (undeclared : ¬start.StartsDeclaration) : ¬(move.cursor start).StartsDeclaration := by
  rintro ⟨token, afterName, name, taken, isName, isWord, opened⟩
  obtain ⟨before, after, takenBefore, wasName, rfl⟩ := of_takes_name parts taken isName
  refine undeclared ⟨before, after, name, takenBefore, wasName, isWord, ?_⟩
  by_contra unopened
  exact kind_ne (takenBefore.closed closed) parts unopened rfl opened

theorem literal? (token : Token) :
    (move.token token).literal? = token.literal?.map move.expr := by
  obtain ⟨kind, text, span⟩ := token
  cases kind <;> rfl

theorem isName (expr : Expr) : (move.expr expr).isName = expr.isName := by
  cases expr <;> rfl

theorem named_any (list : ArgumentList) (name : String) :
    (move.arguments list).named.any (·.name = name) = list.named.any (·.name = name) := by
  simp only [arguments, List.any_map]
  congr 1
  funext argument
  simp

theorem arguments_addNamed (list : ArgumentList) (name : String) (value : Expr) (span : Span) :
    move.arguments (list.addNamed (.mk name value span)) =
      (move.arguments list).addNamed (.mk name (move.expr value) (move.place span)) := by
  simp only [arguments, ArgumentList.addNamed, List.map_append]
  rfl

theorem arguments_addPositional (list : ArgumentList) (value : Expr) :
    move.arguments (list.addPositional value) =
      (move.arguments list).addPositional (move.expr value) := by
  simp only [arguments, ArgumentList.addPositional, List.map_append]
  rfl

end Relocation

theorem Cursor.Derives.relocate {move : Relocation} {start final : Cursor} {production : Production}
    (derived : Derives start production final) (parts : move.Parts) (closed : start.Closed) :
    Derives (move.cursor start) (move.production production) (move.cursor final) := by
  induction derived with
  | choice first marked isMark second parted isColon _ firstMoved secondMoved thirdMoved =>
    have closedMark := marked.closed (first.closed closed)
    have closedColon := parted.closed (second.closed closedMark)
    exact .choice (firstMoved closed) (Relocation.takes marked) isMark (secondMoved closedMark)
      (Relocation.takes parted) isColon (thirdMoved closedColon)
  | operation only unmarked moved =>
    exact .operation (moved closed)
      (Relocation.kind_ne (only.closed closed) parts unmarked rfl)
  | operands first _ firstMoved othersMoved =>
    exact .operands (firstMoved closed) (othersMoved (first.closed closed))
  | operator taken isOp binds second _ secondMoved othersMoved =>
    have closedOp := taken.closed closed
    exact .operator (Relocation.takes taken) isOp binds (secondMoved closedOp)
      (othersMoved (second.closed closedOp))
  | noOperator looser =>
    refine .noOperator fun op precedence isOp => ?_
    rcases Relocation.kind_eq closed parts with kept | ⟨_, broken | ended⟩
    · exact looser op precedence (kept ▸ isOp)
    · rw [broken] at isOp
      cases isOp
    · rw [ended] at isOp
      cases isOp
  | unaryOperator taken isOp _ moved =>
    exact .unaryOperator (Relocation.takes taken) isOp (moved (taken.closed closed))
  | operand noOp first _ firstMoved othersMoved =>
    refine .operand ?_ (firstMoved closed) (othersMoved (first.closed closed))
    rcases Relocation.kind_eq closed parts with kept | ⟨_, broken | ended⟩
    · exact kept ▸ noOp
    · exact broken ▸ rfl
    · exact ended ▸ rfl
  | literal taken isLiteral =>
    exact .literal (Relocation.takes taken) (by rw [Relocation.literal?, isLiteral]; rfl)
  | named taken isName _ moved =>
    exact .named (Relocation.takes taken) isName (moved (taken.closed closed))
  | parenthesised opened isOpening _ shut isClosing moved =>
    exact .parenthesised (Relocation.takes opened) isOpening (moved (opened.closed closed))
      (Relocation.takes shut) isClosing
  | longerName dotted isDot taken isName first _ firstMoved othersMoved =>
    have closedName := taken.closed (dotted.closed closed)
    exact .longerName (Relocation.takes dotted) isDot (Relocation.takes taken) isName
      (firstMoved closedName) (othersMoved (first.closed closedName))
  | member unnamed dotted isDot taken isName uncalled _ moved =>
    have closedName := taken.closed (dotted.closed closed)
    exact .member (by rw [Relocation.isName, unnamed]) (Relocation.takes dotted) isDot
      (Relocation.takes taken) isName (Relocation.kind_ne closedName parts uncalled rfl)
      (moved closedName)
  | @history _ _ _ afterEnd _ _ _ series offset _ opened isOpening inner shut isClosing _ innerMoved
      othersMoved =>
    have closedInside := opened.closed closed
    have closedEnd : afterEnd.takeSite.Closed := shut.closed (inner.closed closedInside)
    have site : move.cursor afterEnd.takeSite = (move.cursor afterEnd).takeSite := by
      simp only [Relocation.cursor, takeSite]
      congr 1
      omega
    have others := othersMoved closedEnd
    rw [site] at others
    exact .history (Relocation.takes opened) isOpening (innerMoved closedInside)
      (Relocation.takes shut) isClosing others
  | noSuffix undotted unopened =>
    exact .noSuffix (Relocation.kind_ne closed parts undotted rfl)
      (Relocation.kind_ne closed parts unopened rfl)
  | uncalled unopened => exact .uncalled (Relocation.kind_ne closed parts unopened rfl)
  | called _ moved => exact .called (moved closed)
  | @callArguments _ inside atEnd final _ _ function list opened isOpening inner shut isClosing
      moved =>
    have closedInside : inside.takeSite.Closed := opened.closed closed
    have site : move.cursor inside.takeSite = (move.cursor inside).takeSite := by
      simp only [Relocation.cursor, takeSite]
      congr 1
      omega
    have moved := moved closedInside
    rw [site] at moved
    have passed : Derives _ (.callArguments function _) (move.cursor final) :=
      .callArguments (Relocation.takes opened) isOpening moved (Relocation.takes shut) isClosing
    have call : move.call (.mk function inside.nextSite list.positional list.named) =
        .mk function (move.cursor inside).nextSite (move.arguments list).positional
          (move.arguments list).named := by
      simp only [Relocation.call, Call.relabel, Expr.relabelAll_eq_map,
        NamedArgument.relabelAll_eq_map]
      rfl
    show Derives _ (.callArguments function (move.call _)) _
    rw [call]
    exact passed
  | noArgument ended => exact .noArgument (Relocation.kind_of_kind closed parts rfl ended)
  | lastArgument unended only unparted moved =>
    exact .lastArgument (Relocation.kind_ne closed parts unended rfl) (moved closed)
      (Relocation.kind_ne (only.closed closed) parts unparted rfl)
  | moreArguments unended first parted isComma _ firstMoved othersMoved =>
    exact .moreArguments (Relocation.kind_ne closed parts unended rfl) (firstMoved closed)
      (Relocation.takes parted) isComma (othersMoved (parted.closed (first.closed closed)))
  | namedArgument taken isName assigned isSign new _ moved =>
    show Derives _ (.argument _ (move.arguments _)) _
    rw [Relocation.arguments_addNamed]
    exact .namedArgument (Relocation.takes taken) isName (Relocation.takes assigned) isSign
      (by rw [Relocation.named_any, new]) (moved (assigned.closed (taken.closed closed)))
  | positionalArgument unnamed _ moved =>
    show Derives _ (.argument _ (move.arguments _)) _
    rw [Relocation.arguments_addPositional]
    exact .positionalArgument (Relocation.startsName closed parts rfl rfl unnamed) (moved closed)

/-! ## Statements -/

namespace Relocation

variable (move : Relocation)

def statement (statement : Statement) : Statement :=
  statement.relabel (· + move.sites) move.place

/-- No `else` follows behind the breaks. -/
def NoElse : Prop :=
  ∀ site, (move.behind site).skipBreaks.kind ≠ .elseWord

variable {move} {start : Cursor}

theorem dropWhile_isBreak (tokens : List Token) :
    (tokens.map move.token).dropWhile (·.kind.isBreak) =
      (tokens.dropWhile (·.kind.isBreak)).map move.token :=
  List.dropWhile_map ..

/-- Breaks before the end are skipped along with those that follow. -/
theorem skipBreaks_cursor_of_nil {cursor : Cursor} (empty : cursor.skipBreaks.rest = []) :
    (move.cursor cursor).skipBreaks =
      (move.behind (cursor.nextSite + move.sites)).skipBreaks := by
  have empty : cursor.rest.dropWhile (·.kind.isBreak) = [] := empty
  simp only [Relocation.cursor, behind, skipBreaks, moveTo, List.dropWhile_append,
    dropWhile_isBreak, empty, List.map_nil, List.isEmpty_nil, if_true]

/-- Breaks before a token are skipped alike. -/
theorem skipBreaks_cursor_of_takes {cursor next : Cursor} {token : Token}
    (taken : cursor.skipBreaks.Takes token next) :
    (move.cursor cursor).skipBreaks = move.cursor cursor.skipBreaks := by
  have present : cursor.rest.dropWhile (·.kind.isBreak) = token :: next.rest :=
    congrArg Cursor.rest taken
  simp only [Relocation.cursor, skipBreaks, moveTo, List.dropWhile_append,
    dropWhile_isBreak, present, List.map_cons, List.isEmpty_cons, Bool.false_eq_true, if_false]

theorem current_span {next : Cursor} {token : Token} (taken : start.Takes token next) :
    (move.cursor start).current.span = move.place start.current.span := by
  subst taken
  rfl

end Relocation

theorem Cursor.nil_or_takes (cursor : Cursor) :
    cursor.rest = [] ∨ ∃ token next, cursor.Takes token next := by
  obtain ⟨_ | ⟨token, rest⟩, finish, site⟩ := cursor
  · exact .inl rfl
  · exact .inr ⟨token, ⟨rest, finish, site⟩, rfl⟩

theorem Cursor.takes_of_lt {cursor next : Cursor} (shorter : next.remaining < cursor.remaining) :
    ∃ token after, cursor.Takes token after := by
  obtain ⟨_ | ⟨token, rest⟩, finish, site⟩ := cursor
  · exact absurd shorter (Nat.not_lt_zero _)
  · exact ⟨token, ⟨rest, finish, site⟩, rfl⟩

theorem Cursor.DerivesStatement.relocate {move : Relocation} {start final : Cursor}
    {statement : Statement} (derived : DerivesStatement start statement final)
    (parts : move.Parts) (noElse : move.NoElse) (closed : start.Closed) :
    DerivesStatement (move.cursor start) (move.statement statement) (move.cursor final) := by
  induction derived with
  | ifThenElse taken isIf decided thenPart parted isElse elsePart thenMoved elseMoved =>
    have closedIf := taken.closed closed
    have closedCondition := skipBreaks_closed (decided.closed closedIf)
    have closedElse := skipBreaks_closed (parted.closed (thenPart.closed closedCondition))
    obtain ⟨_, _, thenFirst⟩ := takes_of_lt thenPart.runs.1
    obtain ⟨_, _, elseFirst⟩ := takes_of_lt elsePart.runs.1
    have thenMoved := thenMoved closedCondition
    have elseMoved := elseMoved closedElse
    rw [← Relocation.skipBreaks_cursor_of_takes thenFirst] at thenMoved
    rw [← Relocation.skipBreaks_cursor_of_takes elseFirst] at elseMoved
    have partedMoved : (move.cursor _).Takes _ (move.cursor _) := Relocation.takes parted
    rw [← Relocation.skipBreaks_cursor_of_takes parted] at partedMoved
    exact .ifThenElse (Relocation.takes taken) isIf (decided.relocate parts closedIf) thenMoved
      partedMoved isElse elseMoved
  | @ifThen _ _ _ afterThen _ _ _ taken isIf decided thenPart without thenMoved =>
    have closedIf := taken.closed closed
    have closedCondition := skipBreaks_closed (decided.closed closedIf)
    obtain ⟨_, _, thenFirst⟩ := takes_of_lt thenPart.runs.1
    have thenMoved := thenMoved closedCondition
    rw [← Relocation.skipBreaks_cursor_of_takes thenFirst] at thenMoved
    refine .ifThen (Relocation.takes taken) isIf (decided.relocate parts closedIf) thenMoved ?_
    rcases Cursor.nil_or_takes afterThen.skipBreaks with empty | ⟨_, _, next⟩
    · rw [Relocation.skipBreaks_cursor_of_nil empty]
      exact noElse _
    · rw [Relocation.skipBreaks_cursor_of_takes next]
      exact Relocation.kind_ne (skipBreaks_closed (thenPart.closed closedCondition)) parts without
        rfl
  | assign taken isName assigned isSign only =>
    exact .assign (Relocation.takes taken) isName (Relocation.takes assigned) isSign
      (only.relocate parts (assigned.closed (taken.closed closed)))
  | expression notIf unassigned undeclared only =>
    obtain ⟨_, _, first⟩ := takes_of_lt only.runs.1
    have moved := DerivesStatement.expression (Relocation.kind_ne closed parts notIf rfl)
      (Relocation.startsName closed parts rfl rfl unassigned)
      (Relocation.startsDeclaration closed parts undeclared) (only.relocate parts closed)
    rw [Relocation.current_span first] at moved
    exact moved

namespace Cursor

/-- Something about the statements from a cursor on that holds of one more statement if it holds of
those behind it. Breaks before the first one do not matter. -/
structure BuildsUp (holds : List Statement → Cursor → Prop) : Prop where
  of_skipBreaks : ∀ {statements start other}, holds statements start →
    start.skipBreaks = other.skipBreaks → holds statements other
  cons : ∀ {start afterFirst next statement statements}, start.skipBreaks.kind ≠ .endOfInput →
    DerivesStatement start.skipBreaks statement afterFirst → afterFirst.Ends next →
    holds statements next → holds (statement :: statements) start

theorem DerivesAll.of_skipBreaks {start other final : Cursor} {statements : List Statement}
    (derived : DerivesAll start statements final) (same : start.skipBreaks = other.skipBreaks) :
    DerivesAll other statements final := by
  cases derived with
  | nil atEnd =>
    rw [same] at atEnd ⊢
    exact .nil atEnd
  | cons unended first ended others =>
    rw [same] at unended first
    exact .cons unended first ended others

theorem DerivesAll.buildsUp (final : Cursor) :
    BuildsUp fun statements start => DerivesAll start statements final :=
  ⟨DerivesAll.of_skipBreaks, .cons⟩

namespace BuildsUp

variable {holds : List Statement → Cursor → Prop} {statements : List Statement}

/-- A statement can end where a line break follows, or nothing. -/
theorem ends {start : Cursor} (builds : BuildsUp holds) (here : holds statements start)
    (closed : start.Closed) (parted : start.kind = .newline ∨ start.kind = .endOfInput) :
    ∃ next, start.Ends next ∧ holds statements next := by
  rcases parted with broken | ended
  · obtain ⟨token, next, taken, same⟩ := takes_of_kind closed (by rw [broken]; nofun)
    have isBreak := same.trans broken
    refine ⟨next, .newline taken isBreak, builds.of_skipBreaks here ?_⟩
    subst taken
    have skipped : token.kind.isBreak = true := by rw [isBreak]; rfl
    exact congrArg next.moveTo (List.dropWhile_cons_of_pos skipped)
  · exact ⟨start, .finished ended, here⟩

/-- The end of a statement that is moved is in front of the statements that were moved, even if
there was no line break. -/
theorem relocate_ends {move : Relocation} {cursor next : Cursor} (builds : BuildsUp holds)
    (ended : cursor.Ends next) (parts : move.Parts)
    (closedFinish : move.finish.kind = .endOfInput) (closed : cursor.Closed)
    (others : holds statements (move.cursor next)) :
    ∃ after, (move.cursor cursor).Ends after ∧ holds statements after := by
  cases ended with
  | newline taken isBreak =>
    exact ⟨_, .newline (Relocation.takes taken) isBreak, others⟩
  | finished atEnd =>
    refine builds.ends others closedFinish ?_
    rcases Relocation.kind_eq closed parts with kept | ⟨_, parted⟩
    · exact .inr (kept.trans atEnd)
    · exact parted

/-- What holds of the statements that follow holds of them with the moved ones in front. -/
theorem relocate_append {move : Relocation} {start middle : Cursor} {others : List Statement}
    (builds : BuildsUp holds) (derived : DerivesAll start statements middle)
    (parts : move.Parts) (noElse : move.NoElse) (closedFinish : move.finish.kind = .endOfInput)
    (closed : start.Closed) (unended : start.Unended)
    (further : holds others (move.behind (middle.nextSite + move.sites))) :
    holds (statements.map move.statement ++ others) (move.cursor start) := by
  induction derived with
  | @nil start atEnd =>
    refine builds.of_skipBreaks further ?_
    have empty := ((Balanced.skipBreaks start).unended unended).rest_eq_nil atEnd
    exact (Relocation.skipBreaks_cursor_of_nil empty).symm
  | @cons start afterFirst next _ _ _ present first ended rest moved =>
    have balanced := (Balanced.skipBreaks start).trans first.balanced
    have closedStart := skipBreaks_closed closed
    have closedFirst := first.closed closedStart
    obtain ⟨_, _, starts⟩ := takes_of_lt first.runs.1
    have others := moved (ended.closed closedFirst)
      (ended.balanced.unended (balanced.unended unended)) further
    have firstMoved := first.relocate parts noElse closedStart
    rw [← Relocation.skipBreaks_cursor_of_takes starts] at firstMoved
    have presentMoved : (move.cursor start).skipBreaks.kind ≠ .endOfInput := by
      rw [Relocation.skipBreaks_cursor_of_takes starts]
      rcases Relocation.kind_eq closedStart parts with kept | ⟨atEnd, _⟩
      · exact kept ▸ present
      · exact absurd atEnd present
    obtain ⟨next, ended, others⟩ := builds.relocate_ends ended parts closedFinish closedFirst others
    exact builds.cons presentMoved firstMoved ended others

end BuildsUp

end Cursor

/-! ## Programs -/

namespace Relocation

variable (move : Relocation)

def declaration (declaration : Declaration) : Declaration where
  kind := declaration.kind
  call := move.call declaration.call
  span := move.place declaration.span

/-- What follows declares nothing. -/
def Undeclared : Prop :=
  ∀ site, ¬(move.behind site).skipBreaks.StartsDeclaration

end Relocation

namespace Cursor

/-- A program with further statements behind it. -/
theorem DerivesProgram.relocate_append {move : Relocation} {start middle final : Cursor}
    {declaration : Option Declaration} {statements others : List Statement}
    (derived : DerivesProgram start declaration statements middle) (parts : move.Parts)
    (noElse : move.NoElse) (undeclaredTail : move.Undeclared)
    (closedFinish : move.finish.kind = .endOfInput) (closed : start.Closed)
    (unended : start.Unended)
    (further : DerivesAll (move.behind (middle.nextSite + move.sites)) others final) :
    DerivesProgram (move.cursor start) (declaration.map move.declaration)
      (statements.map move.statement ++ others) final := by
  cases derived with
  | declared taken isName isWord called ended rest =>
    have closedStart := skipBreaks_closed closed
    have closedWord := taken.closed closedStart
    have closedCall := called.closed closedWord
    have read := (Balanced.skipBreaks start).trans
      ((Balanced.token taken (by rw [isName]; exact fun _ => rfl)).trans called.balanced)
    have builds := DerivesAll.buildsUp final
    have rest := builds.relocate_append rest parts noElse closedFinish (ended.closed closedCall)
      (ended.balanced.unended (read.unended unended)) further
    obtain ⟨next, ended, rest⟩ := builds.relocate_ends ended parts closedFinish closedCall rest
    have takenMoved : (move.cursor _).Takes _ (move.cursor _) := Relocation.takes taken
    rw [← Relocation.skipBreaks_cursor_of_takes taken] at takenMoved
    exact .declared takenMoved isName isWord (called.relocate parts closedWord) ended rest
  | undeclared undeclared only =>
    have closedStart := skipBreaks_closed closed
    have moved := (DerivesAll.buildsUp final).relocate_append only parts noElse closedFinish
      closedStart ((Balanced.skipBreaks start).unended unended) further
    rcases nil_or_takes start.skipBreaks with empty | ⟨_, _, first⟩
    · refine .undeclared ?_ (moved.of_skipBreaks ?_)
      · rw [Relocation.skipBreaks_cursor_of_nil empty]
        exact undeclaredTail _
      · rw [skipBreaks_skipBreaks, Relocation.skipBreaks_cursor_of_nil empty,
          Relocation.skipBreaks_cursor_of_nil (by rwa [skipBreaks_skipBreaks])]
        rfl
    · have here := @Relocation.skipBreaks_cursor_of_takes move _ _ _ first
      refine .undeclared ?_ (here ▸ moved)
      rw [here]
      exact Relocation.startsDeclaration closedStart parts undeclared

end Cursor

end ChartScript
