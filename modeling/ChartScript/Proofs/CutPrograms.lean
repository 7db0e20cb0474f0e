import ChartScript.Proofs.CutExpressions
import ChartScript.Proofs.ReadTokens
import Mathlib.Data.List.Chain

/-!
# Programs that are cut off

The first tokens of a program are a program, or the only fault in them is that they end. Where an
`if` waits for its `else`, the line breaks read so far end the statement. A version comment there
would not, but the scanner makes a token of it only at the start of a line.
-/

set_option autoImplicit false

namespace ChartScript

/-- Outside of brackets, a break is a line break or comes first or behind a break. -/
def LinedOutside (tokens : List Token) : Prop :=
  ∀ front token, front ++ [token] <+: tokens → token.kind.isBreak = true →
    Lexer.depthAfterAll 0 front = 0 →
    token.kind = .newline ∨ ∀ last ∈ front.getLast?, last.kind.isBreak = true

theorem LinedOutside.concat {tokens : List Token} {token : Token} (lined : LinedOutside tokens)
    (here : token.kind.isBreak = true → Lexer.depthAfterAll 0 tokens = 0 →
      token.kind = .newline ∨ ∀ last ∈ tokens.getLast?, last.kind.isBreak = true) :
    LinedOutside (tokens ++ [token]) := by
  intro front other among isBreak outside
  rcases List.prefix_concat_iff.mp among with whole | earlier
  · obtain ⟨rfl, same⟩ := List.append_inj' whole rfl
    cases same
    exact here isBreak outside
  · exact lined front other earlier isBreak outside

namespace Lexer

theorem lexeme_not_isBreak {first : Char} {rest : List Char} {kind : TokenKind} {further : Nat}
    (read : lexeme first rest = .ok (kind, further)) : kind.isBreak = false := by
  cases lexeme_cases read with
  | string | color | number => rfl
  | word =>
    unfold TokenKind.ofWord
    split <;> rfl
  | sign isSign => cases kind <;> first | rfl | cases isSign

namespace Scanner

/-- What was read so far is in lines, and at the start of a line outside of brackets the last token
was a break. -/
structure InLines (read : List Token) (scanner : Scanner) : Prop where
  lined : LinedOutside read
  depth : scanner.depth = depthAfterAll 0 read
  behindBreak : scanner.atLineStart = true → scanner.depth = 0 →
    ∀ last ∈ read.getLast?, last.kind.isBreak = true

theorem Step.inLines {scanner next : Scanner} {before read : List Token}
    (step : Step scanner read next) (lines : InLines before scanner) :
    InLines (before ++ read) next := by
  have depth : next.depth = depthAfterAll 0 (before ++ read) := by
    rw [step.scans.depth, lines.depth, depthAfterAll_append]
  cases step with
  | blank | comment =>
    rw [List.append_nil] at depth ⊢
    exact ⟨lines.lined, depth, lines.behindBreak⟩
  | hiddenBreak _ inside =>
    rw [List.append_nil] at depth ⊢
    exact ⟨lines.lined, depth, fun _ outside => absurd outside (Nat.ne_of_gt inside)⟩
  | newline =>
    refine ⟨lines.lined.concat fun _ _ => .inl rfl, depth, fun _ _ last isLast => ?_⟩
    rw [List.getLast?_concat] at isLast
    cases isLast
    rfl
  | version _ _ special =>
    have atLineStart := (Bool.and_eq_true_iff.mp special).1
    refine ⟨lines.lined.concat fun _ outside => .inr ?_, depth, fun _ _ last isLast => ?_⟩
    · exact lines.behindBreak atLineStart (lines.depth.trans outside)
    · rw [List.getLast?_concat] at isLast
      cases isLast
      rfl
  | lexeme _ _ _ _ read =>
    refine ⟨lines.lined.concat fun isBreak _ => ?_, depth, fun atLineStart => nomatch atLineStart⟩
    exact absurd isBreak (Bool.eq_false_iff.mp (lexeme_not_isBreak read))

theorem Scans.inLines {scanner final : Scanner} {before read : List Token}
    (scans : Scans scanner read final) (lines : InLines before scanner) :
    InLines (before ++ read) final := by
  induction scans generalizing before with
  | done => rwa [List.append_nil]
  | step first _ ih =>
    rw [← List.append_assoc]
    exact ih (first.inLines lines)

theorem inLines_start (source : String) : InLines [] (start source) := by
  refine ⟨fun front token among => ?_, rfl, fun _ _ => nofun⟩
  simp at among

end Scanner

end Lexer

/-- A break is a line break, or stands behind a break or before all other tokens. -/
def Lined (tokens : List Token) : Prop :=
  tokens.IsChain fun before token =>
    token.kind.isBreak = true → token.kind = .newline ∨ before.kind.isBreak = true

theorem Cursor.Balanced.lined {start final : Cursor} (balanced : Cursor.Balanced start final)
    (none : final.rest = []) (lined : LinedOutside start.rest) : Lined start.rest := by
  obtain ⟨read, split, _, outside⟩ := balanced
  rw [none, List.append_nil] at split
  rw [split] at lined ⊢
  refine List.isChain_iff_forall_rel_of_append_cons_cons.mpr fun before token front back here => ?_
  intro isBreak
  have here : read = (front ++ [before]) ++ token :: back := by
    rw [here, List.append_assoc]
    rfl
  refine (lined (front ++ [before]) token ?_ isBreak (outside _ _ _ here isBreak 0)).imp_right
    fun behind => behind before List.getLast?_concat
  rw [here]
  exact (List.prefix_append_right_inj _).mpr (List.cons_prefix_cons.mpr ⟨rfl, List.nil_prefix⟩)

namespace Cursor

/-- The tokens at a cursor are in lines, with the end of the input behind them. -/
structure InLines (cursor : Cursor) : Prop where
  closed : cursor.Closed
  lined : Lined cursor.rest

namespace InLines

variable {start final : Cursor} (lines : start.InLines)

include lines

theorem behind (balanced : Balanced start final) (closed : final.Closed) : final.InLines := by
  obtain ⟨read, split, _⟩ := balanced
  exact ⟨closed, lines.lined.suffix ⟨read, split.symm⟩⟩

theorem takes {token : Token} (taken : start.Takes token final) : final.InLines := by
  subst taken
  exact ⟨lines.closed, lines.lined.tail⟩

theorem skipBreaks : start.skipBreaks.InLines :=
  lines.behind (.skipBreaks start) lines.closed

theorem derives {production : Production} (derived : Derives start production final) :
    final.InLines :=
  lines.behind derived.balanced (derived.closed lines.closed)

theorem derivesStatement {statement : Statement} (derived : DerivesStatement start statement final) :
    final.InLines :=
  lines.behind derived.balanced (derived.closed lines.closed)

end InLines

/-- A statement read its last token here, which is no break. -/
def EndsLine (start final : Cursor) : Prop :=
  ∃ last, last :: final.rest <:+ start.rest ∧ last.kind.isBreak = false

theorem EndsLine.behind {start middle final : Cursor} (balanced : Balanced start middle)
    (endsLine : EndsLine middle final) : EndsLine start final := by
  obtain ⟨read, split, _⟩ := balanced
  obtain ⟨last, among, noBreak⟩ := endsLine
  exact ⟨last, among.trans ⟨read, split.symm⟩, noBreak⟩

theorem Derives.endsLine {start final : Cursor} {value : Expr}
    (derived : Derives start (.expression value) final) : EndsLine start final := by
  obtain ⟨read, split, _, line⟩ := derived.flat
  obtain ⟨fewer, _⟩ := derived.runs
  rcases read.eq_nil_or_concat' with rfl | ⟨front, last, rfl⟩
  · rw [remaining, remaining, split, List.nil_append] at fewer
    exact absurd fewer (Nat.lt_irrefl _)
  · refine ⟨last, ⟨front, ?_⟩, line last (by simp)⟩
    rw [split, List.append_assoc]
    rfl

theorem DerivesStatement.endsLine {start final : Cursor} {statement : Statement}
    (derived : DerivesStatement start statement final) : EndsLine start final := by
  induction derived with
  | @ifThenElse _ _ afterCondition afterThen afterElse _ _ _ _ _ _ taken isIf decided thenPart parted
      isElse _ _ elsePart =>
    have word := Balanced.token taken (by rw [isIf]; exact fun _ => rfl)
    have other := Balanced.token parted (by rw [isElse]; exact fun _ => rfl)
    have thenPart := (Balanced.skipBreaks afterCondition).trans thenPart.balanced
    have middle := ((Balanced.skipBreaks afterThen).trans other).trans (.skipBreaks afterElse)
    exact elsePart.behind (word.trans (decided.balanced.trans (thenPart.trans middle)))
  | @ifThen _ _ afterCondition _ _ _ _ taken isIf decided _ _ thenPart =>
    have word := Balanced.token taken (by rw [isIf]; exact fun _ => rfl)
    exact thenPart.behind (word.trans (decided.balanced.trans (.skipBreaks afterCondition)))
  | assign taken isName assigned isSign only =>
    have name := Balanced.token taken (by rw [isName]; exact fun _ => rfl)
    have sign := Balanced.token assigned (TokenKind.plain_isAssignment isSign).2
    exact only.endsLine.behind (name.trans sign)
  | expression _ _ _ only => exact only.endsLine

/-- Behind a statement no version comment stands on the same line. -/
theorem DerivesStatement.newline {start final : Cursor} {statement : Statement}
    (derived : DerivesStatement start statement final) (lines : start.InLines)
    (isBreak : final.kind.isBreak = true) : final.kind = .newline := by
  have closed := derived.closed lines.closed
  obtain ⟨last, among, noBreak⟩ := derived.endsLine
  obtain ⟨_ | ⟨token, rest⟩, finish, site⟩ := final
  · have closed : finish.kind = .endOfInput := closed
    have isBreak : finish.kind.isBreak = true := isBreak
    rw [closed] at isBreak
    cases isBreak
  · have pair := List.isChain_cons_cons.mp (lines.lined.suffix among)
    refine (pair.1 isBreak).resolve_right fun behind => ?_
    rw [noBreak] at behind
    cases behind

/-- Only breaks are left, and the first one of them ends a statement. -/
structure Halts (finish : Token) (cursor : Cursor) : Prop where
  atEnd : cursor.skipBreaks.AtEnd finish
  newline : cursor.kind.isBreak = true → cursor.kind = .newline

namespace AtEnd

variable {finish : Token} {cursor : Cursor} (atEnd : cursor.AtEnd finish)

include atEnd

theorem skipBreaks : cursor.skipBreaks.AtEnd finish := by
  refine ⟨?_, atEnd.finish⟩
  rw [Cursor.skipBreaks, moveTo, atEnd.rest]
  rfl

theorem not_startsDeclaration : ¬cursor.StartsDeclaration := by
  rintro ⟨token, afterName, name, taken, _⟩
  subst taken
  cases atEnd.rest

variable (ended : finish.kind = .endOfInput)

include ended

theorem halts : cursor.Halts finish := by
  refine ⟨atEnd.skipBreaks, fun isBreak => ?_⟩
  rw [atEnd.kind, ended] at isBreak
  cases isBreak

theorem statement : cursor.statement = .error (.missing finish .expression) := by
  unfold Cursor.statement
  rw [atEnd.accept?, assignmentTarget?_eq, atEnd.nameBefore?,
    declarationKind?_eq_none_iff.mpr atEnd.not_startsDeclaration, atEnd.expression ended]
  rfl

theorem derivesAll : DerivesAll cursor [] cursor.skipBreaks :=
  .nil (atEnd.skipBreaks.kind.trans ended)

end AtEnd

theorem Halts.ends {finish : Token} {cursor : Cursor} (halts : cursor.Halts finish)
    (ended : finish.kind = .endOfInput) :
    ∃ next, cursor.Ends next ∧ next.skipBreaks.AtEnd finish := by
  obtain ⟨⟨none, rfl⟩, newline⟩ := halts
  obtain ⟨_ | ⟨token, rest⟩, finish, site⟩ := cursor
  · exact ⟨_, .finished ended, ⟨rfl, rfl⟩⟩
  · have breaks := List.dropWhile_eq_nil_iff.mp none
    obtain ⟨isBreak, others⟩ := List.forall_mem_cons.mp breaks
    exact ⟨⟨rest, finish, site⟩, .newline rfl (newline isBreak),
      ⟨List.dropWhile_eq_nil_iff.mpr others, rfl⟩⟩

theorem Takes.derivesStatement_name {start final : Cursor} {finish token : Token} {name : String}
    (taken : start.Takes token final) (isName : token.kind = .identifier name)
    (atEnd : final.AtEnd finish) (ended : finish.kind = .endOfInput) :
    DerivesStatement start (.expression (.name name token.span) start.current.span) final := by
  have nothing : final.kind = .endOfInput := atEnd.kind.trans ended
  refine .expression ?_ (taken.not_startsName ?_) (taken.not_startsDeclaration ?_)
    (taken.derives_name isName atEnd ended)
  · rw [taken.kind, isName]
    nofun
  · rw [nothing]
    rfl
  · rw [nothing]
    nofun

namespace Cut

variable {finish : Token} {short long : Cursor} (cut : short.Cut finish long)

include cut

theorem skipBreaks : short.skipBreaks.Cut finish long.skipBreaks := by
  refine ⟨?_, cut.finish, cut.nextSite⟩
  obtain ⟨behind, split⟩ := cut.rest
  rw [Cursor.skipBreaks, Cursor.skipBreaks, moveTo, moveTo, ← split, List.dropWhile_append]
  split
  case isTrue none =>
    rw [List.isEmpty_iff.mp none]
    exact List.nil_prefix
  case isFalse => exact List.prefix_append _ _

variable (ended : finish.kind = .endOfInput)

include ended

theorem startsDeclaration (starts : short.StartsDeclaration) : long.StartsDeclaration := by
  obtain ⟨token, afterName, name, taken, isName, isWord, opened⟩ := starts
  obtain ⟨longNext, takenThere, cut⟩ := cut.takes_back taken
  refine ⟨token, longNext, name, takenThere, isName, isWord, ?_⟩
  rcases cut.kind_cases with nothing | same
  · rw [nothing.kind, ended] at opened
    cases opened
  · rwa [← same]

theorem halts (newline : long.kind.isBreak = true → long.kind = .newline)
    (atEnd : short.skipBreaks.AtEnd finish) : short.Halts finish := by
  refine ⟨atEnd, fun isBreak => ?_⟩
  rcases cut.kind_cases with nothing | same
  · rw [nothing.kind, ended] at isBreak
    cases isBreak
  · rw [same] at isBreak ⊢
    exact newline isBreak

theorem ends {next : Cursor} (ends : long.Ends next) : ∃ shortNext, short.Ends shortNext ∧
    (shortNext.Cut finish next ∨ shortNext.AtEnd finish) := by
  rcases cut.kind_cases with atEnd | same
  · exact ⟨short, .finished (atEnd.kind.trans ended), .inr atEnd⟩
  cases ends with
  | newline taken isBreak =>
    rcases cut.takes taken with atEnd | ⟨shortNext, taken, cut⟩
    · exact ⟨short, .finished (atEnd.kind.trans ended), .inr atEnd⟩
    · exact ⟨shortNext, .newline taken isBreak, .inl cut⟩
  | finished nothing => exact ⟨short, .finished (same.trans nothing), .inl cut⟩

end Cut

/-! ## Statements -/

open ParseResult (Viable)

/-- Nothing is wrong, or only that something is missing at the end of the input. -/
def EndsEarly {α : Type} (finish : Token) (result : Except SyntaxError α) : Prop :=
  (∃ value, result = .ok value) ∨ ∃ expected, result = .error (.missing finish expected)

theorem EndsEarly.body {cursor final : Cursor} {finish : Token} {stops : Cursor → Prop}
    {statements : List Statement} (viable : Viable finish stops statements final cursor.statements)
    (version : Nat) (declaration : Option Declaration) :
    EndsEarly finish (cursor.body version declaration) := by
  unfold Cursor.body
  generalize cursor.statements = result at viable ⊢
  cases viable with
  | reads cut => exact .inl ⟨_, rfl⟩
  | stops here => exact .inl ⟨_, rfl⟩
  | fails expected => exact .inr ⟨expected, rfl⟩

section Viable

variable {finish : Token} (ended : finish.kind = .endOfInput)

include ended

theorem Derives.viable_expression {start short final : Cursor} {value : Expr}
    (derived : Derives start (.expression value) final) (cut : short.Cut finish start) :
    Viable finish (AtEnd finish) value final short.expression :=
  derived.viable ended short cut

/-- A statement goes the same way where tokens are cut off. It can lose its `else`, and ends before
the line breaks that stand there. -/
theorem DerivesStatement.viable {start final : Cursor} {statement : Statement}
    (derived : DerivesStatement start statement final) : ∀ short : Cursor, short.Cut finish start →
      start.InLines → Viable finish (Halts finish) statement final short.statement := by
  induction derived with
  | ifThenElse taken isIf decided thenDerived parted isElse _ thenPart elsePart =>
    intro short cut lines
    have linesThen := (lines.takes taken).derives decided |>.skipBreaks
    have linesElse := (linesThen.derivesStatement thenDerived).skipBreaks.takes parted |>.skipBreaks
    rcases cut.takes taken with atEnd | ⟨afterIf, taken, cut⟩
    · rw [atEnd.statement ended]
      exact .fails _
    rw [statement_of_if taken isIf]
    refine (decided.viable_expression ended cut).bind (fun shortCondition _ cut => ?_)
      fun _ _ _ atEnd => ?_
    · refine (thenPart _ cut.skipBreaks linesThen).bind (fun shortThen _ cut => ?_)
        fun _ _ _ halts => ?_
      · rcases cut.skipBreaks.takes parted with atEnd | ⟨afterElse, parted, cutElse⟩
        · simp only [atEnd.accept?]
          exact .stops (cut.halts ended (thenDerived.newline linesThen) atEnd)
        · simp only [parted.accept?, isElse]
          exact (elsePart _ cutElse.skipBreaks linesElse).bind (fun _ _ cut => .reads cut)
            fun _ _ _ halts => .stops halts
      · simp only [halts.atEnd.accept?]
        exact .stops halts
    · simp only [atEnd.skipBreaks.statement ended]
      exact .fails _
  | ifThen taken isIf decided thenDerived noElse thenPart =>
    intro short cut lines
    have linesThen := (lines.takes taken).derives decided |>.skipBreaks
    rcases cut.takes taken with atEnd | ⟨afterIf, taken, cut⟩
    · rw [atEnd.statement ended]
      exact .fails _
    rw [statement_of_if taken isIf]
    refine (decided.viable_expression ended cut).bind (fun shortCondition _ cut => ?_)
      fun _ _ _ atEnd => ?_
    · refine (thenPart _ cut.skipBreaks linesThen).bind (fun shortThen _ cut => ?_)
        fun _ _ _ halts => ?_
      · have noElse := cut.skipBreaks.kind_ne ended noElse (by simp)
        dsimp only
        rw [accept?_of_false (by split <;> trivial)]
        exact .reads cut
      · simp only [halts.atEnd.accept?]
        exact .stops halts
    · simp only [atEnd.skipBreaks.statement ended]
      exact .fails _
  | assign taken isName assigned isSign only =>
    intro short cut _
    rcases cut.takes taken with atEnd | ⟨afterName, taken, cut⟩
    · rw [atEnd.statement ended]
      exact .fails _
    rcases cut.takes assigned with atEnd | ⟨afterSign, assigned, cut⟩
    · -- Without the sign behind it, the name is a statement.
      obtain ⟨_, runs⟩ := (taken.derivesStatement_name isName atEnd ended).runs
      rw [runs]
      exact .stops (atEnd.halts ended)
    · rw [statement_of_assigned taken isName assigned isSign]
      exact (only.viable_expression ended cut).bind (fun _ _ cut => .reads cut)
        fun _ _ _ atEnd => .stops (atEnd.halts ended)
  | expression notIf unassigned undeclared only =>
    intro short cut _
    rcases cut.current_cases with atEnd | same
    · rw [atEnd.statement ended]
      exact .fails _
    have notIf := cut.kind_ne ended notIf (by simp)
    have unassigned := fun starts => unassigned (cut.startsName ended starts rfl)
    have undeclared := fun starts => undeclared (cut.startsDeclaration ended starts)
    rw [statement_of_expression notIf unassigned undeclared, ← same]
    exact (only.viable_expression ended cut).bind (fun _ _ cut => .reads cut)
      fun _ _ _ atEnd => .stops (atEnd.halts ended)

/-- Statements are read to the end of the input, or fail there. -/
theorem DerivesAll.viable {start final : Cursor} {statements : List Statement}
    (derived : DerivesAll start statements final) : ∀ short : Cursor, short.Cut finish start →
      start.InLines → Viable finish (fun _ => True) statements final short.statements := by
  induction derived with
  | nil atEnd =>
    intro short cut _
    have atEnd : short.skipBreaks.kind = .endOfInput := by
      rcases cut.skipBreaks.kind_cases with nothing | same
      · exact nothing.kind.trans ended
      · exact same.trans atEnd
    rw [statements_of_end atEnd]
    exact .stops trivial
  | cons unended first ends _ others =>
    intro short cut lines
    rcases cut.skipBreaks.kind_cases with nothing | same
    · rw [statements_of_end (nothing.kind.trans ended)]
      exact .stops trivial
    have linesFirst := lines.skipBreaks.derivesStatement first
    have linesNext := linesFirst.behind ends.balanced (ends.closed linesFirst.closed)
    rw [statements_of_unended (by rwa [same])]
    refine (first.viable ended _ cut.skipBreaks lines.skipBreaks).bind (fun afterFirst _ cut => ?_)
      fun _ afterFirst _ halts => ?_
    · obtain ⟨next, ends, cut | atEnd⟩ := cut.ends ended ends
      · obtain ⟨_, ends⟩ := ends.runs
        simp only [ends, ok_bind]
        exact (others next cut linesNext).bind (fun _ _ cut => .reads cut) fun _ _ _ _ => .stops trivial
      · obtain ⟨_, ends⟩ := ends.runs
        obtain ⟨_, runs⟩ := (atEnd.derivesAll ended).runs
        simp only [ends, ok_bind, runs]
        exact .stops trivial
    · obtain ⟨next, ends, atEnd⟩ := halts.ends ended
      obtain ⟨_, ends⟩ := ends.runs
      obtain ⟨_, runs⟩ := (DerivesAll.nil (atEnd.kind.trans ended)).runs
      simp only [ends, ok_bind, runs]
      exact .stops trivial

/-! ## Programs -/

theorem Takes.derivesProgram_name {start final : Cursor} {token : Token} {name : String}
    (taken : start.skipBreaks.Takes token final) (isName : token.kind = .identifier name)
    (atEnd : final.AtEnd finish) : ∃ statements last, DerivesProgram start none statements last := by
  have only := taken.derivesStatement_name isName atEnd ended
  rw [← skipBreaks_skipBreaks] at only
  have nothing : final.kind = .endOfInput := atEnd.kind.trans ended
  refine ⟨_, _, .undeclared (taken.not_startsDeclaration ?_)
    (.cons ?_ only (.finished nothing) (atEnd.derivesAll ended))⟩
  · rw [nothing]
    nofun
  · rw [skipBreaks_skipBreaks, taken.kind, isName]
    nofun

theorem derivesProgram_nil {cursor : Cursor} (atEnd : cursor.skipBreaks.AtEnd finish) :
    ∃ last, DerivesProgram cursor none [] last :=
  ⟨_, .undeclared atEnd.not_startsDeclaration (atEnd.derivesAll ended)⟩

theorem AtEnd.body {cursor : Cursor} (atEnd : cursor.AtEnd finish) (version : Nat)
    (declaration : Option Declaration) : EndsEarly finish (cursor.body version declaration) := by
  obtain ⟨_, runs⟩ := (atEnd.derivesAll ended).runs
  rw [Cursor.body, runs]
  exact .inl ⟨_, rfl⟩

theorem DerivesProgram.viable {start final short : Cursor} {declaration : Option Declaration}
    {statements : List Statement} (derived : DerivesProgram start declaration statements final)
    (cut : short.Cut finish start) (lines : start.InLines) : EndsEarly finish short.program := by
  have here := cut.skipBreaks
  have lines := lines.skipBreaks
  cases derived with
  | undeclared undeclared only =>
    have undeclared := fun starts => undeclared (here.startsDeclaration ended starts)
    rw [program_of_declarationKind?_none (declarationKind?_eq_none_iff.mpr undeclared)]
    exact .body (only.viable ended _ here lines) _ _
  | declared taken isName isWord called ends others =>
    have opened := called.startsCall
    have linesCall := (lines.takes taken).derives called
    have linesNext := linesCall.behind ends.balanced (ends.closed linesCall.closed)
    rcases here.takes taken with atEnd | ⟨afterWord, taken, cut⟩
    · obtain ⟨_, nothing⟩ := derivesProgram_nil ended atEnd
      exact .inl ⟨_, nothing.runs⟩
    rcases cut.kind_cases with atEnd | same
    · obtain ⟨_, _, alone⟩ := taken.derivesProgram_name ended isName atEnd
      exact .inl ⟨_, alone.runs⟩
    have found := declarationKind?_of_takes taken isName isWord (same.trans opened)
    have viable := called.viable ended _ cut _ (Nat.le_refl _)
    rw [program_of_declarationKind?_some found]
    generalize Cursor.callArguments _ _ _ afterWord _ = result at viable ⊢
    cases viable with
    | reads cut =>
      obtain ⟨next, ends, cut | atEnd⟩ := cut.ends ended ends
      · obtain ⟨_, ends⟩ := ends.runs
        simp only [ok_bind, ends]
        exact .body (others.viable ended _ cut linesNext) _ _
      · obtain ⟨_, ends⟩ := ends.runs
        simp only [ok_bind, ends]
        exact atEnd.body ended _ _
    | stops atEnd =>
      obtain ⟨_, ends⟩ := (Ends.finished (atEnd.kind.trans ended)).runs
      simp only [ok_bind, ends]
      exact atEnd.body ended _ _
    | fails expected => exact .inr ⟨expected, rfl⟩

end Viable

end Cursor

open Lexer Scanner

/-- The end of the input behind a number of tokens: where the last of them is. -/
def endBehind (tokens : List Token) : Token :=
  ⟨.endOfInput, "", (tokens.getLast?.map Token.span).getD .nowhere⟩

theorem Cursor.ofTokens_unended {tokens : List Token}
    (unended : ∀ token ∈ tokens, token.kind ≠ .endOfInput) :
    ofTokens tokens = ⟨tokens, endBehind tokens, 0⟩ := by
  unfold ofTokens endBehind
  cases last : tokens.getLast? with
  | none =>
    rw [List.getLast?_eq_none_iff.mp last]
    rfl
  | some token =>
    have unended := unended token (List.mem_of_getLast? last)
    simp only [Option.map_some, Option.getD_some]
    rw [if_neg (by simp)]

theorem parseTokens_endsEarly {source : String} {read tokens : List Token} {last : Scanner}
    {declaration : Option Declaration} {statements : List Statement} {final : Cursor}
    (scans : Scans (start source) read last)
    (derived : Cursor.DerivesProgram (last.cursor read) declaration statements final)
    (among : tokens <+: read) :
    Cursor.EndsEarly (endBehind tokens) (parseTokens tokens) := by
  have lined := (scans.inLines (inLines_start source)).lined
  have lines : (last.cursor read).InLines :=
    ⟨rfl, derived.balanced.lined (derived.rest_eq_nil scans.unended) lined⟩
  have cut : Cursor.Cut (endBehind tokens) ⟨tokens, endBehind tokens, 0⟩ (last.cursor read) :=
    ⟨among, rfl, rfl⟩
  have unended : ∀ token ∈ tokens, token.kind ≠ .endOfInput :=
    fun token member => scans.unended token (among.subset member)
  rw [parseTokens, Cursor.ofTokens_unended unended]
  rcases derived.viable rfl cut lines with ⟨⟨part, _⟩, found⟩ | ⟨expected, failed⟩
  · rw [found]
    exact .inl ⟨part, rfl⟩
  · rw [failed]
    exact .inr ⟨expected, rfl⟩

theorem parseTokens_nil : ∃ part, parseTokens [] = .ok part := by
  have atEnd : Cursor.AtEnd (endBehind []) ⟨[], endBehind [], 0⟩ := ⟨rfl, rfl⟩
  obtain ⟨_, derived⟩ := Cursor.derivesProgram_nil rfl atEnd.skipBreaks
  rw [parseTokens, Cursor.ofTokens_unended (by simp), derived.runs]
  exact ⟨_, rfl⟩

/-- The first tokens of a program are a program, or all that is missing is what follows them: the
error is that the input ends, and its place is that of the last one of them. -/
theorem parseTokens_take {source : String} {tokens : List Token} {program : Program}
    (scanned : tokenize source = .ok tokens) (parsed : parse source = .ok program) (count : Nat) :
    (∃ part, parseTokens (tokens.take count) = .ok part) ∨
      0 < count ∧ ∃ last error, tokens[count - 1]? = some last ∧
        parseTokens (tokens.take count) = .error error ∧
        (∃ front, error.message = front ++ "got end of input") ∧
        error.line = last.span.line ∧ error.column = last.span.column := by
  obtain ⟨read, final, _, scans, ended, _, derived, _⟩ := of_parse_ok parsed
  have all : tokenize source = .ok (read ++ [final.token .endOfInput []]) :=
    scans.tokens_ok (tokens_of_end ended)
  obtain rfl := Except.ok.inj (scanned.symm.trans all)
  rcases Nat.lt_or_ge read.length count with whole | cut
  · have complete : parseTokens (read ++ [final.token .endOfInput []]) = .ok program := by
      rw [parse, scanned] at parsed
      cases complete : parseTokens (read ++ [final.token .endOfInput []]) with
      | error error =>
        simp only [complete] at parsed
        cases parsed
      | ok part =>
        simp only [complete] at parsed
        exact congrArg Except.ok (Except.ok.inj parsed)
    rw [List.take_of_length_le (by rw [List.length_append]; exact whole)]
    exact .inl ⟨program, complete⟩
  rw [List.take_append_of_le_length cut]
  rcases parseTokens_endsEarly scans derived (List.take_prefix count read) with
    ⟨part, found⟩ | ⟨expected, failed⟩
  · exact .inl ⟨part, found⟩
  rcases Nat.eq_zero_or_pos count with rfl | positive
  · exact .inl parseTokens_nil
  · have fits : count - 1 < read.length := by omega
    have isLast : (read.take count).getLast? = some read[count - 1] := by
      rw [List.getLast?_eq_getElem?, List.length_take_of_le cut, List.getElem?_take_of_lt (by omega),
        List.getElem?_eq_getElem fits]
    refine .inr ⟨positive, read[count - 1], _, ?_, failed,
      ⟨_, SyntaxError.message_missing _ expected⟩, ?_, ?_⟩
    · rw [List.getElem?_append_left fits, List.getElem?_eq_getElem fits]
    · rw [endBehind, isLast]
      rfl
    · rw [endBehind, isLast]
      rfl

theorem parseTokens_take_call :
    ∃ tokens program error, tokenize "if up\n  plot(close)" = .ok tokens ∧
      parse "if up\n  plot(close)" = .ok program ∧ parseTokens (tokens.take 6) = .error error ∧
      (∃ front, error.message = front ++ "got end of input") ∧ error.line = 2 ∧
      error.column = 8 := by
  have scans : (tokenize "if up\n  plot(close)").toOption.any fun tokens =>
      !(parseTokens (tokens.take 6)).isOk &&
        tokens[5]?.any fun token => token.span.line = 2 ∧ token.span.column = 8 := by
    decide +kernel
  have reads : (parse "if up\n  plot(close)").toOption.any fun _ => true := by decide +kernel
  obtain ⟨tokens, scanned, known⟩ := of_toOption_any scans
  obtain ⟨program, parsed, _⟩ := of_toOption_any reads
  obtain ⟨fails, place⟩ := Bool.and_eq_true_iff.mp known
  rcases parseTokens_take scanned parsed 6 with
    ⟨part, found⟩ | ⟨_, last, error, isLast, failed, ends, line, column⟩
  · rw [found] at fails
    cases fails
  · rw [isLast] at place
    obtain ⟨isLine, isColumn⟩ := of_decide_eq_true place
    exact ⟨tokens, program, error, scanned, parsed, failed, ends, line.trans isLine,
      column.trans isColumn⟩

end ChartScript
