import ChartScript.Proofs.JoinedSources
import ChartScript.Proofs.NodePlaces
import ChartScript.Proofs.ReadBack

/-!
# Calls with the name of a declaration

A declaration is the first statement, and the parser refuses a later statement that starts with the
call of one. It looks nowhere else: within an expression the words of declarations are names like
all others. So in a parsed program no statement, however deep it is nested, has such a call at its
own start, and behind its start there can be any.
-/

set_option autoImplicit false

namespace ChartScript

/-- The call of a name without points is a name before a parenthesis, among the tokens. -/
def Expr.OpensIn (tokens : List Token) : Expr → Prop
  | .call passed place => '.' ∉ passed.function.toList → ∃ name opening,
    [name, opening] <:+: tokens ∧ name.kind = .identifier passed.function ∧
      opening.kind = .leftParen ∧ name.span = place
  | _ => True

def Expr.callsDeclaration : Expr → Bool
  | .call passed _ => (DeclarationKind.ofName? passed.function).isSome
  | _ => false

namespace Cursor

variable {tokens : List Token} {start next final : Cursor} {token : Token}

theorem Behind.suffix (behind : start.Behind next) (among : start.ahead <:+ tokens) :
    next.ahead <:+ tokens :=
  List.IsSuffix.trans behind among

theorem Takes.cons_suffix (taken : start.Takes token next) (among : start.ahead <:+ tokens) :
    token :: next.ahead <:+ tokens := by
  subst taken
  exact among

structure ArgumentList.OpensIn (tokens : List Token) (list : ArgumentList) : Prop where
  positional : ∀ argument ∈ list.positional, ∀ part ∈ argument.parts, part.OpensIn tokens
  named : ∀ argument ∈ list.named, ∀ part ∈ argument.value.parts, part.OpensIn tokens

/-- The name of a call, if it is without points, stands before the cursor. -/
def NameBefore (tokens : List Token) (start : Cursor) (path : String) (span : Span) : Prop :=
  '.' ∉ path.toList → ∃ name, name :: start.ahead <:+ tokens ∧ name.kind = .identifier path ∧
    name.span = span

def Production.GivenOpens (tokens : List Token) (start : Cursor) : Production → Prop
  | .operators _ left _ => ∀ part ∈ left.parts, part.OpensIn tokens
  | .suffixes operand _ => ∀ part ∈ operand.parts, part.OpensIn tokens
  | .nameOrCall path span _ => NameBefore tokens start path span
  | .argumentList before _ => before.OpensIn tokens
  | .argument before _ => before.OpensIn tokens
  | _ => True

/-- The calls in what a production yields are among the tokens. -/
def Production.Opens (tokens : List Token) (start : Cursor) : Production → Prop
  | .expression value => ∀ part ∈ value.parts, part.OpensIn tokens
  | .binary _ value => ∀ part ∈ value.parts, part.OpensIn tokens
  | .operators _ _ value => ∀ part ∈ value.parts, part.OpensIn tokens
  | .unary value => ∀ part ∈ value.parts, part.OpensIn tokens
  | .primary value => ∀ part ∈ value.parts, part.OpensIn tokens
  | .suffixes _ value => ∀ part ∈ value.parts, part.OpensIn tokens
  | .nameOrCall _ _ value => ∀ part ∈ value.parts, part.OpensIn tokens
  | .callArguments function call => ∀ span, NameBefore tokens start function span →
    ∀ part ∈ (Expr.call call span).parts, part.OpensIn tokens
  | .argumentList _ after => after.OpensIn tokens
  | .argument _ after => after.OpensIn tokens

theorem Derives.opens {production : Production} (derived : Derives start production final)
    (among : start.ahead <:+ tokens) (given : production.GivenOpens tokens start) :
    production.Opens tokens start := by
  -- A call is built at its parenthesis, behind its name. What carries the name there is what a
  -- production was given.
  induction derived with
  | choice first marked _ second parted _ _ conditionOpens trueOpens falseOpens =>
    have atTrue := marked.behind.suffix (first.behind.suffix among)
    have atFalse := parted.behind.suffix (second.behind.suffix atTrue)
    exact Expr.forall_parts_ternary.mpr ⟨trivial, conditionOpens among trivial,
      trueOpens atTrue trivial, falseOpens atFalse trivial⟩
  | operation _ _ known => exact known among trivial
  | operands first _ leftOpens known =>
    exact known (first.behind.suffix among) (leftOpens among trivial)
  | operator taken _ _ second _ rightOpens known =>
    have atRight := taken.behind.suffix among
    exact known (second.behind.suffix atRight)
      (Expr.forall_parts_binary.mpr ⟨trivial, given, rightOpens atRight trivial⟩)
  | noOperator | noSuffix | noArgument => exact given
  | unaryOperator taken _ _ known =>
    exact Expr.forall_parts_unary.mpr ⟨trivial, known (taken.behind.suffix among) trivial⟩
  | operand _ first _ headOpens known =>
    exact known (first.behind.suffix among) (headOpens among trivial)
  | @literal _ _ token value _ isLiteral =>
    obtain ⟨kind, text, span⟩ := token
    unfold Token.literal? at isLiteral
    cases kind <;> cases isLiteral <;> exact List.forall_mem_singleton.mpr trivial
  | @named _ _ _ token name _ taken isName _ known =>
    exact known (taken.behind.suffix among) fun _ => ⟨token, taken.cons_suffix among, isName, rfl⟩
  | parenthesised opened _ _ _ _ known => exact known (opened.behind.suffix among) trivial
  | @longerName _ _ _ _ _ _ _ path name _ _ _ dotted _ taken _ first _ longerOpens known =>
    have atLonger := taken.behind.suffix (dotted.behind.suffix among)
    -- The longer name has a point, so nothing is asked of it.
    refine known (first.behind.suffix atLonger)
      (longerOpens atLonger fun noPoint => absurd ?_ noPoint)
    simp
  | member _ dotted _ taken _ _ _ known =>
    exact known (taken.behind.suffix (dotted.behind.suffix among))
      (Expr.forall_parts_member.mpr ⟨trivial, given⟩)
  | history opened _ inner closed _ _ offsetOpens known =>
    have inside := opened.behind.suffix among
    exact known (closed.behind.suffix (inner.behind.suffix inside))
      (Expr.forall_parts_history.mpr ⟨trivial, given, offsetOpens inside trivial⟩)
  | uncalled _ => exact List.forall_mem_singleton.mpr trivial
  | called _ known => exact known among trivial _ given
  | callArguments opened isOpening _ _ _ known =>
    have list : ArgumentList.OpensIn tokens _ := known (opened.behind.suffix among) ⟨nofun, nofun⟩
    refine fun span before => Expr.forall_parts_call.mpr ⟨fun plain => ?_, list.positional,
      list.named⟩
    obtain ⟨name, ⟨front, split⟩, isName, place⟩ := before plain
    subst opened
    exact ⟨name, _, ⟨front, _, by rw [← split, List.append_assoc]; rfl⟩, isName, isOpening, place⟩
  | lastArgument _ _ _ known => exact known among given
  | moreArguments _ first parted _ _ firstOpens known =>
    exact known (parted.behind.suffix (first.behind.suffix among)) (firstOpens among given)
  | namedArgument taken _ assigned _ _ _ known =>
    have opens := known (assigned.behind.suffix (taken.behind.suffix among)) trivial
    have before : ArgumentList.OpensIn tokens _ := given
    exact ⟨before.positional,
      List.forall_mem_append.mpr ⟨before.named, List.forall_mem_singleton.mpr opens⟩⟩
  | positionalArgument _ _ known =>
    have before : ArgumentList.OpensIn tokens _ := given
    exact ⟨List.forall_mem_append.mpr
      ⟨before.positional, List.forall_mem_singleton.mpr (known among trivial)⟩, before.named⟩

theorem DerivesStatement.opens {statement : Statement}
    (derived : DerivesStatement start statement final) (among : start.ahead <:+ tokens) :
    ∀ part ∈ statement.parts, part.OpensIn tokens := by
  induction derived with
  | @ifThenElse _ _ afterCondition afterThen afterElse _ _ _ _ _ _ taken _ decided thenPart parted _
      _ thenOpens elseOpens =>
    have atIf := taken.behind.suffix among
    have atThen := afterCondition.behind_skipBreaks.suffix (decided.behind.suffix atIf)
    have behindThen := afterThen.behind_skipBreaks.suffix (thenPart.behind.suffix atThen)
    have atElse := afterElse.behind_skipBreaks.suffix (parted.behind.suffix behindThen)
    refine List.forall_mem_append.mpr ⟨?_, elseOpens atElse⟩
    exact List.forall_mem_append.mpr ⟨decided.opens atIf trivial, thenOpens atThen⟩
  | @ifThen _ _ afterCondition _ _ _ _ taken _ decided _ _ thenOpens =>
    have atIf := taken.behind.suffix among
    have atThen := afterCondition.behind_skipBreaks.suffix (decided.behind.suffix atIf)
    exact List.forall_mem_append.mpr ⟨decided.opens atIf trivial, thenOpens atThen⟩
  | assign taken _ assigned _ only =>
    exact only.opens (assigned.behind.suffix (taken.behind.suffix among)) trivial
  | expression _ _ _ only => exact only.opens among trivial

theorem DerivesStatement.not_startsDeclaration {statement : Statement}
    (derived : DerivesStatement start statement final) : ¬start.StartsDeclaration := by
  cases derived with
  | ifThenElse takenIf isIf | ifThen takenIf isIf =>
    rintro ⟨_, _, _, taken, isName, _⟩
    cases isIf.symm.trans ((taken.unique takenIf).1 ▸ isName)
  | assign takenName _ assigned isSign =>
    refine takenName.not_startsDeclaration fun opened => ?_
    rw [← assigned.kind, opened] at isSign
    cases isSign
  | expression _ _ undeclared _ => exact undeclared

theorem current_of_ahead {first : Token} {others : List Token}
    (ahead : start.ahead = first :: others) : start.current = first := by
  obtain ⟨_ | ⟨token, rest⟩, finish, site⟩ := start <;> exact (List.cons.inj ahead).1

theorem startsDeclaration_of_ahead {name opening : Token} {others : List Token} {word : String}
    (ahead : start.ahead = name :: opening :: others) (isName : name.kind = .identifier word)
    (declares : DeclarationKind.ofName? word ≠ none) (isOpening : opening.kind = .leftParen) :
    start.StartsDeclaration := by
  obtain ⟨_ | ⟨first, rest⟩, finish, site⟩ := start
  · cases ahead
  · obtain ⟨rfl, behind⟩ := List.cons.inj ahead
    refine ⟨first, ⟨rest, finish, site⟩, word, rfl, isName, declares, ?_⟩
    have current : (Cursor.mk rest finish site).current = opening := current_of_ahead behind
    exact (congrArg Token.kind current).trans isOpening

theorem plain_of_declares {word : String} (declares : DeclarationKind.ofName? word ≠ none) :
    '.' ∉ word.toList := by
  obtain ⟨kind, isWord⟩ := Option.ne_none_iff_exists'.mp declares
  rw [DeclarationKind.word_of_ofName? isWord]
  cases kind <;> decide

/-- Calls with the name of a declaration stand behind the first token of their statement. -/
theorem DerivesStatement.start_lt {statement : Statement}
    (derived : DerivesStatement start statement final)
    (ordered : start.ahead.Pairwise fun first second =>
      first.span.start < first.span.stop ∧ first.span.stop ≤ second.span.start)
    {part : Expr} (member : part ∈ statement.parts) (calls : part.callsDeclaration = true) :
    start.current.span.start < part.span.start := by
  unfold Expr.callsDeclaration at calls
  split at calls
  case h_2 => cases calls
  have declares := Option.isSome_iff_ne_none.mp calls
  obtain ⟨name, opening, ⟨front, back, split⟩, isName, isOpening, rfl⟩ :=
    derived.opens (List.suffix_refl _) _ member (plain_of_declares declares)
  -- With nothing before the name the statement would start with the call.
  cases front with
  | nil =>
    exact absurd (startsDeclaration_of_ahead split.symm isName declares isOpening)
      derived.not_startsDeclaration
  | cons first between =>
    rw [current_of_ahead split.symm]
    rw [← split] at ordered
    have among : name ∈ between ++ [name, opening] ++ back := by simp
    obtain ⟨nonempty, before⟩ := List.rel_of_pairwise_cons ordered among
    exact Nat.lt_of_lt_of_le nonempty before

end Cursor

/-! ## Late declarations -/

namespace Cursor

/-- Statements can be read up to one that starts with the call of a declaration, and the error is
about that one. -/
inductive ComesLate : Cursor → List Statement → SyntaxError → Prop
  | here {start afterName : Cursor} {token : Token} {name : String} {kind : DeclarationKind}
      (taken : start.skipBreaks.Takes token afterName) (isName : token.kind = .identifier name)
      (isWord : DeclarationKind.ofName? name = some kind) (opened : afterName.kind = .leftParen) :
      ComesLate start [] (.atSpan token.span (.lateDeclaration name))
  | later {start afterFirst next : Cursor} {statement : Statement} {rest : List Statement}
      {error : SyntaxError} (unended : start.skipBreaks.kind ≠ .endOfInput)
      (first : DerivesStatement start.skipBreaks statement afterFirst)
      (ended : afterFirst.Ends next) (others : ComesLate next rest error) :
      ComesLate start (statement :: rest) error

variable {start next : Cursor} {above : List Statement} {error : SyntaxError}

theorem ComesLate.of_skipBreaks {other : Cursor} (late : ComesLate start above error)
    (same : start.skipBreaks = other.skipBreaks) : ComesLate other above error := by
  cases late with
  | here taken isName isWord opened =>
    rw [same] at taken
    exact .here taken isName isWord opened
  | later unended first ended others =>
    rw [same] at unended first
    exact .later unended first ended others

theorem statement_of_declaration {afterName : Cursor} {token : Token} {name : String}
    {kind : DeclarationKind} (taken : start.Takes token afterName)
    (isName : token.kind = .identifier name) (isWord : DeclarationKind.ofName? name = some kind)
    (opened : afterName.kind = .leftParen) :
    start.statement = .error (.atSpan token.span (.lateDeclaration name)) := by
  have unassigned : ¬start.StartsName TokenKind.isAssignment :=
    taken.not_startsName (by rw [opened]; rfl)
  unfold Cursor.statement
  rw [accept?_of_false (by rw [taken.kind, isName]), assignmentTarget?_eq,
    nameBefore?_of_not_starts unassigned, declarationKind?_of_takes taken isName isWord opened]

theorem ComesLate.runs (late : ComesLate start above error) : start.statements = .error error := by
  induction late with
  | @here start _ _ name _ taken isName isWord opened =>
    have unended : start.skipBreaks.kind = .identifier name := taken.kind.trans isName
    rw [statements_of_unended (by rw [unended]; nofun),
      statement_of_declaration taken isName isWord opened]
    rfl
  | later unended first ended _ others =>
    obtain ⟨_, first⟩ := first.runs
    obtain ⟨_, ended⟩ := ended.runs
    rw [statements_of_unended unended]
    simp only [first, ok_bind, ended, others]
    rfl

theorem ComesLate.buildsUp (error : SyntaxError) :
    BuildsUp fun above start => ComesLate start above error :=
  ⟨ComesLate.of_skipBreaks, .later⟩

theorem program_of_declared {afterWord afterCall : Cursor} {token : Token} {name : String}
    {kind : DeclarationKind} {call : Call} (taken : start.skipBreaks.Takes token afterWord)
    (isName : token.kind = .identifier name) (isWord : DeclarationKind.ofName? name = some kind)
    (called : Derives afterWord (.callArguments name call) afterCall)
    (ended : afterCall.Ends next) (late : ComesLate next above error) :
    start.program = .error error := by
  have found := declarationKind?_of_takes taken isName isWord called.startsCall
  obtain ⟨_, called⟩ := called.runs _ (Nat.le_refl _)
  obtain ⟨_, ended⟩ := ended.runs
  rw [program_of_declarationKind?_some found]
  simp only [called, ok_bind, ended, body, late.runs]
  rfl

theorem program_of_undeclared (undeclared : ¬start.skipBreaks.StartsDeclaration)
    (late : ComesLate start.skipBreaks above error) : start.program = .error error := by
  rw [program_of_declarationKind?_none (declarationKind?_eq_none_iff.mpr undeclared), body,
    late.runs]
  rfl

/-- Behind a declaration or a statement another declaration is late. -/
theorem DerivesProgram.program_of_comesLate {move : Relocation} {middle : Cursor}
    {declaration : Option Declaration} {statements : List Statement}
    (derived : DerivesProgram start declaration statements middle)
    (nonempty : declaration ≠ none ∨ statements ≠ []) (parts : move.Parts)
    (noElse : move.NoElse) (closedFinish : move.finish.kind = .endOfInput)
    (closed : start.Closed) (unended : start.Unended)
    (late : ComesLate (move.behind (middle.nextSite + move.sites)) [] error) :
    (move.cursor start).program = .error error := by
  have builds := ComesLate.buildsUp error
  have closedStart := skipBreaks_closed closed
  cases derived with
  | declared taken isName isWord called ended rest =>
    have closedWord := taken.closed closedStart
    have closedCall := called.closed closedWord
    have read := (Balanced.skipBreaks start).trans
      ((Balanced.token taken (by rw [isName]; exact fun _ => rfl)).trans called.balanced)
    have rest := builds.relocate_append rest parts noElse closedFinish
      (ended.closed closedCall) (ended.balanced.unended (read.unended unended)) late
    obtain ⟨next, ended, rest⟩ := builds.relocate_ends ended parts closedFinish closedCall rest
    have takenMoved : (move.cursor _).Takes _ (move.cursor _) := Relocation.takes taken
    rw [← Relocation.skipBreaks_cursor_of_takes taken] at takenMoved
    exact program_of_declared takenMoved isName isWord (called.relocate parts closedWord) ended rest
  | undeclared undeclared only =>
    -- Behind no statement at all it would lead, and be no late declaration.
    cases only with
    | nil => exact absurd rfl (nonempty.resolve_left (not_not_intro rfl))
    | cons unendedFirst first ended others =>
      rw [skipBreaks_skipBreaks] at unendedFirst first
      obtain ⟨_, _, taken⟩ := takes_of_lt first.runs.1
      have here := @Relocation.skipBreaks_cursor_of_takes move _ _ _ taken
      have all : DerivesAll start.skipBreaks _ middle :=
        .cons (by rwa [skipBreaks_skipBreaks]) (by rwa [skipBreaks_skipBreaks]) ended others
      have moved := builds.relocate_append all parts noElse closedFinish
        closedStart ((Balanced.skipBreaks start).unended unended) late
      refine program_of_undeclared ?_ (here ▸ moved)
      rw [here]
      exact Relocation.startsDeclaration closedStart parts undeclared

end Cursor

theorem Cursor.DerivesProgram.program_below {start final startBelow finalBelow : Cursor}
    {declaration : Option Declaration} {late : Declaration} {statements others : List Statement}
    {newline finish : Token} (place : Span → Span)
    (derived : DerivesProgram start declaration statements final)
    (nonempty : declaration ≠ none ∨ statements ≠ [])
    (derivedBelow : DerivesProgram startBelow (some late) others finalBelow)
    (closed : start.Closed) (unended : start.Unended) (closedBelow : startBelow.Closed)
    (first : startBelow.nextSite = 0) (isBreak : newline.kind = .newline)
    (atEnd : finish.kind = .endOfInput) :
    Cursor.program ⟨start.rest ++ newline ::
        startBelow.rest.map (Relocation.below final.nextSite place finish).token,
        finish, start.nextSite⟩ =
      .error (.atSpan (place late.span) (.lateDeclaration late.kind.word)) := by
  cases derivedBelow with
  | @declared afterWord _ _ _ token name kind call _ taken isName isWord called =>
    let below := Relocation.below final.nextSite place finish
    let above := Relocation.above finish newline (startBelow.rest.map below.token)
    have behind := Relocation.skipBreaks_above final.nextSite place finish isBreak startBelow first
    have parts : above.Parts := fun _ => .inl isBreak
    have moved (site : Nat) : (above.behind site).skipBreaks.Takes (below.token token)
        ((Relocation.below site place finish).cursor afterWord) := by
      rw [behind]
      exact Relocation.takes taken
    have opened (site : Nat) :
        ((Relocation.below site place finish).cursor afterWord).kind = .leftParen :=
      (called.relocate (Relocation.parts_below atEnd)
        (taken.closed (skipBreaks_closed closedBelow))).startsCall
    have noElse : above.NoElse := fun site isElse => by
      cases isName.symm.trans ((moved site).kind.symm.trans isElse)
    have refused := derived.program_of_comesLate nonempty parts noElse atEnd closed unended
      (.here (moved _) isName isWord (opened _))
    rw [Relocation.cursor_above] at refused
    rw [← DeclarationKind.word_of_ofName? isWord]
    exact refused

theorem parse_of_refused {source : String} {read : List Token} {endOfInput : Token}
    {error : SyntaxError} (scanned : tokenize source = .ok (read ++ [endOfInput]))
    (ended : endOfInput.kind = .endOfInput)
    (refused : Cursor.program ⟨read, endOfInput, 0⟩ = .error error) :
    parse source = .error (.syntactic error) := by
  have cursor := Cursor.ofTokens_append read ended
  rw [parse, scanned]
  simp only [parseTokens, cursor, refused]
  rfl

/-- A program with a declaration is refused below another program, with an error at its
declaration. -/
theorem parse_declared_below {first second : String} {above below : Program} {late : Declaration}
    (parsed : parse first = .ok above) (parsedBelow : parse second = .ok below)
    (nonempty : above.declaration ≠ none ∨ above.statements ≠ [])
    (declared : below.declaration = some late) :
    parse (first ++ "\n" ++ second) = .error (.syntactic (.atSpan
      (late.span.moved (first.utf8ByteSize + 1) (1 + first.toList.count '\n'))
      (.lateDeclaration late.kind.word))) := by
  obtain ⟨read, last, final, scans, ended, outside, derived, _⟩ := of_parse_ok parsed
  obtain ⟨others, lastBelow, finalBelow, scansBelow, endedBelow, _, derivedBelow, _⟩ :=
    of_parse_ok parsedBelow
  rw [declared] at derivedBelow
  obtain ⟨newline, isBreak, tokens⟩ := Lexer.Scanner.tokenize_join scans ended outside scansBelow
    endedBelow
  rw [List.map_append, ← List.cons_append, ← List.append_assoc] at tokens
  have atEnd : (Token.moved (first.utf8ByteSize + 1) (1 + first.toList.count '\n')
      (lastBelow.token .endOfInput [])).kind = .endOfInput := rfl
  have refused := Cursor.DerivesProgram.program_below
    (Span.moved (first.utf8ByteSize + 1) (1 + first.toList.count '\n')) derived nonempty
    derivedBelow rfl scans.unended rfl rfl isBreak atEnd
  exact parse_of_refused tokens rfl refused

/-! ## Programs -/

theorem Statement.IsReadFrom.derived {source : String} {first : Token} {others : List Token}
    {statement : Statement} (isReadFrom : statement.IsReadFrom source (first :: others)) :
    ∃ start final, Cursor.DerivesStatement start statement final ∧ start.StandsIn source ∧
      start.current = first := by
  obtain ⟨front, behind, finish, site, nextSite, _, scanned, runs⟩ := isReadFrom
  obtain ⟨_, last, split, isEnd, _⟩ := (tokenize_locates scanned).ended
  have same : finish = last := (List.cons.inj (List.append_inj_right' split rfl)).1
  refine ⟨⟨first :: others ++ behind, finish, site⟩, _,
    Cursor.of_statement_ok (same ▸ isEnd) runs, ⟨_, scanned, front, ?_⟩, rfl⟩
  simp [Cursor.ahead]

/-- In a parsed program the calls with the name of a declaration stand behind the start of the
statement that they are in. -/
theorem start_lt_of_callsDeclaration {source : String} {program : Program}
    (parsed : parse source = .ok program) {statement : Statement}
    (within : statement ∈ program.statements.flatMap Statement.nested) {part : Expr}
    (member : part ∈ statement.parts) (calls : part.callsDeclaration = true) :
    statement.span.start < part.span.start := by
  obtain ⟨first, others, isReadFrom, _, span, _⟩ := (parse_points parsed).statements _ within
  obtain ⟨start, final, derived, ⟨tokens, scanned, among⟩, current⟩ := isReadFrom.derived
  have ordered := (tokenize_locates scanned).ordered.sublist among.sublist
  rw [span, ← current]
  exact derived.start_lt ordered member calls

/-- Below a program the text of an expression is parsed as the value of one more assignment,
whatever is called in it. -/
theorem parse_assigned_below {source : String} {program : Program}
    (parsed : parse source = .ok program) {expr : Expr} (shown : expr.Shown) :
    ∃ longer value span, parse (source ++ "\n" ++ ("v = " ++ expr.display)) = .ok longer ∧
      longer.declaration = program.declaration ∧
      longer.statements = program.statements ++ [.assign "v" value span] ∧
      value.shape = expr.shape := by
  have spelled : Lexer.Spells expr.display.toList expr.kinds [] :=
    shown.spelled [] nofun fun _ => nofun
  obtain ⟨read, last, scans, ended, shows⟩ := spelled.assigned.scans
  obtain ⟨value, span, site, shape, _, derived⟩ :=
    Cursor.derives_assignment shown.isRead rfl shows rfl rfl
  obtain ⟨longer, joined, declared, _, statements⟩ := parse_of_join parsed scans ended derived
  exact ⟨longer, _, _, joined, declared, statements, (value.shape_relabel _ _).trans shape⟩

/-- Where the call of a declaration is refused, and where it is not. No statement of a parsed
program, at any depth, starts with one: such a call stands behind the start of every statement that
it is in. Below the program, unless there is nothing in it, another declaration is an error at the
place of that declaration. In the value of an assignment below the program, on the other hand, calls
of declarations are parsed like all others. -/
theorem parse_declaration_calls {source : String} {program : Program}
    (parsed : parse source = .ok program) :
    (∀ statement ∈ program.statements.flatMap Statement.nested, ∀ part ∈ statement.parts,
      part.callsDeclaration = true → statement.span.start < part.span.start) ∧
    (∀ (second : String) (below : Program) (late : Declaration), parse second = .ok below →
      below.declaration = some late → program.declaration ≠ none ∨ program.statements ≠ [] →
      parse (source ++ "\n" ++ second) = .error (.syntactic (.atSpan
        (late.span.moved (source.utf8ByteSize + 1) (1 + source.toList.count '\n'))
        (.lateDeclaration late.kind.word)))) ∧
    ∀ expr : Expr, expr.Shown → ∃ longer value span,
      parse (source ++ "\n" ++ ("v = " ++ expr.display)) = .ok longer ∧
      longer.declaration = program.declaration ∧
      longer.statements = program.statements ++ [.assign "v" value span] ∧
      value.shape = expr.shape :=
  ⟨fun _ within _ member => start_lt_of_callsDeclaration parsed within member,
    fun _ _ _ parsedBelow declared nonempty =>
      parse_declared_below parsed parsedBelow nonempty declared,
    fun _ => parse_assigned_below parsed⟩

/-- A declaration as an argument, within a branch. -/
def nestedDeclarationSource : String :=
  "x = 1\nif x\n  plot(1, strategy(\"late\"))"

theorem parse_declaration_calls_nested :
    ∃ program, parse nestedDeclarationSource = .ok program ∧
      (∃ statement ∈ program.statements.flatMap Statement.nested, ∃ part ∈ statement.parts,
        part.callsDeclaration = true ∧ statement.span.start < part.span.start) ∧
      (∃ late : Declaration, late.span.line = 1 ∧ late.kind = .indicator ∧
        parse (nestedDeclarationSource ++ "\n" ++ "indicator(\"late\")") =
          .error (.syntactic (.atSpan (late.span.moved 37 3) (.lateDeclaration "indicator")))) ∧
      ∃ expr : Expr, expr.callsDeclaration = true ∧ ∃ longer value span,
        parse (nestedDeclarationSource ++ "\n" ++ ("v = " ++ expr.display)) = .ok longer ∧
        longer.declaration = program.declaration ∧
        longer.statements = program.statements ++ [.assign "v" value span] ∧
        value.shape = expr.shape := by
  have calls : (parse nestedDeclarationSource).toOption.any fun program =>
      !program.statements.isEmpty &&
        ((program.statements.flatMap Statement.nested).any fun statement =>
          statement.parts.any Expr.callsDeclaration) &&
        program.parts.any fun expr =>
          expr.callsDeclaration && expr.parts.all fun part => part.IsPrintable := by
    decide +kernel
  obtain ⟨program, parsed, calls⟩ := of_toOption_any calls
  simp only [Bool.and_eq_true] at calls
  obtain ⟨⟨nonempty, within⟩, shown⟩ := calls
  obtain ⟨behind, refused, accepted⟩ := parse_declaration_calls parsed
  refine ⟨program, parsed, ?_, ?_, ?_⟩
  · obtain ⟨statement, within, calls⟩ := List.any_eq_true.mp within
    obtain ⟨part, member, calls⟩ := List.any_eq_true.mp calls
    exact ⟨statement, within, part, member, calls, behind statement within part member calls⟩
  · have declares : (parse "indicator(\"late\")").toOption.any fun below =>
        below.declaration.any fun late => late.span.line = 1 && late.kind = .indicator := by
      decide +kernel
    obtain ⟨below, parsedBelow, declares⟩ := of_toOption_any declares
    obtain ⟨late, declared, place⟩ := (Option.any_eq_true ..).mp declares
    obtain ⟨line, kind⟩ := Bool.and_eq_true_iff.mp place
    have kind : late.kind = .indicator := of_decide_eq_true kind
    have refused := refused _ below late parsedBelow declared (.inr (by simpa using nonempty))
    rw [kind] at refused
    exact ⟨late, of_decide_eq_true line, kind, refused⟩
  · obtain ⟨expr, within, calls⟩ := List.any_eq_true.mp shown
    obtain ⟨calls, printable⟩ := Bool.and_eq_true_iff.mp calls
    have shown : expr.Shown := fun part member =>
      ⟨parse_legible parsed within part member,
        of_decide_eq_true (List.all_eq_true.mp printable part member)⟩
    exact ⟨expr, calls, accepted expr shown⟩

/-- A declaration as an assigned value is parsed. -/
theorem parse_declaration_calls_assigned :
    ¬∀ source program, parse source = .ok program →
      ∀ statement ∈ program.statements, ∀ part ∈ statement.parts,
        part.callsDeclaration = false := by
  intro claimed
  have calls : (parse "x = indicator(\"late\")").toOption.any fun program =>
      program.statements.any fun statement =>
        statement.parts.any Expr.callsDeclaration := by decide +kernel
  obtain ⟨program, parsed, calls⟩ := of_toOption_any calls
  obtain ⟨statement, within, calls⟩ := List.any_eq_true.mp calls
  obtain ⟨part, member, calls⟩ := List.any_eq_true.mp calls
  rw [claimed _ program parsed statement within part member] at calls
  cases calls

end ChartScript
