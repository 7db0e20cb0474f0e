import ChartScript.Proofs.Places
import ChartScript.Proofs.Relocation

/-!
# Joined sources

Two programs, one above the other with a line break between them, are a program if the second one
has no declaration. Its statements are those of both; those of the second one are numbered and
placed behind the first.
-/

set_option autoImplicit false

namespace ChartScript

namespace Lexer.Scanner

section Join

variable {first second : String} {read others : List Token} {final last : Scanner}

/-- The line behind a text is scanned like a text of its own, farther on. -/
theorem afterNewline_of_scans (scans : Scans (start first) read final) (ended : final.rest = [])
    (outside : final.depth = 0) :
    (final.extend ('\n' :: second.toList)).afterNewline second.toList =
      (start second).moved (first.utf8ByteSize + 1) (1 + first.toList.count '\n') := by
  obtain ⟨skipped, split, place⟩ := scans.place
  rw [ended, List.append_nil] at split
  have split : first.toList = skipped := split
  have place : final.place = Place.origin.afterAll skipped := place
  have offset := Place.offset_afterAll .origin skipped
  have line := Place.line_afterAll .origin skipped
  rw [← place] at offset line
  rw [← split] at offset line
  rw [String.ofList_toList] at offset
  have after : final.place.after '\n' =
      Place.origin.moved (first.utf8ByteSize + 1) (1 + first.toList.count '\n') := by
    simp only [Place.after, if_true, Place.moved, offset, line]
    simp only [Place.origin, Place.mk.injEq, and_true]
    exact ⟨by rw [Nat.zero_add, Nat.zero_add]; rfl, by omega⟩
  simp only [afterNewline, skip, extend, start, Scanner.moved, outside, Place.afterAll,
    List.foldl_cons, List.foldl_nil, after]

theorem tokenize_join (scans : Scans (start first) read final) (ended : final.rest = [])
    (outside : final.depth = 0) (scansBelow : Scans (start second) others last)
    (endedBelow : last.rest = []) :
    ∃ newline : Token, newline.kind = .newline ∧
      tokenize (first ++ "\n" ++ second) = .ok (read ++ newline ::
        (others ++ [last.token .endOfInput []]).map
          (Token.moved (first.utf8ByteSize + 1) (1 + first.toList.count '\n'))) := by
  have above := scans.extend second.toList
  have atBreak : (final.extend ('\n' :: second.toList)).rest = '\n' :: second.toList := by
    rw [extend, ended, List.nil_append]
  have newline := Step.newline atBreak outside
  rw [afterNewline_of_scans scans ended outside] at newline
  have below := scansBelow.moved (first.utf8ByteSize + 1) (1 + first.toList.count '\n')
  have whole := (above.trans (newline.scans.trans below)).tokens_ok (tokens_of_end endedBelow)
  have joined : start (first ++ "\n" ++ second) = (start first).extend ('\n' :: second.toList) := by
    simp [start, extend]
  rw [← joined, token_moved] at whole
  refine ⟨(final.extend ('\n' :: second.toList)).token .newline ['\n'], rfl, whole.trans ?_⟩
  simp only [List.map_append, List.append_assoc, List.cons_append, List.nil_append,
    List.map_cons, List.map_nil]

end Join

end Lexer.Scanner

/-! ## What a program starts with -/

namespace Cursor

/-- The production is read from its first token on. -/
def Production.isWhole : Production → Bool
  | .expression _ | .binary _ _ | .unary _ | .primary _ => true
  | _ => false

theorem Derives.notElse {start final : Cursor} {production : Production}
    (derived : Derives start production final) (whole : production.isWhole = true) :
    start.kind ≠ .elseWord := by
  induction derived with
  | choice _ _ _ _ _ _ _ first => exact first rfl
  | operation _ _ only => exact only rfl
  | operands _ _ first => exact first rfl
  | operand _ _ _ first => exact first rfl
  | unaryOperator taken isOp _ _ =>
    rw [taken.kind]
    intro isElse
    rw [isElse] at isOp
    cases isOp
  | literal taken isLiteral =>
    rw [taken.kind]
    intro isElse
    rw [Token.literal?, isElse] at isLiteral
    cases isLiteral
  | named taken isName _ _ => simp [taken.kind, isName]
  | parenthesised opened isOpening _ _ _ _ => simp [opened.kind, isOpening]
  | _ => cases whole

theorem DerivesStatement.notElse {start final : Cursor} {statement : Statement}
    (derived : DerivesStatement start statement final) : start.kind ≠ .elseWord := by
  cases derived with
  | ifThenElse taken isIf _ _ _ _ _ | ifThen taken isIf _ _ _ =>
    rw [taken.kind, isIf]
    nofun
  | assign taken isName _ _ _ =>
    rw [taken.kind, isName]
    nofun
  | expression _ _ _ only => exact only.notElse rfl

theorem DerivesAll.notElse {start final : Cursor} {statements : List Statement}
    (derived : DerivesAll start statements final) : start.skipBreaks.kind ≠ .elseWord := by
  cases derived with
  | nil atEnd =>
    rw [atEnd]
    nofun
  | cons _ first _ _ => exact first.notElse

end Cursor

/-! ## Programs of joined texts -/

namespace Relocation

variable (sites : Nat) (place : Span → Span) (finish newline : Token) (tokens : List Token)

def below : Relocation :=
  ⟨sites, place, [], finish⟩

/-- No token is moved, and others follow behind a line break. -/
def above : Relocation :=
  ⟨0, id, newline :: tokens, finish⟩

variable {sites place finish newline tokens}

theorem skipBreaks_below (cursor : Cursor) :
    ((below sites place finish).cursor cursor).skipBreaks =
      (below sites place finish).cursor cursor.skipBreaks := by
  simp only [Relocation.cursor, below, Cursor.skipBreaks, Cursor.moveTo, List.append_nil,
    dropWhile_isBreak]

theorem parts_below (atEnd : finish.kind = .endOfInput) : (below sites place finish).Parts :=
  fun _ => .inr atEnd

theorem cursor_above (cursor : Cursor) :
    (above finish newline tokens).cursor cursor =
      ⟨cursor.rest ++ newline :: tokens, finish, cursor.nextSite⟩ :=
  congrArg (fun rest => Cursor.mk (rest ++ newline :: tokens) finish cursor.nextSite)
    (List.map_id cursor.rest)

theorem statement_above (statement : Statement) :
    (above finish newline tokens).statement statement = statement :=
  statement.relabel_id

theorem declaration_above (declaration : Declaration) :
    (above finish newline tokens).declaration declaration = declaration :=
  congrArg (Declaration.mk declaration.kind · declaration.span) declaration.call.relabel_id

variable (sites place finish) in
theorem skipBreaks_above (isBreak : newline.kind = .newline) (start : Cursor)
    (first : start.nextSite = 0) (site : Nat) :
    ((above finish newline (start.rest.map (below sites place finish).token)).behind
      site).skipBreaks = (below site place finish).cursor start.skipBreaks := by
  have skipped : newline.kind.isBreak = true := by rw [isBreak]; rfl
  rw [← skipBreaks_below]
  simp only [Relocation.cursor, below, above, behind, Cursor.skipBreaks, Cursor.moveTo,
    List.append_nil, first, Nat.zero_add]
  exact congrArg (Cursor.mk · finish site) (List.dropWhile_cons_of_pos skipped)

end Relocation

/-- Programs on lines of their own are one program if only the first declares something. -/
theorem Cursor.DerivesProgram.join {start final startBelow finalBelow : Cursor}
    {declaration : Option Declaration} {statements others : List Statement}
    {newline finish : Token} (place : Span → Span)
    (derived : DerivesProgram start declaration statements final)
    (derivedBelow : DerivesProgram startBelow none others finalBelow)
    (closed : start.Closed) (unended : start.Unended) (closedBelow : startBelow.Closed)
    (unendedBelow : startBelow.Unended) (first : startBelow.nextSite = 0)
    (isBreak : newline.kind = .newline) (atEnd : finish.kind = .endOfInput) :
    ∃ last, last.nextSite = final.nextSite + finalBelow.nextSite ∧
      DerivesProgram
        ⟨start.rest ++ newline ::
          startBelow.rest.map (Relocation.below final.nextSite place finish).token,
          finish, start.nextSite⟩
        declaration
        (statements ++ others.map (Statement.relabel (· + final.nextSite) place)) last := by
  cases derivedBelow with
  | undeclared undeclared only =>
    let below := Relocation.below final.nextSite place finish
    let above := Relocation.above finish newline (startBelow.rest.map below.token)
    have behind := Relocation.skipBreaks_above final.nextSite place finish isBreak startBelow first
    have parts : above.Parts := fun _ => .inl isBreak
    have noElse : above.NoElse := fun site => by
      rw [behind]
      exact Relocation.kind_ne closedBelow (Relocation.parts_below atEnd)
        (startBelow.skipBreaks_skipBreaks ▸ only.notElse) rfl
    have undeclaredTail : above.Undeclared := fun site => by
      rw [behind]
      exact Relocation.startsDeclaration closedBelow (Relocation.parts_below atEnd) undeclared
    have partsBelow : below.Parts := Relocation.parts_below atEnd
    have noElseBelow : below.NoElse := fun _ isElse => by cases atEnd.symm.trans isElse
    have moved := (DerivesAll.buildsUp _).relocate_append only partsBelow noElseBelow atEnd
      closedBelow ((Balanced.skipBreaks startBelow).unended unendedBelow) (.nil atEnd)
    have here : (below.cursor startBelow.skipBreaks).skipBreaks =
        (above.behind (final.nextSite + above.sites)).skipBreaks := by
      rw [behind]
      exact (Relocation.skipBreaks_below _).trans (by rw [skipBreaks_skipBreaks]; rfl)
    have whole := derived.relocate_append parts noElse undeclaredTail atEnd closed unended
      (moved.of_skipBreaks here)
    have kept : statements.map above.statement = statements :=
      (List.map_congr_left fun _ _ => Relocation.statement_above _).trans (List.map_id _)
    have keptDeclaration : declaration.map above.declaration = declaration :=
      (Option.map_congr fun _ _ => Relocation.declaration_above _).trans Option.map_id'
    rw [kept, keptDeclaration, List.append_nil, Relocation.cursor_above] at whole
    exact ⟨_, Nat.add_comm .., whole⟩

/-- What is derived from the text below a program is parsed as the rest of that program. -/
theorem parse_of_join {first second : String} {above : Program} {others : List Token}
    {lastBelow : Lexer.Scanner} {finalBelow : Cursor} {statements : List Statement}
    (parsed : parse first = .ok above)
    (scansBelow : Lexer.Scanner.Scans (.start second) others lastBelow)
    (endedBelow : lastBelow.rest = [])
    (derivedBelow : (lastBelow.cursor others).DerivesProgram none statements finalBelow) :
    ∃ program, parse (first ++ "\n" ++ second) = .ok program ∧
      program.declaration = above.declaration ∧
      program.siteCount = above.siteCount + finalBelow.nextSite ∧
      program.statements = above.statements ++ statements.map
        (Statement.relabel (· + above.siteCount)
          (Span.moved (first.utf8ByteSize + 1) (1 + first.toList.count '\n'))) := by
  obtain ⟨read, last, final, scans, ended, outside, derived, count⟩ := of_parse_ok parsed
  obtain ⟨newline, isBreak, tokens⟩ := Lexer.Scanner.tokenize_join scans ended outside scansBelow
    endedBelow
  rw [List.map_append, ← List.cons_append, ← List.append_assoc] at tokens
  have closed : (last.cursor read).Closed := rfl
  have closedBelow : (lastBelow.cursor others).Closed := rfl
  have atEnd : (Token.moved (first.utf8ByteSize + 1) (1 + first.toList.count '\n')
      (lastBelow.token .endOfInput [])).kind = .endOfInput := rfl
  obtain ⟨_, sites, joined⟩ := Cursor.DerivesProgram.join
    (Span.moved (first.utf8ByteSize + 1) (1 + first.toList.count '\n')) derived derivedBelow closed
    scans.unended closedBelow scansBelow.unended rfl isBreak atEnd
  obtain ⟨program, parsed, declared, same, siteCount⟩ := parse_of_derives tokens rfl joined
  rw [count] at *
  refine ⟨program, parsed, declared, ?_, same⟩
  rw [siteCount, sites]

/-- A program below another one: its statements follow the others, with their sites and places
behind those of the program above. -/
theorem parse_below (first second : String) {above below : Program}
    (parsed : parse first = .ok above) (parsedBelow : parse second = .ok below)
    (undeclared : below.declaration = none) :
    ∃ program, parse (first ++ "\n" ++ second) = .ok program ∧
      program.declaration = above.declaration ∧
      program.siteCount = above.siteCount + below.siteCount ∧
      program.statements = above.statements ++ below.statements.map
        (Statement.relabel (· + above.siteCount)
          (Span.moved (first.utf8ByteSize + 1) (1 + first.toList.count '\n'))) := by
  obtain ⟨others, lastBelow, finalBelow, scansBelow, endedBelow, _, derivedBelow, countBelow⟩ :=
    of_parse_ok parsedBelow
  rw [undeclared] at derivedBelow
  obtain ⟨program, joined, declared, sites, statements⟩ :=
    parse_of_join parsed scansBelow endedBelow derivedBelow
  exact ⟨program, joined, declared, countBelow ▸ sites, statements⟩

theorem parse_below_if :
    ∃ above below program,
      parse "indicator(\"both\")\nif close > open plot(close) // rising" = .ok above ∧
      parse "//@version=2\nplot(open[1])" = .ok below ∧ below.declaration = none ∧
      parse ("indicator(\"both\")\nif close > open plot(close) // rising" ++ "\n" ++
        "//@version=2\nplot(open[1])") = .ok program ∧
      program.declaration = above.declaration ∧ program.siteCount = 4 ∧
      program.statements = above.statements ++ below.statements.map
        (Statement.relabel (· + 2) (Span.moved 56 2)) := by
  have runs : ((parse "indicator(\"both\")\nif close > open plot(close) // rising").toOption.any
      (·.siteCount = 2)) ∧ ((parse "//@version=2\nplot(open[1])").toOption.any fun program =>
        program.siteCount = 2 && program.declaration.isNone) := by decide +kernel
  obtain ⟨above, parsed, count⟩ := of_toOption_any runs.1
  obtain ⟨below, parsedBelow, countBelow⟩ := of_toOption_any runs.2
  simp only [Bool.and_eq_true, decide_eq_true_eq, Option.isNone_iff_eq_none] at count countBelow
  obtain ⟨program, joined, declared, sites, statements⟩ :=
    parse_below _ _ parsed parsedBelow countBelow.2
  rw [count] at sites statements
  rw [countBelow.1] at sites
  exact ⟨above, below, program, parsed, parsedBelow, countBelow.2, joined, declared, sites,
    statements⟩

end ChartScript
