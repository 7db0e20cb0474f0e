import ChartScript.Proofs.Grammar
import Mathlib.Data.List.DropRight

/-!
# The grammar of programs

Statements, lists of statements and whole programs as derivations, on top of those of
expressions. Line breaks and version comments between statements are skipped; those before an
`else` belong to the `if` only where the `else` is there.
-/

set_option autoImplicit false

namespace ChartScript

/-- Stands behind the target of an assignment. -/
def TokenKind.isAssignment : TokenKind → Bool
  | .assign | .reassign => true
  | _ => false

namespace Cursor

/-- At the cursor stands the word of a declaration with a parenthesis behind it. -/
def StartsDeclaration (cursor : Cursor) : Prop :=
  ∃ token afterName name, cursor.Takes token afterName ∧ token.kind = .identifier name ∧
    DeclarationKind.ofName? name ≠ none ∧ afterName.kind = .leftParen

theorem Takes.not_startsDeclaration {cursor next : Cursor} {token : Token}
    (taken : cursor.Takes token next) (unopened : next.kind ≠ .leftParen) :
    ¬cursor.StartsDeclaration := by
  rintro ⟨_, afterName, _, again, _, _, opened⟩
  obtain ⟨_, rfl⟩ := taken.unique again
  exact unopened opened

inductive DerivesStatement : Cursor → Statement → Cursor → Prop
  | ifThenElse {start afterIf afterCondition afterThen afterElse final : Cursor}
      {token word : Token} {condition : Expr} {thenBranch elseBranch : Statement}
      (taken : start.Takes token afterIf) (isIf : token.kind = .ifWord)
      (decided : Derives afterIf (.expression condition) afterCondition)
      (thenPart : DerivesStatement afterCondition.skipBreaks thenBranch afterThen)
      (parted : afterThen.skipBreaks.Takes word afterElse) (isElse : word.kind = .elseWord)
      (elsePart : DerivesStatement afterElse.skipBreaks elseBranch final) :
      DerivesStatement start (.ifThenElse condition thenBranch elseBranch token.span) final
  | ifThen {start afterIf afterCondition afterThen : Cursor} {token : Token} {condition : Expr}
      {thenBranch : Statement} (taken : start.Takes token afterIf) (isIf : token.kind = .ifWord)
      (decided : Derives afterIf (.expression condition) afterCondition)
      (thenPart : DerivesStatement afterCondition.skipBreaks thenBranch afterThen)
      (noElse : afterThen.skipBreaks.kind ≠ .elseWord) :
      DerivesStatement start (.ifThen condition thenBranch token.span) afterThen
  | assign {start afterName afterSign final : Cursor} {token sign : Token} {name : String}
      {value : Expr} (taken : start.Takes token afterName)
      (isName : token.kind = .identifier name) (assigned : afterName.Takes sign afterSign)
      (isSign : sign.kind.isAssignment = true)
      (only : Derives afterSign (.expression value) final) :
      DerivesStatement start (.assign name value token.span) final
  | expression {start final : Cursor} {value : Expr} (notIf : start.kind ≠ .ifWord)
      (unassigned : ¬start.StartsName TokenKind.isAssignment) (undeclared : ¬start.StartsDeclaration)
      (only : Derives start (.expression value) final) :
      DerivesStatement start (.expression value start.current.span) final

/-- A statement can end at a cursor; the next one starts at another. -/
inductive Ends : Cursor → Cursor → Prop
  | newline {cursor next : Cursor} {token : Token} (taken : cursor.Takes token next)
      (isBreak : token.kind = .newline) : Ends cursor next
  | finished {cursor : Cursor} (atEnd : cursor.kind = .endOfInput) : Ends cursor cursor

inductive DerivesAll : Cursor → List Statement → Cursor → Prop
  | nil {start : Cursor} (atEnd : start.skipBreaks.kind = .endOfInput) :
      DerivesAll start [] start.skipBreaks
  | cons {start afterFirst next final : Cursor} {statement : Statement} {rest : List Statement}
      (unended : start.skipBreaks.kind ≠ .endOfInput)
      (first : DerivesStatement start.skipBreaks statement afterFirst)
      (ended : afterFirst.Ends next) (others : DerivesAll next rest final) :
      DerivesAll start (statement :: rest) final

/-- A program without its version. -/
inductive DerivesProgram : Cursor → Option Declaration → List Statement → Cursor → Prop
  | declared {start afterWord afterCall next final : Cursor} {token : Token} {name : String}
      {kind : DeclarationKind} {call : Call} {statements : List Statement}
      (taken : start.skipBreaks.Takes token afterWord) (isName : token.kind = .identifier name)
      (isWord : DeclarationKind.ofName? name = some kind)
      (called : Derives afterWord (.callArguments name call) afterCall)
      (ended : afterCall.Ends next) (others : DerivesAll next statements final) :
      DerivesProgram start (some ⟨kind, call, token.span⟩) statements final
  | undeclared {start final : Cursor} {statements : List Statement}
      (undeclared : ¬start.skipBreaks.StartsDeclaration)
      (only : DerivesAll start.skipBreaks statements final) :
      DerivesProgram start none statements final

theorem skipBreaks_closed {cursor : Cursor} (closed : cursor.Closed) : cursor.skipBreaks.Closed :=
  closed

theorem skipBreaks_skipBreaks (cursor : Cursor) :
    cursor.skipBreaks.skipBreaks = cursor.skipBreaks := by
  simp only [skipBreaks, moveTo, List.dropWhile_idempotent]

theorem DerivesStatement.finish {start final : Cursor} {statement : Statement}
    (derived : DerivesStatement start statement final) : final.finish = start.finish := by
  induction derived with
  | ifThenElse taken _ decided _ parted _ _ thenPart elsePart =>
    exact elsePart.trans (parted.finish.trans (thenPart.trans (decided.finish.trans taken.finish)))
  | ifThen taken _ decided _ _ thenPart =>
    exact thenPart.trans (decided.finish.trans taken.finish)
  | assign taken _ assigned _ only =>
    exact only.finish.trans (assigned.finish.trans taken.finish)
  | expression _ _ _ only => exact only.finish

theorem DerivesStatement.closed {start final : Cursor} {statement : Statement}
    (derived : DerivesStatement start statement final) (closed : start.Closed) : final.Closed :=
  (congrArg Token.kind derived.finish).trans closed

theorem assignmentTarget?_eq (cursor : Cursor) :
    cursor.assignmentTarget? = cursor.nameBefore? TokenKind.isAssignment := rfl

theorem declarationKind?_of_takes {cursor afterName : Cursor} {token : Token} {name : String}
    {kind : DeclarationKind} (taken : cursor.Takes token afterName)
    (isName : token.kind = .identifier name) (isWord : DeclarationKind.ofName? name = some kind)
    (opened : afterName.kind = .leftParen) :
    cursor.declarationKind? =
      some ⟨((kind, name), token.span), afterName, taken.remaining_lt⟩ := by
  unfold declarationKind?
  rw [@Takes.select? _ _ _ _ _ (kind, name) taken
    (by rw [isName]; simp [TokenKind.identifier?, isWord])]
  simp only [Option.bind_eq_bind, Option.bind_some]
  rw [if_pos (by simp [isAt, opened])]

theorem of_declarationKind?_some {cursor afterName : Cursor} {name : String} {span : Span}
    {kind : DeclarationKind} {lt : afterName.remaining < cursor.remaining}
    (found : cursor.declarationKind? = some ⟨((kind, name), span), afterName, lt⟩) :
    ∃ token, cursor.Takes token afterName ∧ token.kind = .identifier name ∧
      DeclarationKind.ofName? name = some kind ∧ afterName.kind = .leftParen ∧
      token.span = span := by
  obtain ⟨⟨⟨⟨kind, name⟩, span⟩, next, next_lt⟩, selected, found⟩ := Option.bind_eq_some_iff.mp found
  split at found
  case isTrue opened =>
    cases found
    obtain ⟨token, taken, chosen, place⟩ := of_select?_some selected
    obtain ⟨word, isName, chosen⟩ := Option.bind_eq_some_iff.mp chosen
    obtain ⟨_, isWord, chosen⟩ := Option.bind_eq_some_iff.mp chosen
    cases chosen
    refine ⟨token, taken, of_identifier?_some isName, isWord, ?_, place⟩
    simp only [isAt] at opened
    split at opened <;> trivial
  case isFalse => cases found

theorem declarationKind?_eq_none_iff {cursor : Cursor} :
    cursor.declarationKind? = none ↔ ¬cursor.StartsDeclaration := by
  constructor
  · rintro nothing ⟨token, afterName, name, taken, isName, isWord, opened⟩
    obtain ⟨kind, isWord⟩ := Option.ne_none_iff_exists'.mp isWord
    rw [declarationKind?_of_takes taken isName isWord opened] at nothing
    cases nothing
  · intro undeclared
    cases found : cursor.declarationKind? with
    | none => rfl
    | some parsed =>
      obtain ⟨⟨⟨kind, name⟩, span⟩, afterName, lt⟩ := parsed
      obtain ⟨token, taken, isName, isWord, opened, _⟩ := of_declarationKind?_some found
      exact absurd ⟨token, afterName, name, taken, isName, by rw [isWord]; nofun, opened⟩ undeclared

section Steps

variable {start next : Cursor} {token : Token}

theorem remaining_lt_of_skipBreaks (next_lt : next.remaining < start.skipBreaks.remaining) :
    next.remaining < start.remaining :=
  Nat.lt_of_lt_of_le next_lt start.remaining_skipBreaks_le

theorem statement_of_if (taken : start.Takes token next) (isIf : token.kind = .ifWord) :
    start.statement = (do
      let ⟨condition, afterCondition, afterCondition_lt⟩ ← next.expression
      let ⟨thenBranch, afterThen, afterThen_lt⟩ ← afterCondition.skipBreaks.statement
      match afterThen.skipBreaks.accept? (· matches .elseWord) with
      | some ⟨_, afterElse, afterElse_lt⟩ =>
        let ⟨elseBranch, final, final_lt⟩ ← afterElse.skipBreaks.statement
        return ⟨.ifThenElse condition thenBranch elseBranch token.span, final,
          Nat.lt_trans (remaining_lt_of_skipBreaks final_lt)
            (Nat.lt_trans (remaining_lt_of_skipBreaks afterElse_lt)
              (Nat.lt_trans (remaining_lt_of_skipBreaks afterThen_lt)
                (Nat.lt_trans afterCondition_lt taken.remaining_lt)))⟩
      | none => return ⟨.ifThen condition thenBranch token.span, afterThen,
          Nat.lt_trans (remaining_lt_of_skipBreaks afterThen_lt)
            (Nat.lt_trans afterCondition_lt taken.remaining_lt)⟩) := by
  rw [statement]
  obtain ⟨kind, text, span⟩ := token
  cases taken
  cases isIf
  rfl

theorem statement_of_assigned {afterName : Cursor} {sign : Token} {name : String}
    (taken : start.Takes token afterName) (isName : token.kind = .identifier name)
    (assigned : afterName.Takes sign next) (isSign : sign.kind.isAssignment = true) :
    start.statement = (do
      let value ← next.expression
      return (value.map (Statement.assign name · token.span)).widen
        (assigned.remaining_le_of_le taken.remaining_le)) := by
  rw [statement, accept?_of_false (by rw [taken.kind, isName]), assignmentTarget?_eq,
    nameBefore?_of_takes taken isName assigned isSign]

theorem statement_of_expression (notIf : start.kind ≠ .ifWord)
    (unassigned : ¬start.StartsName TokenKind.isAssignment)
    (undeclared : ¬start.StartsDeclaration) :
    start.statement = (do
      let value ← start.expression
      return value.map (Statement.expression · start.current.span)) := by
  rw [statement, accept?_of_false (by split <;> trivial), assignmentTarget?_eq,
    nameBefore?_of_not_starts unassigned, declarationKind?_eq_none_iff.mpr undeclared]

theorem statements_of_end (atEnd : start.skipBreaks.kind = .endOfInput) :
    start.statements =
      .ok ⟨[], start.skipBreaks, Nat.lt_succ_of_le start.remaining_skipBreaks_le⟩ := by
  rw [statements]
  simp only [isAt, atEnd, if_true]

theorem statements_of_unended (unended : start.skipBreaks.kind ≠ .endOfInput) :
    start.statements = (do
      let ⟨first, afterFirst, afterFirst_lt⟩ ← start.skipBreaks.statement
      let ⟨_, next, next_lt⟩ ← afterFirst.statementEnd
      let parsed ← next.statements
      return (parsed.map (first :: ·)).widen (Nat.le_trans next_lt
        (Nat.le_of_lt (Nat.succ_lt_succ (remaining_lt_of_skipBreaks afterFirst_lt))))) := by
  rw [statements]
  simp only
  rw [if_neg (by simp [isAt])]

end Steps

/-! ## What is derived is parsed -/

theorem DerivesStatement.runs {start final : Cursor} {statement : Statement}
    (derived : DerivesStatement start statement final) :
    ∃ lt, start.statement = .ok ⟨statement, final, lt⟩ := by
  induction derived with
  | ifThenElse taken isIf decided _ parted isElse _ thenPart elsePart =>
    rw [statement_of_if taken isIf]
    refine exists_bind_ok decided.runs fun _ => ?_
    refine exists_bind_ok thenPart fun _ => ?_
    simp only [parted.accept?, isElse]
    exact exists_bind_ok elsePart fun _ => ⟨_, rfl⟩
  | ifThen taken isIf decided _ noElse thenPart =>
    rw [statement_of_if taken isIf]
    refine exists_bind_ok decided.runs fun _ => ?_
    refine exists_bind_ok thenPart fun _ => ?_
    dsimp only
    rw [accept?_of_false (by split <;> trivial)]
    exact ⟨_, rfl⟩
  | assign taken isName assigned isSign only =>
    rw [statement_of_assigned taken isName assigned isSign]
    exact exists_bind_ok only.runs fun _ => ⟨_, rfl⟩
  | expression notIf unassigned undeclared only =>
    rw [statement_of_expression notIf unassigned undeclared]
    exact exists_bind_ok only.runs fun _ => ⟨_, rfl⟩

theorem Ends.runs {cursor next : Cursor} (ended : cursor.Ends next) :
    ∃ lt, cursor.statementEnd = .ok ⟨(), next, lt⟩ := by
  unfold Cursor.statementEnd
  cases ended with
  | newline taken isBreak =>
    rw [taken.accept? (by rw [isBreak])]
    exact ⟨_, rfl⟩
  | finished atEnd =>
    rw [accept?_of_false (by rw [atEnd])]
    dsimp only
    rw [if_pos (by rw [isAt, atEnd])]
    exact ⟨_, rfl⟩

theorem DerivesAll.runs {start final : Cursor} {statements : List Statement}
    (derived : DerivesAll start statements final) :
    ∃ lt, start.statements = .ok ⟨statements, final, lt⟩ := by
  induction derived with
  | nil atEnd => exact ⟨_, statements_of_end atEnd⟩
  | cons unended first ended _ others =>
    rw [statements_of_unended unended]
    refine exists_bind_ok first.runs fun _ => ?_
    refine exists_bind_ok ended.runs fun _ => ?_
    exact exists_bind_ok others fun _ => ⟨_, rfl⟩

/-! ## What is parsed is derived -/

theorem of_statement_ok {statement : Statement} {start final : Cursor}
    {lt : final.remaining < start.remaining} (closed : start.Closed)
    (parsed : start.statement = .ok ⟨statement, final, lt⟩) :
    DerivesStatement start statement final := by
  unfold Cursor.statement at parsed
  split at parsed
  case h_1 span afterIf afterIf_lt accepted =>
    obtain ⟨token, taken, isIf, rfl⟩ := of_accept?_some accepted
    have isIf : token.kind = .ifWord := by split at isIf <;> trivial
    have closedIf := taken.closed closed
    obtain ⟨⟨condition, afterCondition, _⟩, decided, parsed⟩ := of_bind_ok parsed
    have decided := of_expression_ok closedIf decided
    have closedCondition := skipBreaks_closed (decided.closed closedIf)
    obtain ⟨⟨thenBranch, afterThen, _⟩, thenPart, parsed⟩ := of_bind_ok parsed
    have thenPart := of_statement_ok closedCondition thenPart
    have closedThen := skipBreaks_closed (thenPart.closed closedCondition)
    simp only at parsed
    split at parsed
    case h_1 elseSpan afterElse afterElse_lt accepted =>
      obtain ⟨word, parted, isElse, _⟩ := of_accept?_some accepted
      have closedElse := skipBreaks_closed (parted.closed closedThen)
      obtain ⟨⟨elseBranch, last, _⟩, elsePart, parsed⟩ := of_bind_ok parsed
      have elsePart := of_statement_ok closedElse elsePart
      cases parsed
      refine .ifThenElse taken isIf decided thenPart parted ?_ elsePart
      split at isElse <;> trivial
    case h_2 nothing =>
      have noElse := of_accept?_none closedThen rfl nothing
      cases parsed
      refine .ifThen taken isIf decided thenPart fun isElse => ?_
      rw [isElse] at noElse
      cases noElse
  case h_2 notIf =>
    have notIf := of_accept?_none closed rfl notIf
    split at parsed
    case h_1 name span afterSign afterSign_lt found =>
      obtain ⟨token, afterName, sign, taken, isName, assigned, isSign, rfl⟩ :=
        of_nameBefore?_some found
      obtain ⟨⟨value, last, _⟩, only, parsed⟩ := of_bind_ok parsed
      have only := of_expression_ok (assigned.closed (taken.closed closed)) only
      cases parsed
      exact .assign taken isName assigned isSign only
    case h_2 unassigned =>
      split at parsed
      case h_1 => cases parsed
      case h_2 undeclared =>
        obtain ⟨⟨value, last, _⟩, only, parsed⟩ := of_bind_ok parsed
        have only := of_expression_ok closed only
        cases parsed
        refine .expression ?_ ((nameBefore?_eq_none_iff closed rfl).mp unassigned)
          (declarationKind?_eq_none_iff.mp undeclared) only
        intro isIf
        rw [isIf] at notIf
        cases notIf
termination_by start.remaining
decreasing_by all_goals grind [remaining_skipBreaks_le]

theorem of_statementEnd_ok {start next : Cursor} {lt : next.remaining < start.remaining + 1}
    (parsed : start.statementEnd = .ok ⟨(), next, lt⟩) : start.Ends next := by
  unfold Cursor.statementEnd at parsed
  split at parsed
  case h_1 accepted =>
    cases parsed
    obtain ⟨token, taken, isBreak, _⟩ := of_accept?_some accepted
    refine .newline taken ?_
    split at isBreak <;> trivial
  case h_2 =>
    split at parsed
    case isTrue atEnd =>
      cases parsed
      refine .finished ?_
      simp only [isAt] at atEnd
      split at atEnd <;> trivial
    case isFalse => cases parsed

theorem Ends.closed {cursor next : Cursor} (ended : cursor.Ends next) (closed : cursor.Closed) :
    next.Closed := by
  cases ended with
  | newline taken _ => exact taken.closed closed
  | finished _ => exact closed

theorem of_statements_ok {statements : List Statement} {start final : Cursor}
    {lt : final.remaining < start.remaining + 1} (closed : start.Closed)
    (parsed : start.statements = .ok ⟨statements, final, lt⟩) :
    DerivesAll start statements final := by
  unfold Cursor.statements at parsed
  simp only at parsed
  split at parsed
  case isTrue atEnd =>
    cases parsed
    refine .nil ?_
    simp only [isAt] at atEnd
    split at atEnd <;> trivial
  case isFalse unended =>
    obtain ⟨⟨first, afterFirst, _⟩, derived, parsed⟩ := of_bind_ok parsed
    have derived := of_statement_ok (skipBreaks_closed closed) derived
    have closedFirst := derived.closed (skipBreaks_closed closed)
    obtain ⟨⟨_, next, _⟩, ended, parsed⟩ := of_bind_ok parsed
    have ended := of_statementEnd_ok ended
    obtain ⟨⟨rest, last, _⟩, others, parsed⟩ := of_bind_ok parsed
    have others := of_statements_ok (ended.closed closedFirst) others
    cases parsed
    exact .cons (fun atEnd => unended (by simp [isAt, atEnd])) derived ended others
termination_by start.remaining
decreasing_by grind [remaining_skipBreaks_le]

theorem ofTokens_append (tokens : List Token) {last : Token} (ended : last.kind = .endOfInput) :
    ofTokens (tokens ++ [last]) = ⟨tokens, last, 0⟩ := by
  simp [ofTokens, ended]

theorem dropWhile_newlines (tokens : List Token) :
    (tokens.dropWhile (·.kind matches .newline)).dropWhile (·.kind.isBreak) =
      tokens.dropWhile (·.kind.isBreak) := by
  induction tokens with
  | nil => rfl
  | cons token rest ih =>
    by_cases isBreak : token.kind = .newline
    · simpa [List.dropWhile_cons, isBreak, TokenKind.isBreak] using ih
    · simp [List.dropWhile_cons]

/-- Whether there is a version comment or not, what follows starts behind all breaks. -/
theorem skipBreaks_version (cursor : Cursor) :
    cursor.version.2.skipBreaks = cursor.skipBreaks := by
  have breaks := dropWhile_newlines cursor.rest
  unfold version
  simp only
  split
  case h_1 comment text span rest stands =>
    have stands : cursor.rest.dropWhile (·.kind matches .newline) =
        ⟨.versionComment comment, text, span⟩ :: rest := stands
    rw [stands] at breaks
    simp only [skipBreaks, moveTo, ← breaks]
    rfl
  case h_2 => exact congrArg cursor.moveTo breaks

/-- The statements of a program, behind its head. -/
def body (version : Nat) (declaration : Option Declaration) (cursor : Cursor) :
    Except SyntaxError (Program × Cursor) := do
  let parsed ← cursor.statements
  return (⟨version, declaration, parsed.value, parsed.next.nextSite⟩, parsed.next)

theorem program_of_declarationKind?_none {start : Cursor}
    (nothing : start.skipBreaks.declarationKind? = none) :
    start.program = start.skipBreaks.body start.version.1 none := by
  have place := skipBreaks_version start
  unfold program
  simp only
  generalize start.version.2.skipBreaks = here at place
  subst place
  unfold declaration?
  rw [nothing]
  rfl

theorem program_of_declarationKind?_some {start next : Cursor} {kind : DeclarationKind}
    {name : String} {span : Span} {lt : next.remaining < start.skipBreaks.remaining}
    (found : start.skipBreaks.declarationKind? = some ⟨((kind, name), span), next, lt⟩) :
    start.program = (do
      let call ← callArguments next.remaining (inner next.remaining) name next next.remaining_le_self
      let ended ← call.next.statementEnd
      ended.next.body start.version.1 (some ⟨kind, call.value, span⟩)) := by
  have place := skipBreaks_version start
  unfold program
  simp only
  generalize start.version.2.skipBreaks = here at place
  subst place
  unfold declaration?
  rw [found]
  dsimp only
  cases callArguments next.remaining _ name next _ with
  | error error => rfl
  | ok call =>
    simp only [ok_bind, pure_eq_ok, Parsed.map, Parsed.widen]
    cases call.next.statementEnd <;> rfl

theorem of_body_ok {version : Nat} {declaration : Option Declaration} {program : Program}
    {start final : Cursor} (closed : start.Closed)
    (parsed : start.body version declaration = .ok (program, final)) :
    DerivesAll start program.statements final ∧ program.declaration = declaration ∧
      program.siteCount = final.nextSite := by
  obtain ⟨⟨statements, last, _⟩, only, parsed⟩ := of_bind_ok parsed
  cases parsed
  exact ⟨of_statements_ok closed only, rfl, rfl⟩

theorem of_program_ok {program : Program} {start final : Cursor} (closed : start.Closed)
    (parsed : start.program = .ok (program, final)) :
    DerivesProgram start program.declaration program.statements final ∧
      program.siteCount = final.nextSite := by
  have closedHere := skipBreaks_closed closed
  cases found : start.skipBreaks.declarationKind? with
  | none =>
    rw [program_of_declarationKind?_none found] at parsed
    obtain ⟨only, declaration, count⟩ := of_body_ok closedHere parsed
    rw [declaration]
    exact ⟨.undeclared (declarationKind?_eq_none_iff.mp found) only, count⟩
  | some word =>
    obtain ⟨⟨⟨kind, name⟩, span⟩, next, _⟩ := word
    rw [program_of_declarationKind?_some found] at parsed
    obtain ⟨token, taken, isName, isWord, opened, rfl⟩ := of_declarationKind?_some found
    have closedNext := taken.closed closedHere
    obtain ⟨⟨call, afterCall, _⟩, called, parsed⟩ := of_bind_ok parsed
    have nested : NestedDerives next.remaining (inner next.remaining) :=
      fun _ _ _ _ _ closedInside parsed => of_expression_ok closedInside parsed
    have called := of_callArguments_ok nested closedNext called
    obtain ⟨⟨_, afterEnd, _⟩, ended, parsed⟩ := of_bind_ok parsed
    have ended := of_statementEnd_ok ended
    have closedEnd := ended.closed (called.closed closedNext)
    obtain ⟨others, declaration, count⟩ := of_body_ok closedEnd parsed
    rw [declaration]
    exact ⟨.declared taken isName isWord called ended others, count⟩

theorem Derives.startsCall {start final : Cursor} {function : String} {call : Call}
    (derived : Derives start (.callArguments function call) final) : start.kind = .leftParen := by
  cases derived with
  | callArguments opened isOpening _ _ _ => exact opened.kind.trans isOpening

theorem DerivesProgram.runs {declaration : Option Declaration} {statements : List Statement}
    {start final : Cursor} (derived : DerivesProgram start declaration statements final) :
    start.program = .ok (⟨start.version.1, declaration, statements, final.nextSite⟩, final) := by
  cases derived with
  | declared taken isName isWord called ended others =>
    have found := declarationKind?_of_takes taken isName isWord called.startsCall
    obtain ⟨_, called⟩ := called.runs _ (Nat.le_refl _)
    obtain ⟨_, ended⟩ := ended.runs
    obtain ⟨_, others⟩ := others.runs
    rw [program_of_declarationKind?_some found]
    simp only [called, ok_bind, ended, body, others, pure_eq_ok]
  | undeclared undeclared only =>
    obtain ⟨_, only⟩ := only.runs
    rw [program_of_declarationKind?_none (declarationKind?_eq_none_iff.mpr undeclared)]
    simp only [body, only, ok_bind, pure_eq_ok]

end Cursor

end ChartScript
