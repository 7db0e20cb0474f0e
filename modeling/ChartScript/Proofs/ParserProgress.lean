import ChartScript.Proofs.SiteNumbers

/-!
# Progress of the parser

The parser stands at a position of a list of tokens that ends with an end of input; where the last
token is none, one is added. Whatever the tokens are, each production goes on to a later position
of the list or fails at one of its tokens. A program ends at an end of input.
-/

set_option autoImplicit false

namespace ChartScript

/-- An error is reported at the place of a token. -/
def SyntaxError.IsAt (error : SyntaxError) (token : Token) : Prop :=
  error.line = token.span.line ∧ error.column = token.span.column

namespace Cursor

/-- The tokens from the cursor on, with the end of input behind them. -/
def ahead (cursor : Cursor) : List Token :=
  cursor.rest ++ [cursor.finish]

theorem current_mem_ahead (cursor : Cursor) : cursor.current ∈ cursor.ahead := by
  obtain ⟨_ | ⟨token, rest⟩, finish, site⟩ := cursor
  · exact List.mem_singleton_self _
  · exact List.mem_cons_self

/-- The second cursor stands behind the first one, or where it stands. -/
def Behind (start next : Cursor) : Prop :=
  next.ahead <:+ start.ahead

theorem Behind.refl (start : Cursor) : start.Behind start :=
  List.suffix_refl _

theorem Behind.trans {start middle next : Cursor} (first : start.Behind middle)
    (second : middle.Behind next) : start.Behind next :=
  List.IsSuffix.trans second first

theorem Behind.remaining_le {start next : Cursor} (behind : start.Behind next) :
    next.remaining ≤ start.remaining := by
  have lengths := behind.length_le
  simp only [ahead, List.length_append, List.length_singleton] at lengths
  exact Nat.le_of_succ_le_succ lengths

theorem Takes.behind {cursor next : Cursor} {token : Token} (taken : cursor.Takes token next) :
    cursor.Behind next := by
  subst taken
  exact List.suffix_cons _ _

/-- A site that is given away moves no cursor. -/
theorem behind_takeSite (cursor : Cursor) : cursor.Behind cursor.takeSite :=
  .refl cursor

theorem behind_skipBreaks (cursor : Cursor) : cursor.Behind cursor.skipBreaks := by
  obtain ⟨breaks, split⟩ := List.dropWhile_suffix (l := cursor.rest) (·.kind.isBreak)
  refine ⟨breaks, ?_⟩
  show breaks ++ (cursor.rest.dropWhile _ ++ [cursor.finish]) = cursor.rest ++ [cursor.finish]
  rw [← List.append_assoc, split]

end Cursor

open Cursor (Behind)

/-- What is made of a cursor: a value and a cursor behind it, or an error at a token from there
on. -/
inductive ParseResult.Within {α : Type} {bound : Nat} (start : Cursor) : ParseResult α bound → Prop
  | goes {parsed : Parsed α bound} (behind : start.Behind parsed.next) : Within start (.ok parsed)
  | fails {error : SyntaxError} {token : Token} (among : token ∈ start.ahead)
      (isAt : error.IsAt token) : Within start (.error error)

open ParseResult (Within)

namespace ParseResult.Within

variable {α β : Type} {bound larger : Nat} {start next : Cursor}

theorem mono {result : ParseResult α bound} (within : Within next result)
    (behind : start.Behind next) : Within start result := by
  cases within with
  | goes further => exact .goes (behind.trans further)
  | fails among isAt => exact .fails (behind.subset among) isAt

/-- An error at the token where a cursor stands. -/
theorem here (cause : SyntaxCause) :
    Within start (.error (.atSpan start.current.span cause) : ParseResult α bound) :=
  .fails start.current_mem_ahead ⟨rfl, rfl⟩

theorem bind {first : ParseResult α bound} {further : Parsed α bound → ParseResult β larger}
    (within : Within start first)
    (others : ∀ parsed : Parsed α bound, start.Behind parsed.next →
      Within parsed.next (further parsed)) : Within start (first >>= further) := by
  cases within with
  | goes behind => exact (others _ behind).mono behind
  | fails among isAt => exact .fails among isAt

end ParseResult.Within

namespace Cursor

theorem of_select?_behind {α : Type} {cursor next : Cursor} {choose : TokenKind → Option α} {value : α}
    {span : Span} {lt : next.remaining < cursor.remaining}
    (selected : cursor.select? choose = some ⟨(value, span), next, lt⟩) : cursor.Behind next := by
  obtain ⟨token, taken, _⟩ := of_select?_some selected
  exact taken.behind

theorem of_accept?_behind {cursor next : Cursor} {accepts : TokenKind → Bool} {span : Span}
    {lt : next.remaining < cursor.remaining}
    (accepted : cursor.accept? accepts = some ⟨span, next, lt⟩) : cursor.Behind next := by
  obtain ⟨token, taken, _⟩ := of_accept?_some accepted
  exact taken.behind

theorem expect_within (cursor : Cursor) (expected : Expected) (accepts : TokenKind → Bool) :
    Within cursor (cursor.expect expected accepts) := by
  unfold Cursor.expect
  split
  case h_1 parsed accepted => exact .goes (of_accept?_behind accepted)
  case h_2 => exact .here _

/-! ## Expressions -/

section Nested

variable {bound : Nat} {nested : Nested bound}
  (nestedWithin : ∀ cursor fits, Within cursor (nested cursor fits))

include nestedWithin

theorem argument_within (before : ArgumentList) (cursor : Cursor)
    (fits : cursor.remaining < bound) :
    Within cursor (argument bound nested before cursor fits) := by
  unfold argument
  split
  case h_1 name span afterSign afterSign_lt named =>
    obtain ⟨token, afterName, sign, taken, _, assigned, _, rfl⟩ := of_nameBefore?_some named
    split
    · refine .fails cursor.current_mem_ahead ?_
      rw [taken.current]
      exact ⟨rfl, rfl⟩
    · refine ((nestedWithin afterSign _).bind ?_).mono (taken.behind.trans assigned.behind)
      exact fun parsed _ => .goes (.refl _)
  case h_2 => exact (nestedWithin cursor fits).bind fun parsed _ => .goes (.refl _)

theorem argumentList_within (before : ArgumentList) (cursor : Cursor)
    (fits : cursor.remaining < bound) :
    Within cursor (argumentList bound nested before cursor fits) := by
  unfold argumentList
  split
  · exact .goes (.refl cursor)
  · refine (argument_within nestedWithin before cursor fits).bind ?_
    rintro ⟨list, afterArgument, _⟩ _
    dsimp only
    split
    case h_1 span next next_lt accepted =>
      refine .mono ?_ (of_accept?_behind accepted)
      exact (argumentList_within list next _).bind fun parsed _ => .goes (.refl _)
    case h_2 => exact .goes (.refl _)
termination_by cursor.remaining

theorem callArguments_within (function : String) (cursor : Cursor)
    (fits : cursor.remaining ≤ bound) :
    Within cursor (callArguments bound nested function cursor fits) := by
  unfold callArguments
  refine (cursor.expect_within _ _).bind ?_
  rintro ⟨_, inside, _⟩ _
  refine ((argumentList_within nestedWithin _ inside.takeSite _).bind ?_).mono inside.behind_takeSite
  rintro ⟨list, atEnd, _⟩ _
  refine (atEnd.expect_within _ _).bind ?_
  rintro ⟨_, next, _⟩ _
  exact .goes (.refl _)

theorem nameOrCall_within (path : String) (span : Span) (cursor : Cursor)
    (fits : cursor.remaining ≤ bound) :
    Within cursor (nameOrCall bound nested path span cursor fits) := by
  unfold nameOrCall
  split
  · refine (callArguments_within nestedWithin path cursor fits).bind ?_
    exact fun parsed _ => .goes (.refl _)
  · exact .goes (.refl cursor)

theorem primary_within (cursor : Cursor) (fits : cursor.remaining ≤ bound) :
    Within cursor (primary bound nested cursor fits) := by
  unfold primary
  split
  case h_1 => exact .here _
  case h_2 kind span next next_lt selected =>
    have behind := of_select?_behind selected
    split
    case h_1 | h_2 | h_3 | h_4 => exact .goes behind
    case h_5 name =>
      refine .mono ?_ behind
      exact (nameOrCall_within nestedWithin name span next _).bind fun parsed _ => .goes (.refl _)
    case h_6 =>
      refine ((nestedWithin next _).bind ?_).mono behind
      rintro ⟨inner, atEnd, _⟩ _
      refine (atEnd.expect_within _ _).bind ?_
      rintro ⟨_, after, _⟩ _
      exact .goes (.refl _)
    case h_7 => exact .here _

theorem suffixes_within (operand : Expr) (cursor : Cursor) (fits : cursor.remaining ≤ bound) :
    Within cursor (suffixes bound nested operand cursor fits) := by
  unfold suffixes
  split
  case h_1 span afterDot afterDot_lt dotted =>
    refine .mono ?_ (of_accept?_behind dotted)
    split
    case h_1 => exact .here _
    case h_2 name nameSpan next next_lt selected =>
      refine .mono ?_ (of_select?_behind selected)
      split
      case h_1 path pathSpan =>
        refine (nameOrCall_within nestedWithin _ pathSpan next _).bind ?_
        rintro ⟨longer, after, _⟩ _
        exact (suffixes_within longer after _).bind fun parsed _ => .goes (.refl _)
      case h_2 =>
        split
        · exact .here _
        · exact (suffixes_within _ next _).bind fun parsed _ => .goes (.refl _)
  case h_2 =>
    split
    case h_1 span inside inside_lt opened =>
      refine ((nestedWithin inside _).bind ?_).mono (of_accept?_behind opened)
      rintro ⟨offset, atEnd, _⟩ _
      refine (atEnd.expect_within _ _).bind ?_
      rintro ⟨_, after, _⟩ _
      refine .mono ?_ after.behind_takeSite
      exact (suffixes_within _ after.takeSite _).bind fun parsed _ => .goes (.refl _)
    case h_2 => exact .goes (.refl cursor)
termination_by cursor.remaining
decreasing_by
  all_goals try rw [remaining_takeSite]
  all_goals omega

theorem unary_within (cursor : Cursor) (fits : cursor.remaining ≤ bound) :
    Within cursor (unary bound nested cursor fits) := by
  unfold unary
  split
  case h_1 op span next next_lt selected =>
    refine .mono ?_ (of_select?_behind selected)
    exact (unary_within next _).bind fun parsed _ => .goes (.refl _)
  case h_2 =>
    refine (primary_within nestedWithin cursor fits).bind ?_
    rintro ⟨head, next, _⟩ _
    exact (suffixes_within nestedWithin head next _).bind fun parsed _ => .goes (.refl _)
termination_by cursor.remaining

end Nested

mutual

theorem binary_within {bound : Nat} {operand : Operand bound}
    (operandWithin : ∀ cursor fits, Within cursor (operand cursor fits)) (level : Nat)
    (cursor : Cursor) (fits : cursor.remaining ≤ bound) :
    Within cursor (binary bound operand level cursor fits) := by
  unfold binary
  refine (operandWithin cursor fits).bind ?_
  rintro ⟨left, next, _⟩ _
  exact (operators_within operandWithin level left next _).bind fun parsed _ => .goes (.refl _)
termination_by 2 * cursor.remaining

theorem operators_within {bound : Nat} {operand : Operand bound}
    (operandWithin : ∀ cursor fits, Within cursor (operand cursor fits)) (level : Nat)
    (left : Expr) (cursor : Cursor) (fits : cursor.remaining ≤ bound) :
    Within cursor (operators bound operand level left cursor fits) := by
  unfold operators
  split
  case h_1 op precedence span afterOp afterOp_lt selected =>
    refine .mono ?_ (of_select?_behind selected)
    refine (binary_within operandWithin (precedence + 1) afterOp _).bind ?_
    rintro ⟨right, next, _⟩ _
    exact (operators_within operandWithin level _ next _).bind fun parsed _ => .goes (.refl _)
  case h_2 => exact .goes (.refl cursor)
termination_by 2 * cursor.remaining + 1

end

theorem expression_within (cursor : Cursor) : Within cursor cursor.expression := by
  have nestedWithin : ∀ next (fits : next.remaining < cursor.remaining),
      Within next (inner cursor.remaining next fits) := fun next _ => expression_within next
  unfold Cursor.expression ternary
  refine (binary_within (unary_within nestedWithin) 1 cursor (Nat.le_refl _)).bind ?_
  rintro ⟨condition, afterCondition, _⟩ _
  dsimp only
  split
  case h_1 span afterMark afterMark_lt marked =>
    refine ((nestedWithin afterMark (by omega)).bind ?_).mono (of_accept?_behind marked)
    rintro ⟨whenTrue, atColon, _⟩ _
    refine (atColon.expect_within _ _).bind ?_
    rintro ⟨_, afterColon, _⟩ _
    refine (nestedWithin afterColon (by omega)).bind ?_
    rintro ⟨whenFalse, next, _⟩ _
    exact .goes (.refl _)
  case h_2 => exact .goes (.refl _)
termination_by cursor.remaining

/-! ## Statements and programs -/

theorem statement_within (cursor : Cursor) : Within cursor cursor.statement := by
  unfold Cursor.statement
  split
  case h_1 span afterIf afterIf_lt isIf =>
    refine ((afterIf.expression_within).bind ?_).mono (of_accept?_behind isIf)
    rintro ⟨condition, afterCondition, _⟩ _
    have := afterCondition.remaining_skipBreaks_le
    refine ((statement_within afterCondition.skipBreaks).mono afterCondition.behind_skipBreaks).bind ?_
    rintro ⟨thenBranch, afterThen, _⟩ _
    dsimp only
    split
    case h_1 elseSpan afterElse afterElse_lt isElse =>
      have := afterThen.remaining_skipBreaks_le
      have := afterElse.remaining_skipBreaks_le
      refine .mono ?_ (afterThen.behind_skipBreaks.trans
        ((of_accept?_behind isElse).trans afterElse.behind_skipBreaks))
      refine (statement_within afterElse.skipBreaks).bind ?_
      rintro ⟨elseBranch, next, _⟩ _
      exact .goes (.refl _)
    case h_2 => exact .goes (.refl _)
  case h_2 =>
    split
    case h_1 name span afterSign afterSign_lt found =>
      obtain ⟨token, afterName, sign, taken, _, assigned, _, rfl⟩ := of_nameBefore?_some found
      refine ((afterSign.expression_within).bind ?_).mono (taken.behind.trans assigned.behind)
      exact fun parsed _ => .goes (.refl _)
    case h_2 =>
      split
      case h_1 kind name span afterName afterName_lt found =>
        obtain ⟨token, taken, _, _, _, rfl⟩ := of_declarationKind?_some found
        refine .fails cursor.current_mem_ahead ?_
        rw [taken.current]
        exact ⟨rfl, rfl⟩
      case h_2 => exact (cursor.expression_within).bind fun parsed _ => .goes (.refl _)
termination_by cursor.remaining

theorem statementEnd_within (cursor : Cursor) : Within cursor cursor.statementEnd := by
  unfold statementEnd
  split
  case h_1 span next next_lt isBreak => exact .goes (of_accept?_behind isBreak)
  case h_2 =>
    split
    · exact .goes (.refl cursor)
    · exact .here _

theorem statements_within (cursor : Cursor) : Within cursor cursor.statements := by
  have := cursor.remaining_skipBreaks_le
  unfold statements
  dsimp only
  split
  · exact .goes cursor.behind_skipBreaks
  · refine ((cursor.skipBreaks.statement_within).mono cursor.behind_skipBreaks).bind ?_
    rintro ⟨first, afterFirst, _⟩ _
    refine (afterFirst.statementEnd_within).bind ?_
    rintro ⟨_, next, _⟩ _
    exact (statements_within next).bind fun parsed _ => .goes (.refl _)
termination_by cursor.remaining

theorem Production.Gives.mono {gives others : ∀ {α : Type} {bound : Nat}, α → ParseResult α bound → Prop}
    (weaker : ∀ {α : Type} {bound : Nat} (value : α) (result : ParseResult α bound),
      gives value result → others value result) {production : Production} {start : Cursor}
    (given : production.Gives gives start) : production.Gives others start := by
  cases production with
  | expression => exact weaker _ _ given
  | _ => exact fun bound fits => weaker _ _ (given bound fits)

theorem production_within (production : Production) (cursor : Cursor) :
    production.Gives (fun _ result => Within cursor result) cursor := by
  have nestedWithin (bound : Nat) : ∀ next (fits : next.remaining < bound),
      Within next (inner bound next fits) := fun next _ => next.expression_within
  cases production with
  | expression => exact cursor.expression_within
  | binary level =>
    exact fun bound fits => binary_within (unary_within (nestedWithin bound)) level cursor fits
  | operators level left =>
    exact fun bound fits =>
      operators_within (unary_within (nestedWithin bound)) level left cursor fits
  | unary => exact fun bound fits => unary_within (nestedWithin bound) cursor fits
  | primary => exact fun bound fits => primary_within (nestedWithin bound) cursor fits
  | suffixes operand =>
    exact fun bound fits => suffixes_within (nestedWithin bound) operand cursor fits
  | nameOrCall path span =>
    exact fun bound fits => nameOrCall_within (nestedWithin bound) path span cursor fits
  | callArguments function =>
    exact fun bound fits => callArguments_within (nestedWithin bound) function cursor fits
  | argumentList before =>
    exact fun bound fits => argumentList_within (nestedWithin bound) before cursor fits
  | argument before =>
    exact fun bound fits => argument_within (nestedWithin bound) before cursor fits

/-- A program is read up to an end of input, or the error is at one of the tokens. -/
def ProgramWithin (cursor : Cursor) (result : Except SyntaxError (Program × Cursor)) : Prop :=
  (∃ program final, result = .ok (program, final) ∧ cursor.Behind final) ∨
    ∃ error token, result = .error error ∧ token ∈ cursor.ahead ∧ error.IsAt token

theorem body_within {start cursor : Cursor} (behind : start.Behind cursor) (version : Nat)
    (declaration : Option Declaration) : start.ProgramWithin (cursor.body version declaration) := by
  have within := cursor.statements_within.mono behind
  unfold body
  generalize cursor.statements = result at within
  cases within with
  | goes behind => exact .inl ⟨_, _, rfl, behind⟩
  | fails among isAt => exact .inr ⟨_, _, rfl, among, isAt⟩

theorem program_within (cursor : Cursor) : cursor.ProgramWithin cursor.program := by
  have nestedWithin (bound : Nat) : ∀ next (fits : next.remaining < bound),
      Within next (inner bound next fits) := fun next _ => next.expression_within
  cases found : cursor.skipBreaks.declarationKind? with
  | none =>
    rw [program_of_declarationKind?_none found]
    exact body_within cursor.behind_skipBreaks _ _
  | some word =>
    obtain ⟨⟨⟨kind, name⟩, span⟩, next, next_lt⟩ := word
    rw [program_of_declarationKind?_some found]
    obtain ⟨token, taken, _⟩ := of_declarationKind?_some found
    have called := callArguments_within (nestedWithin next.remaining) name next (Nat.le_refl _)
    replace called := called.mono (cursor.behind_skipBreaks.trans taken.behind)
    generalize Cursor.callArguments _ _ _ next _ = result at called ⊢
    cases called with
    | fails among isAt => exact .inr ⟨_, _, rfl, among, isAt⟩
    | @goes call behind =>
      have ended := call.next.statementEnd_within.mono behind
      simp only [ok_bind]
      generalize call.next.statementEnd = result at ended ⊢
      cases ended with
      | fails among isAt => exact .inr ⟨_, _, rfl, among, isAt⟩
      | goes behind => exact body_within behind _ _

end Cursor

/-! ## Positions -/

/-- The tokens with an end of input behind them, where the last one is none. It has the place of
the last token. -/
def withEnd (tokens : List Token) : List Token :=
  match tokens.getLast? with
  | some last =>
    if last.kind matches .endOfInput then tokens else tokens ++ [⟨.endOfInput, "", last.span⟩]
  | none => [⟨.endOfInput, "", .nowhere⟩]

/-- The cursor stands before the token that has a position in a list. -/
structure Cursor.StandsAt (tokens : List Token) (position : Nat) (cursor : Cursor) : Prop where
  position_lt : position < tokens.length
  ahead : tokens.drop position = cursor.ahead

/-- What is made of a cursor over a list of tokens: a value and a cursor at a position that is
allowed, or an error at one of the tokens. -/
inductive ParseResult.Reaches {α : Type} {bound : Nat} (tokens : List Token)
    (allowed : Nat → Prop) : ParseResult α bound → Prop
  | goes {parsed : Parsed α bound} {position : Nat} (isAllowed : allowed position)
      (stands : parsed.next.StandsAt tokens position) : Reaches tokens allowed (.ok parsed)
  | fails {error : SyntaxError} {token : Token} (among : token ∈ tokens) (isAt : error.IsAt token) :
      Reaches tokens allowed (.error error)

open ParseResult (Reaches)

theorem Cursor.ahead_ofTokens (tokens : List Token) :
    (ofTokens tokens).ahead = withEnd tokens := by
  unfold ofTokens withEnd ahead
  cases known : tokens.getLast? with
  | none =>
    rw [List.getLast?_eq_none_iff.mp known]
    rfl
  | some last =>
    by_cases ended : last.kind = .endOfInput
    · simp only [ended, if_true]
      exact List.dropLast_append_getLast? last known
    · simp only [Bool.false_eq_true, if_false]

theorem Cursor.standsAt_ofTokens (tokens : List Token) :
    (ofTokens tokens).StandsAt (withEnd tokens) 0 := by
  rw [← ahead_ofTokens]
  exact ⟨by simp [ahead], rfl⟩

namespace Cursor.StandsAt

variable {tokens : List Token} {position : Nat} {start next : Cursor}
  (stands : start.StandsAt tokens position)

include stands

theorem length : tokens.length = position + (start.remaining + 1) := by
  have lengths := congrArg List.length stands.ahead
  have := stands.position_lt
  simp only [List.length_drop, Cursor.ahead, List.length_append, List.length_singleton] at lengths
  show _ = position + (start.rest.length + 1)
  omega

theorem behind (behind : start.Behind next) :
    ∃ later, next.StandsAt tokens later ∧ later + next.remaining = position + start.remaining := by
  obtain ⟨read, split⟩ := behind
  have length := stands.length
  have lengths := congrArg List.length split
  have rest : ∀ cursor : Cursor, cursor.ahead.length = cursor.remaining + 1 := fun _ =>
    List.length_append
  rw [List.length_append, rest, rest] at lengths
  refine ⟨position + read.length, ⟨by omega, ?_⟩, by omega⟩
  rw [← List.drop_drop, stands.ahead, ← split, List.drop_left]

theorem reaches {α : Type} {bound : Nat} {result : ParseResult α bound} (within : Within start result)
    {allowed : Nat → Prop}
    (isAllowed : ∀ (next : Cursor) (later : Nat), next.remaining ≤ start.remaining →
      next.remaining < bound → later + next.remaining = position + start.remaining →
      allowed later) :
    result.Reaches tokens allowed := by
  cases within with
  | @goes parsed behind =>
    obtain ⟨later, there, distance⟩ := stands.behind behind
    exact .goes (isAllowed parsed.next later behind.remaining_le parsed.next_remaining_lt distance)
      there
  | @fails error token among isAt =>
    rw [← stands.ahead] at among
    exact .fails (List.mem_of_mem_drop among) isAt

theorem stays {α : Type} {bound : Nat} {result : ParseResult α bound}
    (within : Within start result) : result.Reaches tokens (position ≤ ·) := by
  refine stands.reaches within fun next later fewer _ distance => ?_
  omega

theorem advances {α : Type} {result : ParseResult α start.remaining}
    (within : Within start result) : result.Reaches tokens (position < ·) := by
  refine stands.reaches within fun next later _ fewer distance => ?_
  omega

end Cursor.StandsAt

open Cursor (inner)

/-- Whatever the tokens are, every production that is read at a position of them ends at a position
that is not before it, or fails at one of the tokens; an expression, a statement and a call end
behind the position. All tokens are a program up to an end of input, or there is an error at one of
them. -/
theorem parseTokens_progress (tokens : List Token) :
    (Cursor.ofTokens tokens).StandsAt (withEnd tokens) 0 ∧
    (∀ position cursor, cursor.StandsAt (withEnd tokens) position →
      (∀ production : Cursor.Production, production.Gives
        (fun _ result => result.Reaches (withEnd tokens) (position ≤ ·)) cursor) ∧
      cursor.expression.Reaches (withEnd tokens) (position < ·) ∧
      cursor.statement.Reaches (withEnd tokens) (position < ·) ∧
      ∀ function bound fits, (cursor.callArguments bound (inner bound) function fits).Reaches
        (withEnd tokens) (position < ·)) ∧
    ((∃ program final position, (Cursor.ofTokens tokens).program = .ok (program, final) ∧
        parseTokens tokens = .ok program ∧ final.StandsAt (withEnd tokens) position ∧
        final.kind = .endOfInput) ∨
      ∃ error token, parseTokens tokens = .error error ∧ token ∈ withEnd tokens ∧
        error.IsAt token) := by
  have start := Cursor.standsAt_ofTokens tokens
  refine ⟨start, fun position cursor stands => ⟨?_, ?_, ?_, ?_⟩, ?_⟩
  · intro production
    exact (Cursor.production_within production cursor).mono fun _ _ within => stands.stays within
  · exact stands.advances cursor.expression_within
  · exact stands.advances cursor.statement_within
  · intro function bound fits
    have nestedWithin : ∀ next (fits : next.remaining < bound),
      Within next (inner bound next fits) := fun next _ => next.expression_within
    exact stands.advances (Cursor.callArguments_within nestedWithin function cursor fits)
  · rw [parseTokens]
    rcases (Cursor.ofTokens tokens).program_within with
      ⟨program, final, accepted, behind⟩ | ⟨error, token, failed, among, isAt⟩
    · obtain ⟨position, stands, _⟩ := start.behind behind
      have derived := (Cursor.of_program_ok (ofTokens_closed tokens) accepted).1
      rw [accepted]
      exact .inl ⟨program, final, position, rfl, rfl, stands, derived.atEnd⟩
    · rw [failed]
      rw [Cursor.ahead_ofTokens] at among
      exact .inr ⟨error, token, rfl, among, isAt⟩

/-- An end of input stands among these tokens, and none behind them. -/
def endedTokens : List Token :=
  [⟨.identifier "a", "a", ⟨0, 1, 1, 1⟩⟩, ⟨.endOfInput, "", ⟨1, 1, 1, 2⟩⟩,
    ⟨.identifier "b", "b", ⟨2, 3, 1, 3⟩⟩]

theorem parseTokens_progress_ended :
    (Cursor.ofTokens endedTokens).StandsAt (withEnd endedTokens) 0 ∧
    (Cursor.ofTokens endedTokens).statement.Reaches (withEnd endedTokens) (0 < ·) ∧
    ∃ program final position, (Cursor.ofTokens endedTokens).program = .ok (program, final) ∧
      final.StandsAt (withEnd endedTokens) position ∧ final.kind = .endOfInput := by
  obtain ⟨start, productions, outcome⟩ := parseTokens_progress endedTokens
  refine ⟨start, (productions 0 _ start).2.2.1, ?_⟩
  rcases outcome with ⟨program, final, position, accepted, _, stands, ended⟩ | ⟨_, _, failed, _⟩
  · exact ⟨program, final, position, accepted, stands, ended⟩
  · have reads : (parseTokens endedTokens).isOk = true := by decide +kernel
    rw [failed] at reads
    cases reads

end ChartScript
