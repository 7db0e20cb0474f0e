import ChartScript.Proofs.Outcome

/-!
# The next tokens

A parsing function decides by the tokens at its cursor what it reads. First comes what a cursor
takes, then one equation for each way a parsing function of expressions can go on.
-/

set_option autoImplicit false

namespace ChartScript

namespace Cursor

/-- The cursor stands at a token, and the next cursor behind it. -/
def Takes (cursor : Cursor) (token : Token) (next : Cursor) : Prop :=
  cursor = ⟨token :: next.rest, next.finish, next.nextSite⟩

/-- Behind the last token is the end of the input. -/
def Closed (cursor : Cursor) : Prop :=
  cursor.finish.kind = .endOfInput

variable {cursor next : Cursor} {token : Token} {α : Type} {choose : TokenKind → Option α}
  {accepts : TokenKind → Bool} {value : α}

theorem Takes.remaining (taken : cursor.Takes token next) :
    cursor.remaining = next.remaining + 1 := by
  subst taken
  rfl

theorem Takes.finish (taken : cursor.Takes token next) : next.finish = cursor.finish := by
  subst taken
  rfl

theorem Takes.kind (taken : cursor.Takes token next) : cursor.kind = token.kind := by
  subst taken
  rfl

theorem Takes.current (taken : cursor.Takes token next) : cursor.current = token := by
  subst taken
  rfl

theorem Takes.remaining_lt (taken : cursor.Takes token next) :
    next.remaining < cursor.remaining :=
  taken.remaining ▸ Nat.lt_succ_self _

theorem Takes.select? (taken : cursor.Takes token next) (chosen : choose token.kind = some value) :
    cursor.select? choose = some ⟨(value, token.span), next, taken.remaining_lt⟩ := by
  cases taken
  simp only [Cursor.select?, chosen]
  rfl

theorem Takes.accept? (taken : cursor.Takes token next) (accepted : accepts token.kind = true) :
    cursor.accept? accepts = some ⟨token.span, next, taken.remaining_lt⟩ := by
  rw [Cursor.accept?, taken.select? (if_pos accepted)]
  rfl

theorem Takes.expect (taken : cursor.Takes token next) (accepted : accepts token.kind = true)
    (expected : Expected) :
    cursor.expect expected accepts = .ok ⟨token.span, next, taken.remaining_lt⟩ := by
  rw [Cursor.expect, taken.accept? accepted]

theorem Takes.unique {other : Token} {another : Cursor} (taken : cursor.Takes token next)
    (again : cursor.Takes other another) : token = other ∧ next = another := by
  obtain ⟨rest, finish, site⟩ := next
  obtain ⟨others, end', number⟩ := another
  cases taken.symm.trans again
  exact ⟨rfl, rfl⟩

theorem Takes.closed (taken : cursor.Takes token next) (closed : cursor.Closed) : next.Closed :=
  (congrArg Token.kind taken.finish).trans closed

theorem takes_of_kind (closed : cursor.Closed) (unended : cursor.kind ≠ .endOfInput) :
    ∃ token next, cursor.Takes token next ∧ token.kind = cursor.kind := by
  obtain ⟨_ | ⟨token, rest⟩, finish, site⟩ := cursor
  · exact absurd closed unended
  · exact ⟨token, ⟨rest, finish, site⟩, rfl, rfl⟩

theorem select?_of_none (nothing : choose cursor.kind = none) : cursor.select? choose = none := by
  obtain ⟨_ | ⟨token, rest⟩, finish, site⟩ := cursor
  · rfl
  · have refused : choose token.kind = none := nothing
    simp only [Cursor.select?, refused]
    rfl

theorem accept?_of_false (refused : accepts cursor.kind = false) : cursor.accept? accepts = none := by
  rw [Cursor.accept?, select?_of_none (by rw [refused]; rfl)]
  rfl

theorem select?_of_nil (atEnd : cursor.rest = []) : cursor.select? choose = none := by
  obtain ⟨tokens, finish, site⟩ := cursor
  cases atEnd
  rfl

theorem accept?_of_nil (atEnd : cursor.rest = []) : cursor.accept? accepts = none := by
  rw [Cursor.accept?, select?_of_nil atEnd]
  rfl

theorem of_select?_some {span : Span} {lt : next.remaining < cursor.remaining}
    (selected : cursor.select? choose = some ⟨(value, span), next, lt⟩) :
    ∃ token, cursor.Takes token next ∧ choose token.kind = some value ∧ token.span = span := by
  obtain ⟨_ | ⟨token, rest⟩, finish, site⟩ := cursor
  · cases selected
  · obtain ⟨found, chosen, same⟩ := Option.map_eq_some_iff.mp selected
    cases same
    exact ⟨token, rfl, chosen, rfl⟩

theorem of_select?_none (closed : cursor.Closed) (atEnd : choose .endOfInput = none)
    (nothing : cursor.select? choose = none) : choose cursor.kind = none := by
  obtain ⟨_ | ⟨token, rest⟩, finish, site⟩ := cursor
  · have same : finish.kind = .endOfInput := closed
    show choose finish.kind = none
    rw [same, atEnd]
  · exact Option.map_eq_none_iff.mp nothing

theorem of_accept?_some {span : Span} {lt : next.remaining < cursor.remaining}
    (accepted : cursor.accept? accepts = some ⟨span, next, lt⟩) :
    ∃ token, cursor.Takes token next ∧ accepts token.kind = true ∧ token.span = span := by
  obtain ⟨⟨⟨_, _⟩, _, _⟩, selected, same⟩ := Option.map_eq_some_iff.mp accepted
  cases same
  obtain ⟨token, taken, chosen, place⟩ := of_select?_some selected
  refine ⟨token, taken, ?_, place⟩
  cases known : accepts token.kind with
  | true => rfl
  | false =>
    rw [known] at chosen
    cases chosen

theorem of_accept?_none (closed : cursor.Closed) (atEnd : accepts .endOfInput = false)
    (nothing : cursor.accept? accepts = none) : accepts cursor.kind = false := by
  have refused := of_select?_none closed (by rw [atEnd]; rfl) (Option.map_eq_none_iff.mp nothing)
  cases known : accepts cursor.kind with
  | false => rfl
  | true =>
    rw [known] at refused
    cases refused

theorem of_expect_ok {expected : Expected} {span : Span} {lt : next.remaining < cursor.remaining}
    (found : cursor.expect expected accepts = .ok ⟨span, next, lt⟩) :
    ∃ token, cursor.Takes token next ∧ accepts token.kind = true ∧ token.span = span := by
  rw [Cursor.expect] at found
  split at found
  case h_1 parsed accepted =>
    cases found
    exact of_accept?_some accepted
  case h_2 => cases found

theorem of_identifier?_some {kind : TokenKind} {name : String}
    (chosen : kind.identifier? = some name) : kind = .identifier name := by
  unfold TokenKind.identifier? at chosen
  split at chosen <;> cases chosen
  rfl

theorem Takes.identifier? {name : String} (taken : cursor.Takes token next)
    (isName : token.kind = .identifier name) :
    cursor.select? TokenKind.identifier? =
      some ⟨(name, token.span), next, taken.remaining_lt⟩ :=
  taken.select? (by rw [isName]; rfl)

/-- An identifier before a sign, as the name of an argument and the target of an assignment
are. -/
def nameBefore? (accepts : TokenKind → Bool) (cursor : Cursor) :
    Option (Parsed (String × Span) cursor.remaining) := do
  let ⟨name, afterName, afterName_lt⟩ ← cursor.select? TokenKind.identifier?
  let ⟨_, next, next_lt⟩ ← afterName.accept? accepts
  return ⟨name, next, remaining_lt_trans next_lt afterName_lt⟩

def StartsName (accepts : TokenKind → Bool) (cursor : Cursor) : Prop :=
  ∃ token afterName name, cursor.Takes token afterName ∧ token.kind = .identifier name ∧
    accepts afterName.kind = true

theorem nameBefore?_of_takes {afterName afterSign : Cursor} {sign : Token} {name : String}
    (taken : cursor.Takes token afterName) (isName : token.kind = .identifier name)
    (assigned : afterName.Takes sign afterSign) (isSign : accepts sign.kind = true) :
    cursor.nameBefore? accepts = some ⟨(name, token.span), afterSign,
      Nat.lt_trans assigned.remaining_lt taken.remaining_lt⟩ := by
  unfold nameBefore?
  rw [taken.identifier? isName]
  simp only [Option.bind_eq_bind, Option.bind_some]
  rw [assigned.accept? isSign]
  rfl

theorem of_nameBefore?_some {afterSign : Cursor} {name : String} {span : Span}
    {lt : afterSign.remaining < cursor.remaining}
    (found : cursor.nameBefore? accepts = some ⟨(name, span), afterSign, lt⟩) :
    ∃ token afterName sign, cursor.Takes token afterName ∧ token.kind = .identifier name ∧
      afterName.Takes sign afterSign ∧ accepts sign.kind = true ∧ token.span = span := by
  obtain ⟨⟨⟨name, span⟩, afterName, _⟩, selected, found⟩ := Option.bind_eq_some_iff.mp found
  obtain ⟨⟨_, next, _⟩, accepted, found⟩ := Option.bind_eq_some_iff.mp found
  cases found
  obtain ⟨token, taken, chosen, place⟩ := of_select?_some selected
  obtain ⟨sign, assigned, isSign, _⟩ := of_accept?_some accepted
  exact ⟨token, afterName, sign, taken, of_identifier?_some chosen, assigned, isSign, place⟩

theorem nameBefore?_of_not_starts (unassigned : ¬cursor.StartsName accepts) :
    cursor.nameBefore? accepts = none := by
  cases found : cursor.nameBefore? accepts with
  | none => rfl
  | some parsed =>
    obtain ⟨⟨name, span⟩, afterSign, lt⟩ := parsed
    obtain ⟨token, afterName, sign, taken, isName, assigned, isSign, _⟩ :=
      of_nameBefore?_some found
    exact absurd ⟨token, afterName, name, taken, isName, assigned.kind ▸ isSign⟩ unassigned

theorem Takes.not_startsName (taken : cursor.Takes token next)
    (refused : accepts next.kind = false) : ¬cursor.StartsName accepts := by
  rintro ⟨_, afterName, _, again, _, isSign⟩
  obtain ⟨_, rfl⟩ := taken.unique again
  rw [refused] at isSign
  cases isSign

theorem nameBefore?_eq_none_iff (closed : cursor.Closed) (atEnd : accepts .endOfInput = false) :
    cursor.nameBefore? accepts = none ↔ ¬cursor.StartsName accepts := by
  refine ⟨?_, nameBefore?_of_not_starts⟩
  rintro nothing ⟨token, afterName, name, taken, isName, isSign⟩
  have unended : afterName.kind ≠ .endOfInput := by
    intro ended
    rw [ended, atEnd] at isSign
    cases isSign
  obtain ⟨sign, afterSign, assigned, same⟩ := takes_of_kind (taken.closed closed) unended
  rw [nameBefore?_of_takes taken isName assigned (same ▸ isSign)] at nothing
  cases nothing

end Cursor

/-- The expression that a token is by itself. -/
def Token.literal? (token : Token) : Option Expr :=
  match token.kind with
  | .number value => some (.number value token.span)
  | .string raw => some (.string (String.ofList (unescape raw.toList)) token.span)
  | .boolean value => some (.boolean value token.span)
  | .color value => some (.color value token.span)
  | _ => none

def Expr.isName : Expr → Bool
  | .name _ _ => true
  | _ => false

/-- Stands behind the name of an argument. -/
def TokenKind.isAssign : TokenKind → Bool
  | .assign => true
  | _ => false

namespace Cursor

variable {cursor next : Cursor} {token : Token}

theorem remaining_takeSite (cursor : Cursor) : cursor.takeSite.remaining = cursor.remaining := rfl

theorem Takes.remaining_lt_of_le (taken : cursor.Takes token next) {bound : Nat}
    (fits : cursor.remaining ≤ bound) : next.remaining < bound :=
  Nat.lt_of_lt_of_le taken.remaining_lt fits

theorem Takes.remaining_le (taken : cursor.Takes token next) : next.remaining ≤ cursor.remaining :=
  Nat.le_of_lt taken.remaining_lt

theorem Takes.remaining_le_of_le (taken : cursor.Takes token next) {bound : Nat}
    (fits : cursor.remaining ≤ bound) : next.remaining ≤ bound :=
  Nat.le_of_lt (taken.remaining_lt_of_le fits)

/-! ## Calls, operands and operators -/

theorem argumentName?_eq (cursor : Cursor) :
    cursor.argumentName? = cursor.nameBefore? TokenKind.isAssign := rfl

section Nested

variable {bound : Nat} {nested : Nested bound} {before : ArgumentList} {path : String} {span : Span}

theorem argument_of_named {afterName afterSign : Cursor} {sign : Token} {name : String}
    (fits : cursor.remaining < bound) (taken : cursor.Takes token afterName)
    (isName : token.kind = .identifier name) (assigned : afterName.Takes sign afterSign)
    (isSign : sign.kind.isAssign = true) (new : before.named.any (·.name = name) = false) :
    argument bound nested before cursor fits = (do
      let value ← nested afterSign
        (assigned.remaining_lt_of_le (taken.remaining_le_of_le (Nat.le_of_lt fits)))
      return (value.map fun value => before.addNamed (.mk name value token.span)).widen
        (assigned.remaining_le_of_le taken.remaining_le)) := by
  unfold argument
  rw [argumentName?_eq, nameBefore?_of_takes taken isName assigned isSign]
  simp only [new, Bool.false_eq_true, if_false]

theorem argument_of_unnamed (fits : cursor.remaining < bound)
    (unnamed : ¬cursor.StartsName TokenKind.isAssign) :
    argument bound nested before cursor fits = (do
      let value ← nested cursor fits
      return value.map before.addPositional) := by
  unfold argument
  rw [argumentName?_eq, nameBefore?_of_not_starts unnamed]

theorem argumentList_of_closed (fits : cursor.remaining < bound)
    (closed : cursor.kind = .rightParen) :
    argumentList bound nested before cursor fits = .ok ⟨before, cursor, Nat.lt_succ_self _⟩ := by
  unfold argumentList
  rw [if_pos (by unfold isAt; rw [closed])]

theorem argumentList_of_unclosed (fits : cursor.remaining < bound)
    (unclosed : cursor.kind ≠ .rightParen) :
    argumentList bound nested before cursor fits = (do
      let ⟨list, afterArgument, afterArgument_lt⟩ ← argument bound nested before cursor fits
      match afterArgument.accept? (· matches .comma) with
      | some ⟨_, next, next_lt⟩ =>
        let parsed ← argumentList bound nested list next
          (Nat.lt_trans next_lt (Nat.lt_trans afterArgument_lt fits))
        return parsed.widen (Nat.succ_le_succ (Nat.le_of_lt (Nat.lt_trans next_lt afterArgument_lt)))
      | none => return ⟨list, afterArgument, Nat.lt_succ_of_lt afterArgument_lt⟩) := by
  rw [argumentList]
  exact if_neg (by simp [isAt])

theorem nameOrCall_of_called (fits : cursor.remaining ≤ bound) (opened : cursor.kind = .leftParen) :
    nameOrCall bound nested path span cursor fits = (do
      let call ← callArguments bound nested path cursor fits
      return (call.map (Expr.call · span)).widen (Nat.le_succ _)) := by
  unfold nameOrCall
  rw [if_pos (by simp only [isAt, opened])]

theorem nameOrCall_of_uncalled (fits : cursor.remaining ≤ bound)
    (unopened : cursor.kind ≠ .leftParen) :
    nameOrCall bound nested path span cursor fits =
      .ok ⟨.name path span, cursor, Nat.lt_succ_self _⟩ := by
  unfold nameOrCall
  rw [if_neg (by simp [isAt])]

theorem primary_of_literal {value : Expr} (fits : cursor.remaining ≤ bound)
    (taken : cursor.Takes token next) (isLiteral : token.literal? = some value) :
    primary bound nested cursor fits = .ok ⟨value, next, taken.remaining_lt⟩ := by
  unfold primary
  rw [taken.select? rfl]
  unfold Token.literal? at isLiteral
  split at isLiteral <;> cases isLiteral <;> simp_all only

theorem primary_of_name {name : String} (fits : cursor.remaining ≤ bound)
    (taken : cursor.Takes token next) (isName : token.kind = .identifier name) :
    primary bound nested cursor fits = (do
      let parsed ← nameOrCall bound nested name token.span next (taken.remaining_le_of_le fits)
      return parsed.widen taken.remaining_lt) := by
  unfold primary
  rw [taken.select? rfl]
  simp only [isName]

theorem primary_of_opening (fits : cursor.remaining ≤ bound) (opened : cursor.Takes token next)
    (isOpening : token.kind = .leftParen) :
    primary bound nested cursor fits = (do
      let ⟨inner, atEnd, atEnd_lt⟩ ← nested next (opened.remaining_lt_of_le fits)
      let ⟨_, after, after_lt⟩ ← atEnd.expect .rightParen (· matches .rightParen)
      return ⟨inner, after, Nat.lt_trans after_lt (Nat.lt_trans atEnd_lt opened.remaining_lt)⟩) := by
  obtain ⟨kind, text, span⟩ := token
  cases opened
  cases isOpening
  rfl

/-- A name behind the point after a name makes it longer. -/
theorem suffixes_of_longer {dot : Token} {afterDot : Cursor} {name : String}
    (fits : cursor.remaining ≤ bound) (dotted : cursor.Takes dot afterDot)
    (isDot : dot.kind = .dot) (taken : afterDot.Takes token next)
    (isName : token.kind = .identifier name) :
    suffixes bound nested (.name path span) cursor fits = (do
      let ⟨longer, after, after_lt⟩ ← nameOrCall bound nested (path ++ "." ++ name) span next
        (taken.remaining_le_of_le (dotted.remaining_le_of_le fits))
      let parsed ← suffixes bound nested longer after (Nat.le_trans (Nat.le_of_lt_succ after_lt)
        (taken.remaining_le_of_le (dotted.remaining_le_of_le fits)))
      return parsed.widen (Nat.le_trans after_lt
        (Nat.succ_le_succ (taken.remaining_le_of_le dotted.remaining_le)))) := by
  rw [suffixes, dotted.accept? (by rw [isDot])]
  simp only [taken.identifier? isName]

/-- A name behind the point after anything else is that of a member, which cannot be called. -/
theorem suffixes_of_member {dot : Token} {afterDot : Cursor} {object : Expr} {name : String}
    (fits : cursor.remaining ≤ bound) (unnamed : object.isName = false)
    (dotted : cursor.Takes dot afterDot) (isDot : dot.kind = .dot)
    (taken : afterDot.Takes token next) (isName : token.kind = .identifier name)
    (uncalled : next.kind ≠ .leftParen) :
    suffixes bound nested object cursor fits = (do
      let parsed ← suffixes bound nested (.member object name token.span) next
        (taken.remaining_le_of_le (dotted.remaining_le_of_le fits))
      return parsed.widen (Nat.succ_le_succ (taken.remaining_le_of_le dotted.remaining_le))) := by
  rw [suffixes, dotted.accept? (by rw [isDot])]
  simp only [taken.identifier? isName]
  split
  · cases unnamed
  · rw [if_neg (by simp [isAt])]

theorem suffixes_of_opening {series : Expr} (fits : cursor.remaining ≤ bound)
    (opened : cursor.Takes token next) (isOpening : token.kind = .leftBracket) :
    suffixes bound nested series cursor fits = (do
      let ⟨offset, atEnd, atEnd_lt⟩ ← nested next (opened.remaining_lt_of_le fits)
      let ⟨_, after, after_lt⟩ ← atEnd.expect .rightBracket (· matches .rightBracket)
      let parsed ← suffixes bound nested (.history series offset after.nextSite token.span)
        after.takeSite (Nat.le_trans (Nat.le_of_lt (Nat.lt_trans after_lt atEnd_lt))
          (opened.remaining_le_of_le fits))
      return parsed.widen (Nat.succ_le_succ
        (Nat.le_of_lt (Nat.lt_trans after_lt (Nat.lt_trans atEnd_lt opened.remaining_lt))))) := by
  rw [suffixes]
  obtain ⟨kind, text, span⟩ := token
  cases opened
  cases isOpening
  rfl

theorem suffixes_of_neither {operand : Expr} (fits : cursor.remaining ≤ bound)
    (undotted : cursor.kind ≠ .dot) (unopened : cursor.kind ≠ .leftBracket) :
    suffixes bound nested operand cursor fits = .ok ⟨operand, cursor, Nat.lt_succ_self _⟩ := by
  rw [suffixes, accept?_of_false (by split <;> trivial), accept?_of_false (by split <;> trivial)]

theorem unary_of_operator {op : UnaryOp} (fits : cursor.remaining ≤ bound)
    (taken : cursor.Takes token next) (isOp : token.kind.unaryOp? = some op) :
    unary bound nested cursor fits = (do
      let operand ← unary bound nested next (taken.remaining_le_of_le fits)
      return (operand.map (Expr.unary op · token.span)).widen taken.remaining_le) := by
  rw [unary, taken.select? isOp]

theorem unary_of_operand (fits : cursor.remaining ≤ bound)
    (noOp : cursor.kind.unaryOp? = none) :
    unary bound nested cursor fits = (do
      let ⟨operand, next, next_lt⟩ ← primary bound nested cursor fits
      let parsed ← suffixes bound nested operand next
        (Nat.le_of_lt (Nat.lt_of_lt_of_le next_lt fits))
      return parsed.widen next_lt) := by
  rw [unary, select?_of_none noOp]

end Nested

section Operators

variable {bound level : Nat} {operand : Operand bound} {left : Expr}

theorem operators_of_takes {op : BinaryOp} {precedence : Nat} (fits : cursor.remaining ≤ bound)
    (taken : cursor.Takes token next) (isOp : token.kind.binaryOp? = some (op, precedence))
    (binds : level ≤ precedence) :
    operators bound operand level left cursor fits = (do
      let ⟨right, after, after_lt⟩ ← binary bound operand (precedence + 1) next
        (taken.remaining_le_of_le fits)
      let parsed ← operators bound operand level (.binary left op right token.span) after
        (Nat.le_of_lt (Nat.lt_of_lt_of_le after_lt (taken.remaining_le_of_le fits)))
      return parsed.widen
        (Nat.succ_le_succ (Nat.le_of_lt (Nat.lt_trans after_lt taken.remaining_lt)))) := by
  rw [operators, @Takes.select? _ _ _ _ _ (_, _) taken
    (by rw [isOp]; exact if_pos (decide_eq_true binds))]

theorem operators_of_looser (fits : cursor.remaining ≤ bound)
    (looser : ∀ op precedence, cursor.kind.binaryOp? = some (op, precedence) → precedence < level) :
    operators bound operand level left cursor fits = .ok ⟨left, cursor, Nat.lt_succ_self _⟩ := by
  have nothing : cursor.kind.binaryOp?.filter (level ≤ ·.2) = none := by
    rw [Option.filter_eq_none_iff]
    intro operator found
    have := looser operator.1 operator.2 found
    simpa using this
  rw [operators, select?_of_none nothing]

end Operators

end Cursor

end ChartScript
