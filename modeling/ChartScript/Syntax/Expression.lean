import ChartScript.Syntax.Cursor

/-!
# Parsing expressions

Every production is a function of the cursor, and of a function that parses the expressions
nested in it: those in parentheses, brackets and argument lists, and the branches of a choice.
Such an expression starts behind at least one more token, so `Cursor.expression` ties the knot by
recursion on the number of tokens left.

Binary operators are parsed by precedence: an operator takes everything to its right that binds
tighter, and operators of one level group to the left.
-/

set_option autoImplicit false

namespace ChartScript

/-- The value of a string literal: a backslash stands before a character that is meant as itself,
or before `n` for a line break and `t` for a tab. A backslash at the end stands for itself. -/
def unescape : List Char → List Char
  | [] => []
  | ['\\'] => ['\\']
  | '\\' :: 'n' :: rest => '\n' :: unescape rest
  | '\\' :: 't' :: rest => '\t' :: unescape rest
  | '\\' :: character :: rest => character :: unescape rest
  | character :: rest => character :: unescape rest

def TokenKind.binaryOp? : TokenKind → Option (BinaryOp × Nat)
  | .orWord => some (.logicalOr, 1)
  | .andWord => some (.logicalAnd, 2)
  | .equal => some (.equal, 3)
  | .notEqual => some (.notEqual, 3)
  | .greater => some (.greater, 3)
  | .greaterEqual => some (.greaterEqual, 3)
  | .less => some (.less, 3)
  | .lessEqual => some (.lessEqual, 3)
  | .plus => some (.add, 4)
  | .minus => some (.subtract, 4)
  | .star => some (.multiply, 5)
  | .slash => some (.divide, 5)
  | .percent => some (.modulo, 5)
  | _ => none

def TokenKind.unaryOp? : TokenKind → Option UnaryOp
  | .minus => some .negate
  | .notWord => some .logicalNot
  | _ => none

namespace Cursor

abbrev Nested (bound : Nat) :=
  (cursor : Cursor) → cursor.remaining < bound → ParseResult Expr cursor.remaining

structure ArgumentList where
  positional : List Expr
  named : List NamedArgument

namespace ArgumentList

def empty : ArgumentList := ⟨[], []⟩

def addPositional (list : ArgumentList) (argument : Expr) : ArgumentList :=
  { list with positional := list.positional ++ [argument] }

def addNamed (list : ArgumentList) (argument : NamedArgument) : ArgumentList :=
  { list with named := list.named ++ [argument] }

end ArgumentList

def argumentName? (cursor : Cursor) : Option (Parsed (String × Span) cursor.remaining) := do
  let ⟨name, afterName, afterName_lt⟩ ← cursor.select? TokenKind.identifier?
  let ⟨_, next, next_lt⟩ ← afterName.accept? (· matches .assign)
  return ⟨name, next, Nat.lt_trans next_lt afterName_lt⟩

/-- One argument, added to those before it. A name must not come twice. -/
def argument (bound : Nat) (nested : Nested bound) (before : ArgumentList) (cursor : Cursor)
    (fits : cursor.remaining < bound) : ParseResult ArgumentList cursor.remaining :=
  match cursor.argumentName? with
  | some ⟨(name, span), next, next_lt⟩ =>
    if before.named.any (·.name = name) then
      .error (.atSpan span (.duplicateArgument name))
    else do
      let value ← nested next (Nat.lt_trans next_lt fits)
      return (value.map fun value => before.addNamed (.mk name value span)).widen
        (Nat.le_of_lt next_lt)
  | none => do
    let value ← nested cursor fits
    return value.map before.addPositional

/-- Arguments with commas between them, up to a closing parenthesis. A comma may stand after the
last one. -/
def argumentList (bound : Nat) (nested : Nested bound) (before : ArgumentList) (cursor : Cursor)
    (fits : cursor.remaining < bound) : ParseResult ArgumentList (cursor.remaining + 1) :=
  if cursor.isAt (· matches .rightParen) then .ok ⟨before, cursor, Nat.lt_succ_self _⟩
  else do
    let ⟨list, afterArgument, afterArgument_lt⟩ ← argument bound nested before cursor fits
    match afterArgument.accept? (· matches .comma) with
    | some ⟨_, next, next_lt⟩ =>
      let parsed ← argumentList bound nested list next (by omega)
      return parsed.widen (by omega)
    | none => return ⟨list, afterArgument, Nat.lt_succ_of_lt afterArgument_lt⟩
termination_by cursor.remaining

/-- The parenthesised arguments of a call. The call's site comes before those in its arguments. -/
def callArguments (bound : Nat) (nested : Nested bound) (function : String) (cursor : Cursor)
    (fits : cursor.remaining ≤ bound) : ParseResult Call cursor.remaining := do
  let ⟨_, inside, inside_lt⟩ ← cursor.expect .leftParen (· matches .leftParen)
  let ⟨list, atEnd, atEnd_lt⟩ ← argumentList bound nested .empty inside.takeSite
    (Nat.lt_of_lt_of_le inside_lt fits)
  let ⟨_, next, next_lt⟩ ← atEnd.expect .rightParen (· matches .rightParen)
  have : inside.takeSite.remaining = inside.remaining := rfl
  return ⟨.mk function inside.nextSite list.positional list.named, next, by omega⟩

def nameOrCall (bound : Nat) (nested : Nested bound) (path : String) (span : Span)
    (cursor : Cursor) (fits : cursor.remaining ≤ bound) :
    ParseResult Expr (cursor.remaining + 1) :=
  if cursor.isAt (· matches .leftParen) then do
    let call ← callArguments bound nested path cursor fits
    return (call.map (Expr.call · span)).widen (Nat.le_succ _)
  else .ok ⟨.name path span, cursor, Nat.lt_succ_self _⟩

def primary (bound : Nat) (nested : Nested bound) (cursor : Cursor)
    (fits : cursor.remaining ≤ bound) : ParseResult Expr cursor.remaining :=
  match cursor.select? some with
  | none => .error (cursor.unexpected .expression)
  | some ⟨(kind, span), next, next_lt⟩ =>
    match kind with
    | .number value => .ok ⟨.number value span, next, next_lt⟩
    | .string raw => .ok ⟨.string (String.ofList (unescape raw.toList)) span, next, next_lt⟩
    | .boolean value => .ok ⟨.boolean value span, next, next_lt⟩
    | .color value => .ok ⟨.color value span, next, next_lt⟩
    | .identifier name => do
      let parsed ← nameOrCall bound nested name span next (by omega)
      return parsed.widen next_lt
    | .leftParen => do
      let ⟨inner, atEnd, atEnd_lt⟩ ← nested next (by omega)
      let ⟨_, after, after_lt⟩ ← atEnd.expect .rightParen (· matches .rightParen)
      return ⟨inner, after, by omega⟩
    | _ => .error (cursor.unexpected .expression)

/-- What follows an operand: names after points, and offsets in brackets. A name after a name
makes a longer name, which can be called. The site of a history reference comes after those in
its series and in its offset. -/
def suffixes (bound : Nat) (nested : Nested bound) (operand : Expr) (cursor : Cursor)
    (fits : cursor.remaining ≤ bound) : ParseResult Expr (cursor.remaining + 1) :=
  match cursor.accept? (· matches .dot) with
  | some ⟨_, afterDot, afterDot_lt⟩ =>
    match afterDot.select? TokenKind.identifier? with
    | none => .error (afterDot.unexpected .memberName)
    | some ⟨(name, nameSpan), next, next_lt⟩ =>
      match operand with
      | .name path span => do
        let ⟨longer, after, after_lt⟩ ←
          nameOrCall bound nested (path ++ "." ++ name) span next (by omega)
        let parsed ← suffixes bound nested longer after (by omega)
        return parsed.widen (by omega)
      | object =>
        if next.isAt (· matches .leftParen) then
          .error (.atSpan next.current.span .callOfUnnamed)
        else do
          let parsed ← suffixes bound nested (.member object name nameSpan) next (by omega)
          return parsed.widen (by omega)
  | none =>
    match cursor.accept? (· matches .leftBracket) with
    | some ⟨span, inside, inside_lt⟩ => do
      let ⟨offset, atEnd, atEnd_lt⟩ ← nested inside (by omega)
      let ⟨_, after, after_lt⟩ ← atEnd.expect .rightBracket (· matches .rightBracket)
      have same : after.takeSite.remaining = after.remaining := rfl
      let parsed ← suffixes bound nested (.history operand offset after.nextSite span)
        after.takeSite (by omega)
      return parsed.widen (by omega)
    | none => .ok ⟨operand, cursor, Nat.lt_succ_self _⟩
termination_by cursor.remaining

def unary (bound : Nat) (nested : Nested bound) (cursor : Cursor)
    (fits : cursor.remaining ≤ bound) : ParseResult Expr cursor.remaining :=
  match cursor.select? TokenKind.unaryOp? with
  | some ⟨(op, span), next, next_lt⟩ => do
    let operand ← unary bound nested next (by omega)
    return (operand.map (Expr.unary op · span)).widen (Nat.le_of_lt next_lt)
  | none => do
    let ⟨operand, next, next_lt⟩ ← primary bound nested cursor fits
    let parsed ← suffixes bound nested operand next (by omega)
    return parsed.widen next_lt
termination_by cursor.remaining

/-! ## Operators -/

/-- Parses the operands of binary operators where at most `bound` tokens are left. -/
abbrev Operand (bound : Nat) :=
  (cursor : Cursor) → cursor.remaining ≤ bound → ParseResult Expr cursor.remaining

mutual

/-- An operand and the operators after it that bind at least as tightly as `level`. -/
def binary (bound : Nat) (operand : Operand bound) (level : Nat) (cursor : Cursor)
    (fits : cursor.remaining ≤ bound) : ParseResult Expr cursor.remaining := do
  let ⟨left, next, next_lt⟩ ← operand cursor fits
  let parsed ← operators bound operand level left next (by omega)
  return parsed.widen next_lt
termination_by 2 * cursor.remaining

/-- The operators after a left operand that bind at least as tightly as `level`. -/
def operators (bound : Nat) (operand : Operand bound) (level : Nat) (left : Expr)
    (cursor : Cursor) (fits : cursor.remaining ≤ bound) :
    ParseResult Expr (cursor.remaining + 1) :=
  match cursor.select? (fun kind => kind.binaryOp?.filter (level ≤ ·.2)) with
  | some ⟨((op, precedence), span), afterOp, afterOp_lt⟩ => do
    let ⟨right, next, next_lt⟩ ←
      binary bound operand (precedence + 1) afterOp (by omega)
    let parsed ← operators bound operand level (.binary left op right span) next (by omega)
    return parsed.widen (by omega)
  | none => .ok ⟨left, cursor, Nat.lt_succ_self _⟩
termination_by 2 * cursor.remaining + 1

end

def ternary (bound : Nat) (nested : Nested bound) (cursor : Cursor)
    (fits : cursor.remaining ≤ bound) : ParseResult Expr cursor.remaining := do
  let ⟨condition, afterCondition, afterCondition_lt⟩ ←
    binary bound (unary bound nested) 1 cursor fits
  match afterCondition.accept? (· matches .question) with
  | some ⟨span, afterMark, afterMark_lt⟩ =>
    let ⟨whenTrue, atColon, atColon_lt⟩ ← nested afterMark (by omega)
    let ⟨_, afterColon, afterColon_lt⟩ ← atColon.expect .colon (· matches .colon)
    let ⟨whenFalse, next, next_lt⟩ ← nested afterColon (by omega)
    return ⟨.ternary condition whenTrue whenFalse span, next, by omega⟩
  | none => return ⟨condition, afterCondition, afterCondition_lt⟩

def expression (cursor : Cursor) : ParseResult Expr cursor.remaining :=
  ternary cursor.remaining (fun inner _ => expression inner) cursor (Nat.le_refl _)
termination_by cursor.remaining

end Cursor

end ChartScript
