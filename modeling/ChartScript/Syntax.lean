import ChartScript.Color
import ChartScript.Token

/-!
# Syntax

The syntax tree of a script. A node carries the span of the token that defines it. Calls and
history references also carry a site: a number that no other call or history reference of the
program has, under which an evaluation keeps what it must remember for that node.
-/

set_option autoImplicit false

namespace ChartScript

inductive UnaryOp where
  | negate
  | logicalNot
deriving Repr, DecidableEq

inductive BinaryOp where
  | add
  | subtract
  | multiply
  | divide
  | modulo
  | equal
  | notEqual
  | greater
  | greaterEqual
  | less
  | lessEqual
  | logicalAnd
  | logicalOr
deriving Repr, DecidableEq

namespace UnaryOp

def symbol : UnaryOp → String
  | negate => "-"
  | logicalNot => "not"

end UnaryOp

namespace BinaryOp

def symbol : BinaryOp → String
  | add => "+"
  | subtract => "-"
  | multiply => "*"
  | divide => "/"
  | modulo => "%"
  | equal => "=="
  | notEqual => "!="
  | greater => ">"
  | greaterEqual => ">="
  | less => "<"
  | lessEqual => "<="
  | logicalAnd => "and"
  | logicalOr => "or"

end BinaryOp

mutual

inductive Expr where
  | number (value : Float) (span : Span)
  | string (text : String) (span : Span)
  | boolean (value : Bool) (span : Span)
  | color (value : Color) (span : Span)
  | name (path : String) (span : Span)
  /-- A name after a point, applied to something that is not a name. -/
  | member (object : Expr) (name : String) (span : Span)
  /-- The value that `series` had `offset` bars before. -/
  | history (series offset : Expr) (site : Nat) (span : Span)
  | unary (op : UnaryOp) (operand : Expr) (span : Span)
  | binary (left : Expr) (op : BinaryOp) (right : Expr) (span : Span)
  | ternary (condition whenTrue whenFalse : Expr) (span : Span)
  | call (call : Call) (span : Span)

inductive Call where
  | mk (function : String) (site : Nat) (arguments : List Expr) (named : List NamedArgument)

inductive NamedArgument where
  | mk (name : String) (value : Expr) (span : Span)

end

namespace Expr

def span : Expr → Span
  | number _ span => span
  | string _ span => span
  | boolean _ span => span
  | color _ span => span
  | name _ span => span
  | member _ _ span => span
  | history _ _ _ span => span
  | unary _ _ span => span
  | binary _ _ _ span => span
  | ternary _ _ _ span => span
  | call _ span => span

end Expr

namespace NamedArgument

def name : NamedArgument → String
  | mk name _ _ => name

def value : NamedArgument → Expr
  | mk _ value _ => value

def span : NamedArgument → Span
  | mk _ _ span => span

end NamedArgument

namespace Call

def function : Call → String
  | mk function _ _ _ => function

def site : Call → Nat
  | mk _ site _ _ => site

def arguments : Call → List Expr
  | mk _ _ arguments _ => arguments

def named : Call → List NamedArgument
  | mk _ _ _ named => named

def argumentCount (call : Call) : Nat :=
  call.arguments.length + call.named.length

def namedArgument? (call : Call) (name : String) : Option Expr :=
  (call.named.find? (·.name = name)).map NamedArgument.value

/-- The text of a string literal that is passed as title, at a position or by name. The argument
at the position wins. -/
def literalTitle? (call : Call) (position : Nat) : Option String :=
  match call.arguments[position]? <|> call.namedArgument? "title" with
  | some (.string text _) => some text
  | _ => none

end Call

inductive Statement where
  | assign (name : String) (value : Expr) (span : Span)
  | expression (value : Expr) (span : Span)
  | ifThen (condition : Expr) (thenBranch : Statement) (span : Span)
  | ifThenElse (condition : Expr) (thenBranch elseBranch : Statement) (span : Span)

def Statement.span : Statement → Span
  | assign _ _ span => span
  | expression _ span => span
  | ifThen _ _ span => span
  | ifThenElse _ _ _ span => span

inductive DeclarationKind where
  | indicator
  | strategy
deriving Repr, DecidableEq

/-- The call at the head of a script that says what the script is. -/
structure Declaration where
  kind : DeclarationKind
  call : Call
  span : Span

/-- A parsed script. Its sites are numbered from zero up to `siteCount`. -/
structure Program where
  version : Nat
  declaration : Option Declaration
  statements : List Statement
  siteCount : Nat

end ChartScript
