import ChartScript.Syntax

/-!
# Reading tokens

A cursor stands in a list of tokens. Behind the last one it sees an end-of-input token without
end. `Parsed` is what a production yields: a value and the cursor after it, with a proof of how
many tokens are left at most, so that productions can call each other without a bound on depth.
-/

set_option autoImplicit false

namespace ChartScript

inductive Expected where
  | expression
  | memberName
  | newline
  | leftParen
  | rightParen
  | rightBracket
  | colon
deriving Repr, DecidableEq

def Expected.describe : Expected → String
  | expression => "expression"
  | memberName => "member name"
  | newline => "newline"
  | leftParen => "'('"
  | rightParen => "')'"
  | rightBracket => "']'"
  | colon => "':'"

inductive Found where
  | endOfInput
  | newline
  | lexeme (text : String)
deriving Repr, DecidableEq

def Found.describe : Found → String
  | endOfInput => "end of input"
  | newline => "newline"
  | lexeme text => "'" ++ text ++ "'"

def Token.found (token : Token) : Found :=
  match token.kind with
  | .endOfInput => .endOfInput
  | .newline => .newline
  | _ => .lexeme token.text

inductive SyntaxCause where
  | unexpected (expected : Expected) (found : Found)
  | lateDeclaration (name : String)
  | duplicateArgument (name : String)
  | callOfUnnamed
deriving Repr, DecidableEq

namespace SyntaxCause

def message : SyntaxCause → String
  | unexpected expected found => "Expected " ++ expected.describe ++ ", got " ++ found.describe
  | lateDeclaration name => "Declaration call '" ++ name ++ "' must be the first statement"
  | duplicateArgument name => "Duplicate argument '" ++ name ++ "'"
  | callOfUnnamed => "Only named functions can be called"

end SyntaxCause

structure SyntaxError where
  cause : SyntaxCause
  line : Nat
  column : Nat
deriving Repr, DecidableEq

namespace SyntaxError

def message (error : SyntaxError) : String :=
  error.cause.message

def atSpan (span : Span) (cause : SyntaxCause) : SyntaxError :=
  ⟨cause, span.line, span.column⟩

end SyntaxError

/-! ## Cursors -/

structure Cursor where
  rest : List Token
  /-- What stands behind the last token. -/
  finish : Token
  nextSite : Nat

namespace Cursor

/-- A cursor before a list of tokens. An end-of-input token at the end of the list is what stands
behind the others; a list without it is followed by one with the place of its last token. -/
def ofTokens (tokens : List Token) : Cursor :=
  match tokens.getLast? with
  | some last =>
    if last.kind matches .endOfInput then ⟨tokens.dropLast, last, 0⟩
    else ⟨tokens, ⟨.endOfInput, "", last.span⟩, 0⟩
  | none => ⟨[], ⟨.endOfInput, "", .nowhere⟩, 0⟩

def remaining (cursor : Cursor) : Nat :=
  cursor.rest.length

def current (cursor : Cursor) : Token :=
  cursor.rest.headD cursor.finish

def kind (cursor : Cursor) : TokenKind :=
  cursor.current.kind

def moveTo (cursor : Cursor) (rest : List Token) : Cursor :=
  { cursor with rest := rest }

def takeSite (cursor : Cursor) : Cursor :=
  { cursor with nextSite := cursor.nextSite + 1 }

def unexpected (cursor : Cursor) (expected : Expected) : SyntaxError :=
  .atSpan cursor.current.span (.unexpected expected cursor.current.found)

/-- The cursor after all line breaks and version comments that stand at it. -/
def skipBreaks (cursor : Cursor) : Cursor :=
  cursor.moveTo (cursor.rest.dropWhile (·.kind.isBreak))

theorem remaining_skipBreaks_le (cursor : Cursor) :
    cursor.skipBreaks.remaining ≤ cursor.remaining :=
  (List.dropWhile_sublist _).length_le

theorem remaining_le_self (cursor : Cursor) : cursor.remaining ≤ cursor.remaining :=
  Nat.le_refl _

theorem remaining_lt_succ (cursor : Cursor) : cursor.remaining < cursor.remaining + 1 :=
  Nat.lt_succ_self _

theorem remaining_lt_succ_of_lt {cursor next : Cursor}
    (next_lt : next.remaining < cursor.remaining) : next.remaining < cursor.remaining + 1 :=
  Nat.lt_succ_of_lt next_lt

theorem remaining_le_of_lt {cursor next : Cursor} (next_lt : next.remaining < cursor.remaining) :
    next.remaining ≤ cursor.remaining :=
  Nat.le_of_lt next_lt

theorem remaining_lt_trans {cursor middle next : Cursor}
    (next_lt : next.remaining < middle.remaining)
    (middle_lt : middle.remaining < cursor.remaining) : next.remaining < cursor.remaining :=
  Nat.lt_trans next_lt middle_lt

end Cursor

/-! ## Results -/

/-- A value and the cursor after it, with fewer than `bound` tokens left. -/
structure Parsed (α : Type) (bound : Nat) where
  value : α
  next : Cursor
  next_remaining_lt : next.remaining < bound

namespace Parsed

variable {α β : Type} {bound : Nat}

def map (parsed : Parsed α bound) (f : α → β) : Parsed β bound :=
  ⟨f parsed.value, parsed.next, parsed.next_remaining_lt⟩

/-- The same result under a larger bound. -/
def widen {larger : Nat} (parsed : Parsed α bound) (bound_le : bound ≤ larger) :
    Parsed α larger :=
  ⟨parsed.value, parsed.next, Nat.lt_of_lt_of_le parsed.next_remaining_lt bound_le⟩

end Parsed

abbrev ParseResult (α : Type) (bound : Nat) := Except SyntaxError (Parsed α bound)

namespace Cursor

/-- Takes the token at the cursor if `choose` finds something in it, and gives that with the
token's span. -/
def select? {α : Type} (cursor : Cursor) (choose : TokenKind → Option α) :
    Option (Parsed (α × Span) cursor.remaining) :=
  match cursor with
  | ⟨token :: rest, finish, nextSite⟩ =>
    (choose token.kind).map fun value =>
      ⟨(value, token.span), ⟨rest, finish, nextSite⟩, Nat.lt_succ_self _⟩
  | ⟨[], _, _⟩ => none

def accept? (cursor : Cursor) (accepts : TokenKind → Bool) :
    Option (Parsed Span cursor.remaining) :=
  (cursor.select? fun kind => if accepts kind then some () else none).map (·.map Prod.snd)

def expect (cursor : Cursor) (expected : Expected) (accepts : TokenKind → Bool) :
    ParseResult Span cursor.remaining :=
  match cursor.accept? accepts with
  | some parsed => .ok parsed
  | none => .error (cursor.unexpected expected)

def isAt (cursor : Cursor) (accepts : TokenKind → Bool) : Bool :=
  accepts cursor.kind

end Cursor

end ChartScript
