import ChartScript.Lexer
import ChartScript.Syntax.Expression
import ChartScript.Text.Blank

/-!
# Parsing programs

A program is a version comment, a declaration and statements on lines of their own; the first two
may be missing. Version comments that come later are skipped like empty lines.
-/

set_option autoImplicit false

namespace ChartScript

def DeclarationKind.ofName? : String → Option DeclarationKind
  | "indicator" => some .indicator
  | "strategy" => some .strategy
  | _ => none

namespace Cursor

def declarationKind? (cursor : Cursor) :
    Option (Parsed ((DeclarationKind × String) × Span) cursor.remaining) := do
  let parsed ← cursor.select? fun kind => do
    let name ← kind.identifier?
    return (← DeclarationKind.ofName? name, name)
  if parsed.next.isAt (· matches .leftParen) then some parsed else none

def declaration? (cursor : Cursor) :
    Except SyntaxError (Option (Parsed Declaration cursor.remaining)) :=
  match cursor.declarationKind? with
  | none => .ok none
  | some ⟨((kind, name), span), next, next_lt⟩ => do
    let call ← callArguments next.remaining (fun inner _ => inner.expression) name next
      next.remaining_le_self
    return some ((call.map (Declaration.mk kind · span)).widen (remaining_le_of_lt next_lt))

/-- The target of an assignment: an identifier before either of the two assignment signs. -/
def assignmentTarget? (cursor : Cursor) : Option (Parsed (String × Span) cursor.remaining) := do
  let ⟨name, afterName, afterName_lt⟩ ← cursor.select? TokenKind.identifier?
  let ⟨_, next, next_lt⟩ ← afterName.accept? fun kind => kind matches .assign | .reassign
  return ⟨name, next, remaining_lt_trans next_lt afterName_lt⟩

/-- A statement. Each branch of an `if` is one statement; line breaks may stand before a branch
and before `else`, but those before anything else belong to what follows. -/
def statement (cursor : Cursor) : ParseResult Statement cursor.remaining :=
  match cursor.accept? (· matches .ifWord) with
  | some ⟨span, afterIf, afterIf_lt⟩ => do
    let ⟨condition, afterCondition, afterCondition_lt⟩ ← afterIf.expression
    have := afterCondition.remaining_skipBreaks_le
    let ⟨thenBranch, afterThen, afterThen_lt⟩ ← statement afterCondition.skipBreaks
    have := afterThen.remaining_skipBreaks_le
    match afterThen.skipBreaks.accept? (· matches .elseWord) with
    | some ⟨_, afterElse, afterElse_lt⟩ =>
      have := afterElse.remaining_skipBreaks_le
      let ⟨elseBranch, next, next_lt⟩ ← statement afterElse.skipBreaks
      return ⟨.ifThenElse condition thenBranch elseBranch span, next, by omega⟩
    | none => return ⟨.ifThen condition thenBranch span, afterThen, by omega⟩
  | none =>
    match cursor.assignmentTarget? with
    | some ⟨(name, span), next, next_lt⟩ => do
      let value ← next.expression
      return (value.map (Statement.assign name · span)).widen (Nat.le_of_lt next_lt)
    | none =>
      match cursor.declarationKind? with
      | some ⟨((_, name), span), _, _⟩ => .error (.atSpan span (.lateDeclaration name))
      | none => do
        let value ← cursor.expression
        return value.map (Statement.expression · cursor.current.span)
termination_by cursor.remaining

def statementEnd (cursor : Cursor) : ParseResult Unit (cursor.remaining + 1) :=
  match cursor.accept? (· matches .newline) with
  | some ⟨_, next, next_lt⟩ => .ok ⟨(), next, remaining_lt_succ_of_lt next_lt⟩
  | none =>
    if cursor.isAt (· matches .endOfInput) then .ok ⟨(), cursor, cursor.remaining_lt_succ⟩
    else .error (cursor.unexpected .newline)

def statements (cursor : Cursor) : ParseResult (List Statement) (cursor.remaining + 1) :=
  have := cursor.remaining_skipBreaks_le
  if cursor.skipBreaks.isAt (· matches .endOfInput) then
    .ok ⟨[], cursor.skipBreaks, by omega⟩
  else do
    let ⟨first, afterFirst, afterFirst_lt⟩ ← cursor.skipBreaks.statement
    let ⟨_, next, next_lt⟩ ← afterFirst.statementEnd
    let parsed ← statements next
    return (parsed.map (first :: ·)).widen (by omega)
termination_by cursor.remaining

def versionLimit : Nat := 0x100000000

/-- The version a comment states: the number after its equals sign, and one if there is none. -/
def versionOf (comment : String) : Nat :=
  let number := (comment.toList.dropWhile (· ≠ '=')).drop 1
  (Numeral.readNatural? versionLimit (Text.trim number)).getD 1

/-- A version comment on the first line that is not empty, or version one. -/
def version (cursor : Cursor) : Nat × Cursor :=
  let start := cursor.moveTo (cursor.rest.dropWhile (·.kind matches .newline))
  match start.rest with
  | ⟨.versionComment comment, _, _⟩ :: rest => (versionOf comment, start.moveTo rest)
  | _ => (1, start)

def program (cursor : Cursor) : Except SyntaxError (Program × Cursor) := do
  let (version, afterVersion) := cursor.version
  let start := afterVersion.skipBreaks
  let (declaration, afterDeclaration) ← match ← start.declaration? with
    | some ⟨declaration, next, _⟩ => do
      let ended ← next.statementEnd
      pure (some declaration, ended.next)
    | none => pure (none, start)
  let parsed ← afterDeclaration.statements
  return (⟨version, declaration, parsed.value, parsed.next.nextSite⟩, parsed.next)

end Cursor

def parseTokens (tokens : List Token) : Except SyntaxError Program := do
  let (program, _) ← (Cursor.ofTokens tokens).program
  return program

/-! ## Source texts -/

inductive SourceError where
  | lexical (error : LexicalError)
  | syntactic (error : SyntaxError)
deriving Repr, DecidableEq

namespace SourceError

def line : SourceError → Nat
  | lexical error => error.line
  | syntactic error => error.line

def column : SourceError → Nat
  | lexical error => error.column
  | syntactic error => error.column

def message (error : SourceError) : String :=
  let text := match error with
    | lexical error => error.message
    | syntactic error => error.message
  "[" ++ toString error.line ++ ":" ++ toString error.column ++ "] " ++ text

end SourceError

def parse (source : String) : Except SourceError Program :=
  match tokenize source with
  | .error error => .error (.lexical error)
  | .ok tokens =>
    match parseTokens tokens with
    | .error error => .error (.syntactic error)
    | .ok program => .ok program

end ChartScript
