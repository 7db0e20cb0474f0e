import ChartScript.Color

/-!
# Tokens

The words of a script, each with the text it was written as and its place in the source.
-/

set_option autoImplicit false

namespace ChartScript

/-- A place in a source text: a byte offset, and line and column counted from one. Columns count
characters. -/
structure Place where
  offset : Nat
  line : Nat
  column : Nat
deriving Repr, DecidableEq, Inhabited

namespace Place

def origin : Place := ⟨0, 1, 1⟩

def after (place : Place) (character : Char) : Place :=
  if character = '\n' then ⟨place.offset + character.utf8Size, place.line + 1, 1⟩
  else ⟨place.offset + character.utf8Size, place.line, place.column + 1⟩

def afterAll (place : Place) (characters : List Char) : Place :=
  characters.foldl after place

end Place

/-- A stretch of the source: byte offsets of its start and end, and where it starts. -/
structure Span where
  start : Nat
  stop : Nat
  line : Nat
  column : Nat
deriving Repr, DecidableEq, Inhabited

namespace Span

def between (first last : Place) : Span :=
  ⟨first.offset, last.offset, first.line, first.column⟩

/-- The span of a text that is not there. -/
def nowhere : Span := ⟨0, 0, 0, 0⟩

end Span

inductive TokenKind where
  | number (value : Float)
  /-- What stands between the quotes, with its escapes. -/
  | string (raw : String)
  | color (value : Color)
  | boolean (value : Bool)
  | identifier (name : String)
  | ifWord
  | elseWord
  | andWord
  | orWord
  | notWord
  | plus
  | minus
  | star
  | slash
  | percent
  | assign
  | reassign
  | equal
  | notEqual
  | greater
  | greaterEqual
  | less
  | lessEqual
  | question
  | colon
  | comma
  | dot
  | leftParen
  | rightParen
  | leftBracket
  | rightBracket
  | newline
  /-- A whole comment that states the language version. -/
  | versionComment (comment : String)
  | endOfInput
deriving Repr, Inhabited

structure Token where
  kind : TokenKind
  text : String
  span : Span
deriving Repr, Inhabited

namespace TokenKind

/-- Separates statements, or is ignored between them. -/
def isBreak : TokenKind → Bool
  | newline => true
  | versionComment _ => true
  | _ => false

def identifier? : TokenKind → Option String
  | identifier name => some name
  | _ => none

def ofWord (word : String) : TokenKind :=
  match word with
  | "if" => ifWord
  | "else" => elseWord
  | "and" => andWord
  | "or" => orWord
  | "not" => notWord
  | "true" => boolean true
  | "false" => boolean false
  | name => identifier name

end TokenKind

end ChartScript
