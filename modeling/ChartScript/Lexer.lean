import ChartScript.Numeral.Reading
import ChartScript.Text.Letter
import ChartScript.Token

/-!
# From text to tokens

A lexeme is a first character and a number of further ones: `lexeme` finds its kind and that
number, so a token's text followed by the rest is what stood there. `Scanner.tokens` walks the
text. Blanks and comments are skipped; a line break is a token where no bracket is open.
-/

set_option autoImplicit false

namespace ChartScript

/-! ## Failures -/

inductive LexicalCause where
  | unexpectedCharacter (character : Char)
  | unterminatedString
  | invalidNumber (literal : String)
  | invalidColor (literal : String)
deriving Repr, DecidableEq

namespace LexicalCause

def message : LexicalCause → String
  | unexpectedCharacter character => "Unexpected character '" ++ character.toString ++ "'"
  | unterminatedString => "Unterminated string literal"
  | invalidNumber literal => "Invalid number literal '" ++ literal ++ "'"
  | invalidColor literal =>
    "Invalid color literal '" ++ literal ++ "', expected #RRGGBB or #RRGGBBAA"

end LexicalCause

structure LexicalError where
  cause : LexicalCause
  line : Nat
  column : Nat
deriving Repr, DecidableEq

def LexicalError.message (error : LexicalError) : String :=
  error.cause.message

/-! ## Lexemes -/

namespace Lexer

def isBlank (character : Char) : Bool :=
  character = ' ' || character = '\t' || character = '\r'

def startsName (character : Char) : Bool :=
  Text.isLetter character || character = '_'

def continuesName (character : Char) : Bool :=
  Text.isLetter character || Text.isNumeral character || character = '_'

/-- The exponent at the front of a text: `e`, a sign or none, and at least one digit. -/
def exponentPart : List Char → List Char
  | mark :: '+' :: rest => withSign mark ['+'] rest
  | mark :: '-' :: rest => withSign mark ['-'] rest
  | mark :: rest => withSign mark [] rest
  | [] => []
where
  withSign (mark : Char) (sign rest : List Char) : List Char :=
    let digits := rest.takeWhile Char.isDigit
    if (mark = 'e' || mark = 'E') && !digits.isEmpty then mark :: sign ++ digits else []

def fractionPart : List Char → List Char
  | '.' :: rest => '.' :: rest.takeWhile Char.isDigit
  | _ => []

def numberText (characters : List Char) : List Char :=
  let whole := characters.takeWhile Char.isDigit
  let afterWhole := characters.drop whole.length
  let fraction := fractionPart afterWhole
  whole ++ fraction ++ exponentPart (afterWhole.drop fraction.length)

/-- How many characters stand before the quote that closes a string. A backslash takes the next
character with it. There is no closing quote beyond a line break. -/
def closingQuote (quote : Char) : List Char → Option Nat
  | [] => none
  | character :: rest =>
    if character = quote then some 0
    else if character = '\n' then none
    else if character = '\\' then
      match rest with
      | [] => none
      | escaped :: afterEscape =>
        if escaped = '\n' then none else (closingQuote quote afterEscape).map (· + 2)
    else (closingQuote quote rest).map (· + 1)

def withEquals (paired single : TokenKind) : List Char → TokenKind × Nat
  | '=' :: _ => (paired, 1)
  | _ => (single, 0)

/-- The kind of the lexeme that starts with `first`, and how many characters of `rest` belong
to it. -/
def lexeme (first : Char) (rest : List Char) : Except LexicalCause (TokenKind × Nat) :=
  if first = '"' || first = '\'' then
    match closingQuote first rest with
    | some length => .ok (.string (String.ofList (rest.take length)), length + 1)
    | none => .error .unterminatedString
  else if first = '#' then
    let digits := rest.takeWhile Char.isAlphanum
    match Color.ofHex? digits with
    | some color => .ok (.color color, digits.length)
    | none => .error (.invalidColor (String.ofList ('#' :: digits)))
  else if first.isDigit then
    let literal := numberText (first :: rest)
    match Numeral.readFloat? literal with
    | some value => .ok (.number value, literal.length - 1)
    | none => .error (.invalidNumber (String.ofList literal))
  else if startsName first then
    let others := rest.takeWhile continuesName
    .ok (TokenKind.ofWord (String.ofList (first :: others)), others.length)
  else
    match first with
    | '+' => .ok (.plus, 0)
    | '-' => .ok (.minus, 0)
    | '*' => .ok (.star, 0)
    | '/' => .ok (.slash, 0)
    | '%' => .ok (.percent, 0)
    | '?' => .ok (.question, 0)
    | ',' => .ok (.comma, 0)
    | '.' => .ok (.dot, 0)
    | '(' => .ok (.leftParen, 0)
    | ')' => .ok (.rightParen, 0)
    | '[' => .ok (.leftBracket, 0)
    | ']' => .ok (.rightBracket, 0)
    | '=' => .ok (withEquals .equal .assign rest)
    | '>' => .ok (withEquals .greaterEqual .greater rest)
    | '<' => .ok (withEquals .lessEqual .less rest)
    | ':' => .ok (withEquals .reassign .colon rest)
    | '!' =>
      match rest with
      | '=' :: _ => .ok (.notEqual, 1)
      | _ => .error (.unexpectedCharacter '!')
    | other => .error (.unexpectedCharacter other)

/-- How many brackets are open after a token. A bracket that closes none is not counted. -/
def depthAfter (depth : Nat) : TokenKind → Nat
  | .leftParen => depth + 1
  | .leftBracket => depth + 1
  | .rightParen => depth - 1
  | .rightBracket => depth - 1
  | _ => depth

def versionMark : List Char := "//@version=".toList

/-- What is left of a text, and what was seen before it. -/
structure Scanner where
  rest : List Char
  place : Place
  depth : Nat
  /-- Only blanks and comments stand before on this line. -/
  atLineStart : Bool

namespace Scanner

def skip (scanner : Scanner) (characters rest : List Char) : Scanner :=
  { scanner with rest := rest, place := scanner.place.afterAll characters }

def token (scanner : Scanner) (kind : TokenKind) (characters : List Char) : Token where
  kind := kind
  text := String.ofList characters
  span := .between scanner.place (scanner.place.afterAll characters)

/-- The tokens of the text, the last of which is the end of input. -/
def tokens : Scanner → Except LexicalError (List Token)
  | scanner@⟨[], _, _, _⟩ => .ok [scanner.token .endOfInput []]
  | scanner@⟨first :: rest, _, _, _⟩ =>
    if isBlank first then tokens (scanner.skip [first] rest)
    else if first = '\n' then
      let next := { scanner.skip [first] rest with atLineStart := true }
      if scanner.depth > 0 then tokens next
      else do
        let others ← tokens next
        return scanner.token .newline [first] :: others
    else if first = '/' && rest.head? = some '/' then
      let comment := first :: rest.takeWhile (· ≠ '\n')
      let next := scanner.skip comment (rest.dropWhile (· ≠ '\n'))
      if scanner.atLineStart && versionMark.isPrefixOf comment then do
        let others ← tokens next
        return scanner.token (.versionComment (String.ofList comment)) comment :: others
      else tokens next
    else
      match lexeme first rest with
      | .error cause => .error ⟨cause, scanner.place.line, scanner.place.column⟩
      | .ok (kind, further) => do
        let characters := first :: rest.take further
        let others ← tokens
          { scanner.skip characters (rest.drop further) with
            depth := depthAfter scanner.depth kind, atLineStart := false }
        return scanner.token kind characters :: others
termination_by scanner => scanner.rest.length
decreasing_by
  all_goals simp only [skip, List.length_cons, List.length_drop]
  all_goals first
    | omega
    | exact Nat.lt_succ_of_le (List.dropWhile_sublist _).length_le

end Scanner

end Lexer

def tokenize (source : String) : Except LexicalError (List Token) :=
  Lexer.Scanner.tokens ⟨source.toList, .origin, 0, true⟩

end ChartScript
