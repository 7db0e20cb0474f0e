import ChartScript.Json

/-!
# Reading JSON

A reader takes characters from the front of a text and gives what they stand for and the rest,
with a proof that the rest is shorter. A text of the grammar is one value with blanks around it.
-/

set_option autoImplicit false

namespace ChartScript.Json

/-- What was read, and fewer than `bound` characters after it. -/
structure Read (α : Type) (bound : Nat) where
  value : α
  rest : List Char
  rest_length_lt : rest.length < bound

namespace Read

variable {α β : Type} {bound : Nat}

def map (read : Read α bound) (f : α → β) : Read β bound :=
  ⟨f read.value, read.rest, read.rest_length_lt⟩

def widen {larger : Nat} (read : Read α bound) (bound_le : bound ≤ larger) : Read α larger :=
  ⟨read.value, read.rest, Nat.lt_of_lt_of_le read.rest_length_lt bound_le⟩

end Read

def isBlank (character : Char) : Bool :=
  character = ' ' || character = '\n' || character = '\t' || character = '\r'

def skipBlanks (characters : List Char) : List Char :=
  characters.dropWhile isBlank

theorem length_skipBlanks_le (characters : List Char) :
    (skipBlanks characters).length ≤ characters.length :=
  (List.dropWhile_sublist _).length_le

def dropExact? : List Char → List Char → Option (List Char)
  | [], rest => some rest
  | wanted :: others, character :: rest =>
    if wanted = character then dropExact? others rest else none
  | _ :: _, [] => none

theorem length_dropExact?_le {wanted characters rest : List Char}
    (found : dropExact? wanted characters = some rest) : rest.length ≤ characters.length := by
  induction wanted generalizing characters with
  | nil => simp_all [dropExact?]
  | cons first others ih =>
    cases characters with
    | nil => simp [dropExact?] at found
    | cons character tail =>
      simp only [dropExact?] at found
      split at found
      · exact Nat.le_succ_of_le (ih found)
      · contradiction

/-- How many characters the whole part of a numeral has: a zero alone, or digits that start with
another one. -/
def wholeLength : List Char → Option Nat
  | '0' :: rest =>
    match rest with
    | next :: _ => if next.isDigit then none else some 1
    | [] => some 1
  | first :: rest =>
    if first.isDigit then some (1 + (rest.takeWhile Char.isDigit).length) else none
  | [] => none

def fractionLength : List Char → Option Nat
  | '.' :: rest =>
    let digits := rest.takeWhile Char.isDigit
    if digits.isEmpty then none else some (1 + digits.length)
  | _ => some 0

def exponentLength : List Char → Option Nat
  | mark :: rest =>
    if mark = 'e' || mark = 'E' then
      let sign := match rest with
        | '+' :: _ => 1
        | '-' :: _ => 1
        | _ => 0
      let digits := (rest.drop sign).takeWhile Char.isDigit
      if digits.isEmpty then none else some (1 + sign + digits.length)
    else some 0
  | [] => some 0

def numeralLength (characters : List Char) : Option Nat := do
  let sign := match characters with
    | '-' :: _ => 1
    | _ => 0
  let whole ← wholeLength (characters.drop sign)
  let fraction ← fractionLength (characters.drop (sign + whole))
  let exponent ← exponentLength (characters.drop (sign + whole + fraction))
  return sign + whole + fraction + exponent

def readNumeral (characters : List Char) : Option (Read Json characters.length) := do
  let length ← numeralLength characters
  if fits : 0 < length ∧ 0 < characters.length then
    return ⟨.number (String.ofList (characters.take length)), characters.drop length, by
      simp only [List.length_drop]; omega⟩
  else none

def readString (characters : List Char) : Option (Read (List Char) characters.length) :=
  match characters with
  | [] => none
  | '"' :: rest => some ⟨[], rest, Nat.lt_succ_self _⟩
  | '\\' :: 'u' :: a :: b :: c :: d :: rest => do
    let _ ← codeUnit? a b c d
    let others ← readString rest
    return (others.map (['\\', 'u', a, b, c, d] ++ ·)).widen (by
      simp only [List.length_cons]; omega)
  | '\\' :: letter :: rest => do
    let _ ← letterEscape? letter
    let others ← readString rest
    return (others.map (['\\', letter] ++ ·)).widen (by simp only [List.length_cons]; omega)
  | character :: rest => do
    if character.toNat < 0x20 || character = '\\' then none
    else
      let others ← readString rest
      return (others.map (character :: ·)).widen (by simp only [List.length_cons]; omega)

def readWord (wanted : List Char) (value : Json) (characters : List Char) :
    Option (Read Json (characters.length + 1)) :=
  match found : dropExact? wanted characters with
  | some rest => some ⟨value, rest, Nat.lt_succ_of_le (length_dropExact?_le found)⟩
  | none => none

mutual

def readValue (characters : List Char) : Option (Read Json characters.length) :=
  match characters with
  | [] => none
  | '"' :: rest => do
    let raw ← readString rest
    return (raw.map fun raw => .string (String.ofList raw)).widen (Nat.le_succ _)
  | '[' :: rest =>
    have blanks := length_skipBlanks_le rest
    match empty : dropExact? [']'] (skipBlanks rest) with
    | some after =>
      have := length_dropExact?_le empty
      some ⟨.array [], after, by simp only [List.length_cons]; omega⟩
    | none => do
      let elements ← readElements rest
      return (elements.map .array).widen (Nat.le_succ _)
  | '\x7b' :: rest =>
    have blanks := length_skipBlanks_le rest
    match empty : dropExact? ['\x7d'] (skipBlanks rest) with
    | some after =>
      have := length_dropExact?_le empty
      some ⟨.object [], after, by simp only [List.length_cons]; omega⟩
    | none => do
      let members ← readMembers rest
      return (members.map .object).widen (Nat.le_succ _)
  | 'n' :: rest => readWord "ull".toList .null rest
  | 't' :: rest => readWord "rue".toList (.boolean true) rest
  | 'f' :: rest => readWord "alse".toList (.boolean false) rest
  | other :: rest => readNumeral (other :: rest)
termination_by 2 * characters.length

/-- Values with commas between them, up to a closing bracket. -/
def readElements (characters : List Char) : Option (Read (List Json) characters.length) := do
  have blanksBefore := length_skipBlanks_le characters
  let ⟨first, afterFirst, afterFirst_lt⟩ ← readValue (skipBlanks characters)
  have blanksAfter := length_skipBlanks_le afterFirst
  match ended : skipBlanks afterFirst with
  | ']' :: rest => return ⟨[first], rest, by simp_all only [List.length_cons]; omega⟩
  | ',' :: rest =>
    have : rest.length < characters.length := by simp_all only [List.length_cons]; omega
    let others ← readElements rest
    return (others.map (first :: ·)).widen (by omega)
  | _ => none
termination_by 2 * characters.length + 1

/-- Members with commas between them, up to a closing brace. -/
def readMembers (characters : List Char) :
    Option (Read (List (String × Json)) characters.length) := do
  have blanksBefore := length_skipBlanks_le characters
  match opened : skipBlanks characters with
  | '"' :: afterQuote =>
    let ⟨key, afterKey, afterKey_lt⟩ ← readString afterQuote
    have blanksKey := length_skipBlanks_le afterKey
    match separated : skipBlanks afterKey with
    | ':' :: afterColon =>
      have blanksColon := length_skipBlanks_le afterColon
      have : (skipBlanks afterColon).length < characters.length := by
        simp_all only [List.length_cons]; omega
      let ⟨value, afterValue, afterValue_lt⟩ ← readValue (skipBlanks afterColon)
      have blanksAfter := length_skipBlanks_le afterValue
      match ended : skipBlanks afterValue with
      | '\x7d' :: rest =>
        return ⟨[(String.ofList key, value)], rest, by simp_all only [List.length_cons]; omega⟩
      | ',' :: rest =>
        have : rest.length < characters.length := by simp_all only [List.length_cons]; omega
        let others ← readMembers rest
        return (others.map ((String.ofList key, value) :: ·)).widen (by omega)
      | _ => none
    | _ => none
  | _ => none
termination_by 2 * characters.length + 1

end

def ofText? (text : String) : Option Json := do
  let read ← readValue (skipBlanks text.toList)
  if (skipBlanks read.rest).isEmpty then return read.value else none

end ChartScript.Json
