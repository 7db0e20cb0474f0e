import ChartScript.Proofs.ReadBack

/-!
# Displayed literals

What is displayed for a string or a color is a literal of that kind again, but it need not be the
same one. A string is displayed with escapes that the language does not have, for characters that
are not visible, carriage returns and null characters. A color is displayed with alpha first, and
read with alpha last.
-/

set_option autoImplicit false

namespace ChartScript

open Lexer

namespace Text

/-- What the display of a text is read as. -/
def reread (text : String) : String :=
  String.ofList (unescape (inner text).toList)

theorem IsPiece.unescape_ne_nil {piece : List Char} (isPiece : IsPiece piece) :
    unescape piece ≠ [] := by
  cases isPiece with
  | itself ordinary =>
    rw [unescape_eq_self (List.forall_mem_singleton.mpr ordinary)]
    exact List.cons_ne_nil _ _
  | @escaped letter =>
    obtain ⟨meant, known⟩ := unescape_escape letter
    rw [known]
    exact List.cons_ne_nil _ _

section FlatMap

variable {α : Type} {pieces : α → List α} (nonempty : ∀ first, pieces first ≠ [])

include nonempty

theorem length_le_flatMap (list : List α) : list.length ≤ (list.flatMap pieces).length := by
  induction list with
  | nil => exact Nat.zero_le _
  | cons first rest ih =>
    have one := List.length_pos_of_ne_nil (nonempty first)
    rw [List.flatMap_cons, List.length_append, List.length_cons]
    omega

/-- A list that is put together from pieces for its elements has no room for longer ones. -/
theorem eq_singleton_of_flatMap_eq_self {list : List α} (same : list.flatMap pieces = list) :
    ∀ element ∈ list, pieces element = [element] := by
  induction list with
  | nil => exact nofun
  | cons first rest ih =>
    rw [List.flatMap_cons] at same
    obtain ⟨head, more, known⟩ := List.exists_cons_of_ne_nil (nonempty first)
    rw [known, List.cons_append] at same
    obtain ⟨rfl, others⟩ := List.cons.inj same
    have room := congrArg List.length others
    have fits := length_le_flatMap nonempty rest
    rw [List.length_append] at room
    obtain rfl := List.eq_nil_of_length_eq_zero (by omega : more.length = 0)
    exact List.forall_mem_cons.mpr ⟨known, ih others⟩

end FlatMap

theorem reread_eq_self_iff {text : String} :
    reread text = text ↔ ∀ character ∈ text.toList, IsPlainlyQuoted character := by
  have read : (reread text).toList =
      text.toList.flatMap fun character => unescape (quotedChar character) := by
    rw [reread, inner, String.toList_ofList, String.toList_ofList, unescape_flatMap]
  rw [← String.toList_inj, read]
  constructor
  · intro same character member
    have alone := eq_singleton_of_flatMap_eq_self
      (fun first => (isPiece_quotedChar first).unescape_ne_nil) same character member
    exact unescape_quotedChar.mp alone
  · intro plain
    rw [← unescape_flatMap, unescape_quoted plain]

end Text

/-! ## Colors -/

namespace Color

theorem hexDigit?_digitChar : ∀ digit < 16, hexDigit? digit.digitChar.toUpper = some digit := by
  decide

theorem isAlphanum_digitChar : ∀ digit < 16, digit.digitChar.toUpper.isAlphanum = true := by
  decide

theorem hexValue?_concat (digits : List Char) (digit : Char) :
    hexValue? (digits ++ [digit]) = do
      let value ← hexValue? digits
      let next ← hexDigit? digit
      return 16 * value + next := by
  rw [hexValue?, List.foldl_append]
  rfl

theorem hexValue?_toDigits (number : Nat) :
    hexValue? ((Nat.toDigits 16 number).map Char.toUpper) = some number := by
  induction number using Nat.strongRecOn with
  | ind number ih =>
    rw [Nat.toDigits_eq_if (by decide)]
    split
    case isTrue small =>
      have known := hexDigit?_digitChar number small
      simp [hexValue?, known]
    case isFalse large =>
      have front := ih (number / 16) (Nat.div_lt_self (by omega) (by decide))
      have last := hexDigit?_digitChar _ (Nat.mod_lt number (by decide : 0 < 16))
      rw [List.map_append, List.map_singleton, hexValue?_concat, front, last]
      exact congrArg some (Nat.div_add_mod number 16)

theorem hexValue?_padded (zeros : Nat) (digits : List Char) :
    hexValue? (List.replicate zeros '0' ++ digits) = hexValue? digits := by
  induction zeros with
  | zero => rfl
  | succ zeros ih => exact ih

/-- The eight digits of a color, alpha first. -/
def digits (color : Color) : List Char :=
  color.hexText.toList

theorem digits_eq (color : Color) : color.digits =
    List.replicate (8 - (Nat.toDigits 16 color.argb.toNat).length) '0' ++
      (Nat.toDigits 16 color.argb.toNat).map Char.toUpper := by
  rw [digits, hexText, String.toList_ofList, List.length_map]

theorem length_digits (color : Color) : color.digits.length = 8 := by
  have fits : (Nat.toDigits 16 color.argb.toNat).length ≤ 8 :=
    (Nat.length_toDigits_le_iff (by decide) (by decide)).mpr color.argb.toNat_lt
  rw [digits_eq, List.length_append, List.length_replicate, List.length_map]
  omega

theorem isAlphanum_digits (color : Color) :
    ∀ character ∈ color.digits, character.isAlphanum = true := by
  rw [digits_eq]
  refine List.forall_mem_append.mpr ⟨fun character member => ?_, ?_⟩
  · rw [List.eq_of_mem_replicate member]
    rfl
  · refine List.forall_mem_map.mpr fun character member => ?_
    obtain ⟨digit, small, rfl⟩ := Text.exists_digit_of_mem_toDigits member
    exact isAlphanum_digitChar digit small

/-- What the display of a color is read as: its alpha is taken for red, red for green, green for
blue, and blue for alpha. -/
def reread (color : Color) : Color :=
  ⟨(color.argb.toNat % 0x100 * 0x1000000 + color.argb.toNat / 0x100).toUInt32⟩

theorem ofHex?_digits (color : Color) : ofHex? color.digits = some color.reread := by
  have value : hexValue? color.digits = some color.argb.toNat := by
    rw [digits_eq, hexValue?_padded, hexValue?_toDigits]
  rw [ofHex?, value, length_digits]
  rfl

theorem reread_eq_self_iff {color : Color} : color.reread = color ↔
    color.argb.toNat = color.argb.toNat % 0x100 * 0x1010101 := by
  have fits := color.argb.toNat_lt
  have turned : color.reread.argb.toNat =
      color.argb.toNat % 0x100 * 0x1000000 + color.argb.toNat / 0x100 := by
    rw [reread, Nat.toUInt32, UInt32.toNat_ofNat_of_lt' (by unfold UInt32.size; omega)]
  have words : color.reread = color ↔ color.reread.argb.toNat = color.argb.toNat := by
    rw [UInt32.toNat_inj]
    exact ⟨congrArg argb, fun same => congrArg mk same⟩
  rw [words, turned]
  omega

theorem spells_display (color : Color) (span : Span) :
    Spells (Expr.color color span).display.toList [.color color.reread] [] := by
  have shown : (Expr.color color span).display.toList = '#' :: color.digits := by
    rw [Expr.display, String.toList_append]
    rfl
  have whole : (color.digits ++ []).takeWhile Char.isAlphanum = color.digits := by
    rw [List.append_nil, List.takeWhile_eq_self_iff.mpr (isAlphanum_digits color)]
  rw [shown]
  refine spells_lexeme rfl (by decide) (by simp [Scanner.opensComment]) ?_
  simp only [lexeme, whole, ofHex?_digits]
  rfl

end Color

/-! ## Assignments -/

/-- The assignment of a text that is a single literal. -/
theorem parse_assigned_literal {text : String} {kind : TokenKind} {value : Span → Expr}
    (spelled : Spells text.toList [kind] []) (noOp : kind.unaryOp? = none)
    (isLiteral : ∀ token : Token, token.kind = kind → token.literal? = some (value token.span)) :
    ∃ program place span, parse ("v = " ++ text) = .ok program ∧ program.declaration = none ∧
      program.statements = [.assign "v" (value place) span] := by
  obtain ⟨read, last, scanned, shows⟩ := spelled.assigned.tokenize
  obtain ⟨target, afterName, taken, isName, shows⟩ := shows.of_cons
  obtain ⟨sign, afterSign, assigned, isSign, shows⟩ := shows.of_cons
  obtain ⟨token, literal, isKind⟩ := shows.of_single
  have heads := Cursor.Heads.of_primary (.literal literal (isLiteral token isKind))
  have operand := heads.unary (by rwa [literal.kind, isKind]) nofun nofun
  have derived := (operand.binary_of_unary rfl 1).expression_of_binary rfl
  obtain ⟨program, parsed, declaration, statements, _⟩ := parse_of_derives scanned rfl
    (derived.derivesProgram taken isName rfl assigned isSign rfl rfl)
  exact ⟨program, token.span, target.span, parsed, declaration, statements⟩

/-- The display of a string or of a color, assigned to a variable, is a program: it assigns a
literal of the same kind. A string is the same if every character of it is visible or has an
escape in the language, and a color if its four bytes are equal; any other one is not the same. -/
theorem parse_displayed_literal (text : String) (color : Color) (span : Span) :
    (∃ program place target,
      parse ("v = " ++ (Expr.string text span).display) = .ok program ∧
      program.declaration = none ∧
      program.statements = [.assign "v" (.string (Text.reread text) place) target] ∧
      (Text.reread text = text ↔ ∀ character ∈ text.toList, Text.IsPlainlyQuoted character)) ∧
    ∃ program place target,
      parse ("v = " ++ (Expr.color color span).display) = .ok program ∧
      program.declaration = none ∧
      program.statements = [.assign "v" (.color color.reread place) target] ∧
      (color.reread = color ↔ color.argb.toNat = color.argb.toNat % 0x100 * 0x1010101) := by
  constructor
  · have spelled : Spells (Expr.string text span).display.toList [.string (Text.inner text)] [] :=
      Text.spells_quoted text
    obtain ⟨program, place, target, parsed, declaration, statements⟩ :=
      @parse_assigned_literal _ _ (.string (Text.reread text)) spelled rfl fun token isKind => by
        rw [Token.literal?, isKind]
        rfl
    exact ⟨program, place, target, parsed, declaration, statements, Text.reread_eq_self_iff⟩
  · obtain ⟨program, place, target, parsed, declaration, statements⟩ :=
      @parse_assigned_literal _ _ (.color color.reread) (color.spells_display span) rfl
        fun token isKind => by rw [Token.literal?, isKind]
    exact ⟨program, place, target, parsed, declaration, statements, Color.reread_eq_self_iff⟩

/-- The color that a program of one assignment gives to `v`. -/
def assignedColor? (program : Program) : Option Color :=
  match program.statements with
  | [.assign "v" (.color color _) _] => some color
  | _ => none

theorem of_assignedColor? {program : Program} {color : Color}
    (assigned : assignedColor? program = some color) :
    ∃ place target, program.statements = [.assign "v" (.color color place) target] := by
  unfold assignedColor? at assigned
  split at assigned <;> cases assigned
  exact ⟨_, _, ‹_›⟩

/-- The display of opaque red is read as a yellow that cannot be seen. -/
theorem parse_displayed_red :
    ¬ ∀ (source : String) (program : Program) (color : Color) (place target : Span),
      parse source = .ok program → program.statements = [.assign "v" (.color color place) target] →
      ∃ again placeAgain targetAgain,
        parse ("v = " ++ (Expr.color color place).display) = .ok again ∧
        again.statements = [.assign "v" (.color color placeAgain) targetAgain] := by
  intro claimed
  have reads : (parse "v = #FF0000").toOption.any
      fun program => assignedColor? program = some ⟨0xFFFF0000⟩ := by decide +kernel
  have readsAgain : (parse "v = #FFFF0000").toOption.any
      fun program => assignedColor? program = some ⟨0x00FFFF00⟩ := by decide +kernel
  obtain ⟨program, parsed, known⟩ := of_toOption_any reads
  obtain ⟨other, parsedAgain, knownAgain⟩ := of_toOption_any readsAgain
  obtain ⟨place, target, assigned⟩ := of_assignedColor? (of_decide_eq_true known)
  obtain ⟨again, placeAgain, targetAgain, displayed, same⟩ :=
    claimed _ program _ place target parsed assigned
  have shown : "v = " ++ (Expr.color ⟨0xFFFF0000⟩ place).display = "v = #FFFF0000" := by
    rw [Expr.display]
    decide +kernel
  rw [shown, parsedAgain] at displayed
  cases displayed
  have yellow := of_decide_eq_true knownAgain
  simp [assignedColor?, same] at yellow

end ChartScript
