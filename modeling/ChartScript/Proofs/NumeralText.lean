import ChartScript.Lexer
import ChartScript.Numeral.Shortest
import Mathlib

/-!
# The text of a numeral that was read

A numeral without a sign is read as a double without one: rounding, products and quotients of
doubles without a sign bit have none. The text of such a double is digits, with a point behind the
first of them or none, which is what the scanner takes for a numeral.
-/

set_option autoImplicit false

namespace ChartScript.Numeral

open Float.Model UnpackedFloat

/-- A number that is not below zero, or not a number. -/
def IsUnsigned : UnpackedFloat → Prop
  | .infinity sign => sign = .positive
  | .notANumber => True
  | .zero sign => sign = .positive
  | .finite sign _ _ _ => sign = .positive

theorem unpackSign_pack {value : UnpackedFloat} (unsigned : IsUnsigned value) :
    unpackSign (UnpackedFloat.pack .binary64 value) = 0#1 := by
  cases value with
  | infinity sign | zero sign =>
    cases unsigned
    exact unpackSign_packComponents .positive _ _
  | notANumber => exact unpackSign_packComponents .positive _ _
  | finite sign mantissa exponent positive =>
    cases unsigned
    unfold UnpackedFloat.pack
    simp only
    split
    · exact unpackSign_packComponents .positive _ _
    · split
      · exact unpackSign_packComponents .positive _ _
      · exact unpackSign_packComponents .positive _ _

theorem unpack_isUnsigned {bits : BitVec Format.binary64.numBits} (noSign : unpackSign bits = 0#1) :
    IsUnsigned (UnpackedFloat.unpack .binary64 bits) := by
  have sign : Sign.ofBitVec (unpackSign bits) = .positive := by rw [noSign]; rfl
  unfold UnpackedFloat.unpack
  simp only [sign]
  split
  · split <;> trivial
  · split
    · split <;> trivial
    · trivial

theorem roundWithAccuracy_isUnsigned (mantissa : Nat) (exponent : Int) (accuracy : Accuracy) :
    IsUnsigned (roundWithAccuracy .binary64 .positive mantissa exponent accuracy) := by
  unfold roundWithAccuracy
  simp only
  split <;> trivial

theorem mul_isUnsigned {first second : UnpackedFloat} (unsigned : IsUnsigned first)
    (others : IsUnsigned second) : IsUnsigned (UnpackedFloat.mul .binary64 first second) := by
  cases first <;> cases second <;> cases unsigned <;> cases others <;>
    first
      | trivial
      | exact roundWithAccuracy_isUnsigned _ _ _

theorem div_isUnsigned {first second : UnpackedFloat} (unsigned : IsUnsigned first)
    (others : IsUnsigned second) : IsUnsigned (UnpackedFloat.div .binary64 first second) := by
  cases first <;> cases second <;> cases unsigned <;> cases others <;>
    first
      | trivial
      | exact roundWithAccuracy_isUnsigned _ _ _

theorem ofNat_isUnsigned (number : Nat) : IsUnsigned (UnpackedFloat.ofNat .binary64 number) := by
  unfold UnpackedFloat.ofNat UnpackedFloat.ofInt UnpackedFloat.normalize
  split
  case h_1 below =>
    have := Int.compare_eq_lt.mp below
    omega
  case h_2 => trivial
  case h_3 => exact roundWithAccuracy_isUnsigned _ _ _

theorem ofScientific_isUnsigned (mantissa : Nat) (exponent : Int) :
    IsUnsigned (UnpackedFloat.ofScientific .binary64 mantissa exponent) := by
  unfold UnpackedFloat.ofScientific
  split
  · trivial
  · split
    · trivial
    · split
      · trivial
      · split
        · exact mul_isUnsigned rfl rfl
        · exact div_isUnsigned rfl rfl

/-! ## Doubles -/

theorem unpack_pack_isUnsigned {value : UnpackedFloat} (unsigned : IsUnsigned value) :
    IsUnsigned (Float.Model.pack value).unpack :=
  unpack_isUnsigned (unpackSign_pack unsigned)

theorem isNegative_pack {value : UnpackedFloat} (unsigned : IsUnsigned value) :
    isNegative (Float.ofModel (.pack value)) = false := by
  have bit : (UnpackedFloat.pack .binary64 value).toNat / 2 ^ 63 % 2 = 0 := by
    simpa [unpackSign, Nat.shiftRight_eq_div_pow] using
      congrArg BitVec.toNat (unpackSign_pack unsigned)
  have within := (UnpackedFloat.pack .binary64 value).isLt
  have clear : ¬(UnpackedFloat.pack .binary64 value).toNat / 2 ^ 63 = 1 := by omega
  exact decide_eq_false clear

/-- A number times a power of ten has no sign. -/
theorem isNegative_ofScientific (mantissa : Nat) (below : Bool) (exponent : Nat) :
    isNegative (Float.ofScientific mantissa below exponent) = false := by
  unfold Float.ofScientific
  split
  case isTrue small =>
    have unsigned : IsUnsigned mantissa.toUInt64.toFloat.toModel.unpack :=
      unpack_pack_isUnsigned (ofNat_isUnsigned _)
    simp only
    split
    on_goal 1 => refine isNegative_pack (div_isUnsigned unsigned (unpack_isUnsigned ?_))
    on_goal 2 => refine isNegative_pack (mul_isUnsigned unsigned (unpack_isUnsigned ?_))
    -- The other operand is an entry of a table of powers of ten.
    all_goals
      have := small.2
      interval_cases exponent <;> generalize_proofs within <;> revert within <;> decide +kernel
  case isFalse => exact isNegative_pack (ofScientific_isUnsigned _ _)

theorem isNegative_magnitude (literal : DecimalLiteral) : isNegative literal.magnitude = false := by
  unfold DecimalLiteral.magnitude
  simp only
  split
  · exact isNegative_ofScientific _ _ _
  · split
    · decide +kernel
    · exact isNegative_ofScientific _ _ _

theorem negative_of_readUnsigned? {negative : Bool} {characters : List Char}
    {literal : DecimalLiteral} (read : readUnsigned? negative characters = some literal) :
    literal.negative = negative := by
  unfold readUnsigned? at read
  simp only at read
  split at read
  all_goals
    split at read
    · cases read
    · obtain ⟨_, _, rfl⟩ := Option.map_eq_some_iff.mp read
      rfl

theorem isNegative_of_readFloat? {characters : List Char} {value : Float}
    (unsigned : (splitSign characters).1 = false) (read : readFloat? characters = some value) :
    isNegative value = false := by
  unfold readFloat? at read
  simp only [unsigned] at read
  split at read
  · cases read
    decide +kernel
  · split at read
    · cases read
      decide +kernel
    · obtain ⟨literal, known, rfl⟩ := Option.map_eq_some_iff.mp read
      rw [DecimalLiteral.toFloat, negative_of_readUnsigned? known]
      exact isNegative_magnitude literal

/-! ## Texts -/

/-- Digits, with a point behind the first of them or none. -/
structure IsPlain (whole fraction : List Char) : Prop where
  whole_ne_nil : whole ≠ []
  whole_digits : ∀ character ∈ whole, character.isDigit = true
  fraction_digits : ∀ character ∈ fraction.drop 1, character.isDigit = true
  point : ∀ character ∈ fraction.head?, character = '.'

/-- The scanner takes all of it. -/
theorem IsPlain.numberText {whole fraction : List Char} (plain : IsPlain whole fraction) :
    Lexer.numberText (whole ++ fraction) = whole ++ fraction := by
  obtain ⟨_, digits, others, point⟩ := plain
  have front : (whole ++ fraction).takeWhile Char.isDigit = whole := by
    rw [List.takeWhile_append_of_pos digits]
    rcases fraction with _ | ⟨mark, rest⟩
    · exact List.append_nil _
    · rw [point mark rfl, List.takeWhile_cons_of_neg (by decide), List.append_nil]
  have behind : Lexer.fractionPart fraction = fraction := by
    rcases fraction with _ | ⟨mark, rest⟩
    · rfl
    · rw [point mark rfl, Lexer.fractionPart]
      exact congrArg ('.' :: ·) (List.takeWhile_eq_self_iff.mpr others)
  simp only [Lexer.numberText, front, List.drop_left, behind, List.drop_length, Lexer.exponentPart,
    List.append_nil]

theorem IsPlain.starts {whole fraction : List Char} (plain : IsPlain whole fraction) :
    ∃ first rest, whole ++ fraction = first :: rest ∧ first.isDigit = true := by
  obtain ⟨first, rest, rfl⟩ := List.exists_cons_of_ne_nil plain.whole_ne_nil
  exact ⟨first, rest ++ fraction, rfl, plain.whole_digits first List.mem_cons_self⟩

theorem positionalText_isPlain {digits : List Char} (power : Int)
    (all : ∀ character ∈ digits, character.isDigit = true) :
    ∃ whole fraction, (Layout.plain.positionalText digits power).toList = whole ++ fraction ∧
      IsPlain whole fraction := by
  have zeros (count : Nat) : ∀ character ∈ List.replicate count '0', character.isDigit = true := by
    intro character member
    rw [(List.mem_replicate.mp member).2]
    decide
  unfold Layout.positionalText
  split
  case isTrue =>
    refine ⟨['0'], '.' :: (List.replicate (-power - 1).toNat '0' ++ digits), by simp, ?_⟩
    refine ⟨by simp, List.all_eq_true.mp rfl, ?_, by simp⟩
    exact List.forall_mem_append.mpr ⟨zeros _, all⟩
  case isFalse =>
    simp only
    split
    case isTrue fits =>
      refine ⟨digits ++ List.replicate (power.toNat + 1 - digits.length) '0', [],
        by simp [Layout.plain], ?_, ?_, nofun, nofun⟩
      · refine List.length_pos_iff.mp ?_
        rw [List.length_append, List.length_replicate]
        omega
      · exact List.forall_mem_append.mpr ⟨all, zeros _⟩
    case isFalse longer =>
      refine ⟨digits.take (power.toNat + 1), '.' :: digits.drop (power.toNat + 1), by simp, ?_, ?_, ?_,
        by simp⟩
      · refine List.length_pos_iff.mp ?_
        rw [List.length_take]
        omega
      · exact fun _ member => all _ (List.mem_of_mem_take member)
      · exact fun _ member => all _ (List.mem_of_mem_drop member)

theorem dropTrailingZeros_digits {digits : List Char}
    (all : ∀ character ∈ digits, character.isDigit = true) :
    ∀ character ∈ dropTrailingZeros digits, character.isDigit = true := by
  intro character member
  have kept := (List.dropWhile_sublist (l := digits.reverse) (· = '0')).subset
    (List.mem_reverse.mp member)
  exact all character (List.mem_reverse.mp kept)

/-- The text of a finite double without a sign. -/
theorem text_isPlain {value : Float} (number : value.isNaN = false) (finite : value.isInf = false)
    (unsigned : isNegative value = false) :
    ∃ whole fraction, (text value).toList = whole ++ fraction ∧ IsPlain whole fraction := by
  unfold text Layout.render
  rw [number, finite, unsigned]
  simp only [Bool.false_eq_true, if_false]
  unfold Layout.magnitudeText
  simp only
  split
  · exact positionalText_isPlain 0 (List.all_eq_true.mp rfl)
  · have positional (power : Int) : Layout.plain.positional power = true := rfl
    rw [if_pos (positional _)]
    refine positionalText_isPlain _ (dropTrailingZeros_digits fun character member => ?_)
    exact Nat.isDigit_of_mem_toDigits (by decide) (by decide) member

end ChartScript.Numeral
