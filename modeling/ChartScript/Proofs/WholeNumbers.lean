import ChartScript.Evaluation
import Mathlib

/-!
# Whole numbers as doubles

Every whole number below `2 ^ 53` is a double, and it is found again when the double is taken as an
index. So an offset and a length that a script writes as such a number are the number itself.
`ofNat_of_lt` says which significand and exponent the double has; that they survive being packed
into 64 bits is `unpack_pack_normal`.
-/

set_option autoImplicit false

namespace ChartScript.Numeral

open Float.Model Float.Model.UnpackedFloat

variable {number : Nat}

/-- The number with its highest bit moved up to bit 52. -/
def significand (number : Nat) : Nat :=
  number * 2 ^ (52 - number.log2)

theorem significand_pos (positive : 0 < number) : 0 < significand number :=
  Nat.mul_pos positive (by positivity)

section Below

variable (positive : 0 < number) (small : number < 2 ^ 53)

include positive small

theorem log2_le : number.log2 ≤ 52 :=
  Nat.le_of_lt_succ ((Nat.log2_lt positive.ne').mpr small)

theorem le_significand : 2 ^ 52 ≤ significand number := by
  have digits := log2_le positive small
  calc 2 ^ 52 = 2 ^ number.log2 * 2 ^ (52 - number.log2) := by
        rw [← Nat.pow_add, Nat.add_sub_cancel' digits]
    _ ≤ significand number := Nat.mul_le_mul_right _ (Nat.log2_self_le positive.ne')

theorem significand_lt : significand number < 2 ^ 53 := by
  have digits := log2_le positive small
  calc significand number < 2 ^ (number.log2 + 1) * 2 ^ (52 - number.log2) :=
        Nat.mul_lt_mul_of_pos_right Nat.lt_log2_self (by positivity)
    _ = 2 ^ 53 := by
        rw [← Nat.pow_add]
        congr 1
        omega

end Below

/-! ## Rounding -/

/-- What has no more than 53 bits is kept as it is. -/
theorem shiftToTargetExponent_of_lt {mantissa : Nat} {exponent : Int}
    (small : mantissa < 2 ^ 53) (least : -1074 ≤ exponent) :
    shiftToTargetExponent Format.binary64 mantissa exponent .exact =
      (ExtendedMantissa.mk mantissa false false, exponent) := by
  have digits : mantissa.log2 ≤ 52 := by
    rcases Nat.eq_zero_or_pos mantissa with rfl | positive
    · decide
    · exact log2_le positive small
  have target : Format.binary64.targetExponent (totalExponent mantissa exponent) ≤ exponent := by
    simp [Format.targetExponent, totalExponent, Format.mantissaBits, Format.minExponent]
    omega
  have nowhere :
      (Format.binary64.targetExponent (totalExponent mantissa exponent) - exponent).toNat = 0 := by
    omega
  simp [shiftToTargetExponent, shiftToExponent, nowhere, HShiftRight.hShiftRight, Nat.repeat,
    ExtendedMantissa.ofMantissaAndAccuracy]

theorem roundWithAccuracy_of_lt {mantissa : Nat} {exponent : Int} (positive : 0 < mantissa)
    (small : mantissa < 2 ^ 53) (least : -1074 ≤ exponent) :
    roundWithAccuracy Format.binary64 .positive mantissa exponent .exact =
      .finite .positive mantissa exponent positive := by
  have shifted := shiftToTargetExponent_of_lt small least
  have rounded : (ExtendedMantissa.mk mantissa false false).roundedMantissa = mantissa := rfl
  simp only [roundWithAccuracy, shifted, rounded, Nat.ne_of_gt positive, ↓reduceDIte]

theorem ofNat_of_lt (positive : 0 < number) (small : number < 2 ^ 53) :
    UnpackedFloat.ofNat Format.binary64 number =
      .finite .positive (significand number) ((number.log2 : Int) - 52)
        (significand_pos positive) := by
  have digits := log2_le positive small
  have target :
      Format.binary64.targetExponent (totalExponent number 0) = (number.log2 : Int) - 52 := by
    simp [Format.targetExponent, totalExponent, Format.mantissaBits, Format.minExponent]
    omega
  have greater : compare (number : Int) 0 = .gt :=
    compare_gt_iff_gt.mpr (Int.natCast_pos.mpr positive)
  have up : (0 - ((number.log2 : Int) - 52)).toNat = 52 - number.log2 := by omega
  have down : (0 : Int) - (52 - number.log2 : Nat) = (number.log2 : Int) - 52 := by omega
  simp only [UnpackedFloat.ofNat, UnpackedFloat.ofInt, UnpackedFloat.normalize, greater,
    UnpackedFloat.round, Int.toNat_natCast, target, decreaseExponent, up, down, Nat.shiftLeft_eq]
  exact roundWithAccuracy_of_lt (significand_pos positive) (significand_lt positive small)
    (by omega)

theorem toNat_implicit (fraction : BitVec 52) :
    (1#1 ++ fraction).toNat = 2 ^ 52 + fraction.toNat := by
  rw [BitVec.toNat_append, ← Nat.shiftLeft_add_eq_or_of_lt fraction.isLt]
  simp [Nat.shiftLeft_eq]

/-- An exponent field that is neither all zeros nor all ones. -/
theorem ofNat_ordinary (biased : Nat) (least : 1 ≤ biased) (most : biased < 2047) :
    (BitVec.ofNat 11 biased).toNat = biased ∧ BitVec.ofNat 11 biased ≠ -1#11 ∧
      BitVec.ofNat 11 biased ≠ 0#11 := by
  have fits : (BitVec.ofNat 11 biased).toNat = biased := by
    rw [BitVec.toNat_ofNat, Nat.mod_eq_of_lt (by omega)]
  have differs {other : BitVec 11} (apart : biased ≠ other.toNat) :
      BitVec.ofNat 11 biased ≠ other := by
    rintro rfl
    exact apart fits.symm
  have ones : (-1#11).toNat = 2047 := by decide
  have zeros : (0#11).toNat = 0 := by decide
  exact ⟨fits, differs (by omega), differs (by omega)⟩

theorem unpack_pack_normal {mantissa : Nat} {exponent : Int} (positive : 0 < mantissa)
    (least : 2 ^ 52 ≤ mantissa) (small : mantissa < 2 ^ 53) (low : -1074 ≤ exponent)
    (high : exponent ≤ 971) :
    (Float.Model.pack (.finite .positive mantissa exponent positive)).unpack =
      .finite .positive mantissa exponent positive := by
  have digits : mantissa.log2 + 1 = Format.binary64.mantissaBits := by
    rw [(Nat.log2_eq_iff positive.ne').mpr ⟨least, small⟩]
    rfl
  obtain ⟨biased, biased_eq⟩ : ∃ biased : Nat, (biased : Int) = exponent + 1075 :=
    ⟨(exponent + 1075).toNat, Int.toNat_of_nonneg (by omega)⟩
  obtain ⟨fits, notOnes, notZeros⟩ := ofNat_ordinary biased (by omega) (by omega)
  have implicit : (1#1 ++ BitVec.ofNat 52 mantissa).toNat = mantissa := by
    rw [toNat_implicit, BitVec.toNat_ofNat]
    omega
  have bias : (exponent + (Format.binary64.exponentBias : Int) +
      (Format.binary64.mantissaBitsWithoutImplicit : Int)).toNat = biased := by
    simp [Format.exponentBias]
    omega
  have unbias : (biased : Int) - (Format.binary64.exponentBias +
      Format.binary64.mantissaBitsWithoutImplicit) = exponent := by
    simp [Format.exponentBias]
    omega
  have finite : ¬2 ^ Format.binary64.exponentBits ≤ biased + 1 := by
    simp
    omega
  have sign : Sign.ofBitVec Sign.positive.toBitVec = .positive := rfl
  unfold Float.Model.unpack Float.Model.pack
  simp only [UnpackedFloat.pack, bias, if_neg finite, if_pos digits]
  simp only [UnpackedFloat.unpack, unpackExponent_packComponents, unpackMantissa_packComponents,
    unpackSign_packComponents, sign, notOnes, if_false, notZeros, fits, implicit, unbias]

theorem unpack_ofIndex (positive : 0 < number) (small : number < 2 ^ 53) :
    (ofIndex number).toModel.unpack =
      .finite .positive (significand number) ((number.log2 : Int) - 52)
        (significand_pos positive) := by
  have digits := log2_le positive small
  have word : number.toUInt64.toNat = number :=
    UInt64.toNat_ofNat_of_lt' (Nat.lt_trans small (by decide))
  have packed : (ofIndex number).toModel =
      Float.Model.pack (UnpackedFloat.ofNat Format.binary64 number.toUInt64.toNat) := rfl
  rw [packed, word, ofNat_of_lt positive small]
  exact unpack_pack_normal (significand_pos positive) (le_significand positive small)
    (significand_lt positive small) (by omega) (by omega)

/-! ## Indices -/

theorem ofIndex_zero : ofIndex 0 = 0.0 := by decide +kernel

theorem ofIndex_one : ofIndex 1 = 1.0 := by decide +kernel

theorem ofIndex_two : ofIndex 2 = 2.0 := by decide +kernel

theorem isFinite_ofIndex (small : number < 2 ^ 53) : (ofIndex number).isFinite = true := by
  rcases Nat.eq_zero_or_pos number with rfl | positive
  · decide +kernel
  · show (ofIndex number).toModel.unpack.isFinite = true
    rw [unpack_ofIndex positive small]
    rfl

theorem shiftRight_mantissa (mantissa : ExtendedMantissa) (places : Nat) :
    (mantissa >>> places).mantissa = mantissa.mantissa / 2 ^ places := by
  induction places with
  | zero => simp [HShiftRight.hShiftRight, Nat.repeat]
  | succ places shifted =>
    show (mantissa >>> places).mantissa / 2 = _
    rw [shifted, Nat.div_div_eq_div_mul, Nat.pow_succ]

theorem roundToInt_significand (positive : 0 < number) (small : number < 2 ^ 53) :
    roundToInt .positive (significand number) ((number.log2 : Int) - 52) = number := by
  have digits := log2_le positive small
  have up : ((number.log2 : Int) - 52 - 0).toNat = 0 := by omega
  have down : (0 - ((number.log2 : Int) - 52)).toNat = 52 - number.log2 := by omega
  have kept : (number.log2 : Int) - 52 - (0 : Nat) = (number.log2 : Int) - 52 := by omega
  have whole : significand number / 2 ^ (52 - number.log2) = number :=
    Nat.mul_div_cancel _ (by positivity)
  simp only [roundToInt, decreaseExponent, up, Nat.shiftLeft_zero, kept, shiftToExponent, down,
    shiftRight_mantissa, ExtendedMantissa.ofMantissaAndAccuracy, whole, Sign.apply]

theorem toIndex_ofIndex (small : number < 2 ^ 53) : toIndex (ofIndex number) = number := by
  rcases Nat.eq_zero_or_pos number with rfl | positive
  · decide +kernel
  · show (ofIndex number).toModel.unpack.toUInt64.toNat = number
    rw [unpack_ofIndex positive small]
    simp only [UnpackedFloat.toUInt64, toInt, roundToInt_significand positive small]
    rw [Int.toNat_natCast, UInt64.toNat_ofNatClamp_of_lt]
    exact Nat.lt_trans small (by decide)

theorem not_ofIndex_lt_zero (small : number < 2 ^ 53) : ¬ofIndex number < 0.0 := by
  have zero : (0.0 : Float).toModel.unpack = .zero .positive := by
    rw [← ofIndex_zero]
    rfl
  rcases Nat.eq_zero_or_pos number with rfl | positive
  · decide +kernel
  · intro less
    have below : (ofIndex number).toModel.unpack.lt (0.0 : Float).toModel.unpack = true :=
      of_decide_eq_true less
    rw [unpack_ofIndex positive small, zero] at below
    simp [UnpackedFloat.lt, UnpackedFloat.compare] at below

theorem not_ofIndex_lt_one (positive : 0 < number) (small : number < 2 ^ 53) :
    ¬ofIndex number < 1.0 := by
  intro less
  have below : (ofIndex number).toModel.unpack.lt (ofIndex 1).toModel.unpack = true := by
    rw [ofIndex_one]
    exact of_decide_eq_true less
  rw [unpack_ofIndex positive small, unpack_ofIndex (by decide) (by decide)] at below
  have unit : Nat.log2 1 = 0 := rfl
  simp only [UnpackedFloat.lt, UnpackedFloat.compare, beq_iff_eq, Option.some.injEq,
    Ordering.then_eq_lt, compare_lt_iff_lt, unit] at below
  rcases below with lower | ⟨_, smaller⟩
  · omega
  · have least := le_significand positive small
    exact absurd (Nat.lt_of_le_of_lt least smaller) (Nat.lt_irrefl _)

end ChartScript.Numeral

namespace ChartScript

open Numeral

/-- An offset that is written as a whole number is that number of bars. -/
theorem historyOffset_ofIndex {bars : Nat} (small : bars < 2 ^ 53) :
    historyOffset (ofIndex bars) = .ok bars := by
  unfold historyOffset
  rw [isFinite_ofIndex small, decide_eq_false (not_ofIndex_lt_zero small), toIndex_ofIndex small]
  rfl

/-- A length that is written as a whole number from one on is that number of bars. -/
theorem Arguments.length_of_ofIndex {arguments : Arguments} {position length : Nat} {name : String}
    (passed : arguments.requiredNumber position name = .ok (ofIndex length))
    (positive : 0 < length) (small : length < 2 ^ 53) :
    arguments.length position name = .ok length := by
  unfold Arguments.length
  rw [passed]
  show (if !(ofIndex length).isFinite || decide (ofIndex length < 1.0) then _ else _) = _
  rw [isFinite_ofIndex small, decide_eq_false (not_ofIndex_lt_one positive small),
    toIndex_ofIndex small]
  rfl

end ChartScript
