import Mathlib.Algebra.Order.Field.Power
import Mathlib.Data.Rat.Cast.Order
import Mathlib.Tactic.FieldSimp
import Mathlib.Tactic.NormNum
import Mathlib.Tactic.Positivity
import Mathlib.Tactic.Ring
import PropertyGraph.Number.Rounding

/-!
# Magnitudes that a format has

A fraction that is equal to a magnitude of a format is rounded to that magnitude. The double width
has every magnitude of the single width, so a number of the single width that is shown at the double
width comes back unchanged.
-/
namespace PropertyGraph

section

variable {numerator denominator : Nat}

/-- A fraction that is a whole number is rounded to it. -/
theorem roundHalfEven_of_eq_mul {units : Nat} (positive : 0 < denominator)
    (exact : numerator = units * denominator) : roundHalfEven numerator denominator = units := by
  subst exact
  simp [roundHalfEven, Nat.mul_div_cancel units positive, positive]

/-- A positive number is between two neighbouring powers of two. -/
theorem log2_bounds (positive : 0 < numerator) :
    (2 : ℚ) ^ (numerator.log2 : ℤ) ≤ numerator ∧
      (numerator : ℚ) < 2 ^ ((numerator.log2 : ℤ) + 1) := by
  constructor
  · rw [zpow_natCast]
    exact_mod_cast Nat.log2_self_le positive.ne'
  · rw [← Nat.cast_succ, zpow_natCast]
    exact_mod_cast Nat.lt_log2_self

variable (numerator denominator) in
/-- The test of the guess in natural numbers is one of fractions. -/
theorem fits_iff (guess : ℤ) :
    (if 0 ≤ guess then denominator * Nat.pow 2 guess.toNat ≤ numerator
      else denominator ≤ numerator * Nat.pow 2 (-guess).toNat) ↔
      (2 : ℚ) ^ guess * denominator ≤ numerator := by
  split
  · next up =>
    obtain ⟨steps, rfl⟩ := Int.eq_ofNat_of_zero_le up
    rw [Int.toNat_natCast, Nat.pow_eq, zpow_natCast, mul_comm]
    norm_cast
  · next down =>
    obtain ⟨steps, rfl⟩ : ∃ steps : ℕ, guess = -steps := ⟨(-guess).toNat, by omega⟩
    rw [neg_neg, Int.toNat_natCast, Nat.pow_eq, zpow_neg, zpow_natCast,
      inv_mul_le_iff₀ (by positivity), mul_comm]
    norm_cast

/-- The logarithm is the exponent of the greatest power that is at most the fraction. -/
theorem floorLog2_eq (hasNumerator : 0 < numerator) (hasDenominator : 0 < denominator)
    {exponent : ℤ} (low : (2 : ℚ) ^ exponent * denominator ≤ numerator)
    (high : (numerator : ℚ) < 2 ^ (exponent + 1) * denominator) :
    floorLog2 numerator denominator = exponent := by
  have positive : (0 : ℚ) < denominator := by exact_mod_cast hasDenominator
  obtain ⟨lowNumerator, highNumerator⟩ := log2_bounds hasNumerator
  obtain ⟨lowDenominator, highDenominator⟩ := log2_bounds hasDenominator
  have atLeast : exponent + denominator.log2 < (numerator.log2 : ℤ) + 1 := by
    refine (zpow_lt_zpow_iff_right₀ (one_lt_two (α := ℚ))).1 ?_
    calc (2 : ℚ) ^ (exponent + denominator.log2)
        = 2 ^ exponent * 2 ^ (denominator.log2 : ℤ) := zpow_add₀ two_ne_zero _ _
      _ ≤ 2 ^ exponent * denominator := by gcongr
      _ ≤ numerator := low
      _ < 2 ^ ((numerator.log2 : ℤ) + 1) := highNumerator
  have atMost : (numerator.log2 : ℤ) < exponent + 1 + (denominator.log2 + 1) := by
    refine (zpow_lt_zpow_iff_right₀ (one_lt_two (α := ℚ))).1 ?_
    calc (2 : ℚ) ^ (numerator.log2 : ℤ) ≤ numerator := lowNumerator
      _ < 2 ^ (exponent + 1) * denominator := high
      _ < 2 ^ (exponent + 1) * 2 ^ ((denominator.log2 : ℤ) + 1) := by gcongr
      _ = 2 ^ (exponent + 1 + (denominator.log2 + 1)) := (zpow_add₀ two_ne_zero _ _).symm
  have fits := fits_iff numerator denominator ((numerator.log2 : ℤ) - denominator.log2)
  simp only [floorLog2, fits]
  split
  · next holds =>
    have notAbove : (numerator.log2 : ℤ) - denominator.log2 < exponent + 1 := by
      refine (zpow_lt_zpow_iff_right₀ (one_lt_two (α := ℚ))).1 ?_
      exact lt_of_mul_lt_mul_right (holds.trans_lt high) positive.le
    omega
  · next fails =>
    have notBelow : exponent < (numerator.log2 : ℤ) - denominator.log2 := by
      refine (zpow_lt_zpow_iff_right₀ (one_lt_two (α := ℚ))).1 ?_
      exact lt_of_mul_lt_mul_right (low.trans_lt (not_le.1 fails)) positive.le
    omega

end

namespace BinaryFormat

variable {format : BinaryFormat} {code numerator denominator : Nat}

/-- The value of a magnitude. -/
def value (format : BinaryFormat) (code : Nat) : ℚ :=
  format.significand code * 2 ^ format.exponent code

/-- The code counts the steps of the fraction up to the scale, and then the significand. -/
theorem scale_mul_add_significand (format : BinaryFormat) (code : Nat) :
    format.scale code * 2 ^ format.fractionBits + format.significand code = code := by
  have whole := Nat.div_add_mod' code (2 ^ format.fractionBits)
  simp only [scale, significand, Nat.pow_eq]
  split
  · next isZero => simp [isZero]
  · next nonZero =>
    obtain ⟨field, isField⟩ := Nat.exists_eq_succ_of_ne_zero nonZero
    rw [isField, Nat.succ_mul] at whole
    rw [isField, Nat.succ_sub_one]
    omega

/-- A significand has at most one bit more than the fraction. -/
theorem significand_lt (format : BinaryFormat) (code : Nat) :
    format.significand code < 2 ^ (format.fractionBits + 1) := by
  have inside := Nat.mod_lt code (Nat.two_pow_pos format.fractionBits)
  simp only [significand, Nat.pow_eq, Nat.pow_succ]
  split
  · next isZero =>
    have := (Nat.div_eq_zero_iff_lt (Nat.two_pow_pos _)).1 isZero
    omega
  · omega

/-- Above the least spacing a significand has its leading one. -/
theorem le_significand (scaled : format.scale code ≠ 0) :
    2 ^ format.fractionBits ≤ format.significand code := by
  simp only [scale, Nat.pow_eq] at scaled
  simp only [significand, Nat.pow_eq]
  split
  · next isZero => simp [isZero] at scaled
  · exact Nat.le_add_right _ _

/-- The value of a magnitude is the quotient of its fraction. -/
theorem fraction_eq_value_mul (format : BinaryFormat) (code : Nat) :
    ((format.fraction code).1 : ℚ) = format.value code * (format.fraction code).2 := by
  simp only [fraction, value, Nat.pow_eq, Nat.cast_mul, Nat.cast_pow, Nat.cast_ofNat, mul_assoc]
  congr 1
  rw [← zpow_natCast, ← zpow_natCast, ← zpow_add₀ two_ne_zero]
  congr 1
  omega

/-- The spacing at a fraction that is equal to a magnitude is the spacing at the magnitude. -/
theorem max_floorLog2 (hasNumerator : 0 < numerator) (hasDenominator : 0 < denominator)
    (exact : (numerator : ℚ) = format.value code * denominator) :
    max (floorLog2 numerator denominator - format.fractionBits) format.leastExponent =
      format.exponent code := by
  have positive : (0 : ℚ) < denominator := by exact_mod_cast hasDenominator
  have nonZero : 0 < format.significand code := by
    refine Nat.pos_of_ne_zero fun isZero => ?_
    simp [value, isZero, hasNumerator.ne'] at exact
  obtain ⟨low, high⟩ := log2_bounds nonZero
  have isLog : floorLog2 numerator denominator =
      (format.significand code).log2 + format.exponent code := by
    refine floorLog2_eq hasNumerator hasDenominator ?_ ?_
    · rw [exact, value, zpow_add₀ two_ne_zero]
      gcongr
    · rw [exact, value, add_right_comm, zpow_add₀ two_ne_zero]
      gcongr
  have atMost := (Nat.log2_lt nonZero.ne').2 (format.significand_lt code)
  by_cases scaled : format.scale code = 0
  · simp only [isLog, exponent, scaled]
    omega
  · have atLeast := (Nat.le_log2 nonZero.ne').2 (le_significand scaled)
    simp only [isLog, exponent]
    omega

/-- A fraction that is equal to a magnitude is nearest to it. -/
theorem nearestCode_of_value (hasNumerator : 0 < numerator) (hasDenominator : 0 < denominator)
    (bounded : code ≤ format.infinityCode)
    (exact : (numerator : ℚ) = format.value code * denominator) :
    format.nearestCode numerator denominator = code := by
  have units : (if 0 ≤ format.exponent code then
        roundHalfEven numerator (denominator * Nat.pow 2 (format.exponent code).toNat)
      else roundHalfEven (numerator * Nat.pow 2 (-format.exponent code).toNat) denominator) =
      format.significand code := by
    split
    · next up =>
      obtain ⟨steps, isSteps⟩ := Int.eq_ofNat_of_zero_le up
      rw [isSteps, Int.toNat_natCast, Nat.pow_eq]
      refine roundHalfEven_of_eq_mul (by positivity) ?_
      rw [value, isSteps, zpow_natCast, mul_assoc, mul_comm (2 ^ steps : ℚ)] at exact
      exact_mod_cast exact
    · next down =>
      obtain ⟨steps, isSteps⟩ : ∃ steps : ℕ, format.exponent code = -steps :=
        ⟨(-format.exponent code).toNat, by omega⟩
      rw [isSteps, neg_neg, Int.toNat_natCast, Nat.pow_eq]
      refine roundHalfEven_of_eq_mul hasDenominator ?_
      have scaled : (numerator : ℚ) * 2 ^ steps = format.significand code * denominator := by
        rw [exact, value, isSteps, zpow_neg, zpow_natCast]
        field_simp
      exact_mod_cast scaled
  simp only [nearestCode, hasNumerator.ne', ↓reduceIte,
    max_floorLog2 hasNumerator hasDenominator exact, units]
  simp only [exponent, add_sub_cancel_left, Int.toNat_natCast, Nat.pow_eq,
    scale_mul_add_significand, min_eq_left bounded]

/-- The code of a spacing and a significand that has its leading one. -/
theorem code_of_leading (spacing : Nat) {units : Nat} (atLeast : 2 ^ format.fractionBits ≤ units)
    (below : units < 2 ^ (format.fractionBits + 1)) :
    format.significand (spacing * 2 ^ format.fractionBits + units) = units ∧
      format.scale (spacing * 2 ^ format.fractionBits + units) = spacing := by
  obtain ⟨rest, rfl⟩ := Nat.exists_eq_add_of_le atLeast
  have small : rest < 2 ^ format.fractionBits := by
    rw [Nat.pow_succ] at below
    omega
  have split : spacing * 2 ^ format.fractionBits + (2 ^ format.fractionBits + rest) =
      rest + (spacing + 1) * 2 ^ format.fractionBits := by ring
  have field : (rest + (spacing + 1) * 2 ^ format.fractionBits) / 2 ^ format.fractionBits =
      spacing + 1 := by
    rw [Nat.add_mul_div_right _ _ (Nat.two_pow_pos _), Nat.div_eq_of_lt small, Nat.zero_add]
  have fraction : (rest + (spacing + 1) * 2 ^ format.fractionBits) % 2 ^ format.fractionBits =
      rest := by
    rw [Nat.add_mul_mod_self_right, Nat.mod_eq_of_lt small]
  simp only [significand, scale, Nat.pow_eq, split, field, fraction, Nat.succ_ne_zero, ↓reduceIte,
    Nat.add_sub_cancel, and_self]

/-- The significand of a number other than zero is positive. -/
theorem significand_pos (positive : 0 < code) : 0 < format.significand code := by
  have whole := scale_mul_add_significand format code
  by_cases scaled : format.scale code = 0
  · rw [scaled] at whole
    omega
  · exact (Nat.two_pow_pos _).trans_le (le_significand scaled)

/-- Every magnitude of the single width is one of the double width: its significand, shifted up
until it has the leading one of the wider format. -/
theorem exists_double_of_single (positive : 0 < code) (finite : code < single.infinityCode) :
    ∃ wider, 0 < wider ∧ wider < double.infinityCode ∧ double.value wider = single.value code := by
  have nonZero := single.significand_pos positive
  have fewScales : single.scale code ≤ 253 := by
    have : code / 2 ^ 23 < 255 := by
      rw [Nat.div_lt_iff_lt_mul (by norm_num)]
      exact finite
    change code / 2 ^ 23 - 1 ≤ 253
    omega
  have low : 2 ^ (single.significand code).log2 ≤ single.significand code :=
    Nat.log2_self_le nonZero.ne'
  have high : single.significand code < 2 ^ ((single.significand code).log2 + 1) :=
    Nat.lt_log2_self
  have few : (single.significand code).log2 < 24 :=
    (Nat.log2_lt nonZero.ne').2 (single.significand_lt code)
  generalize (single.significand code).log2 = bits at low high few
  obtain ⟨shift, isShift⟩ := Nat.exists_eq_add_of_lt few
  have atLeast : 2 ^ double.fractionBits ≤ single.significand code * 2 ^ (shift + 29) := by
    calc 2 ^ double.fractionBits = 2 ^ bits * 2 ^ (shift + 29) := by
          rw [← pow_add]
          congr 1
          change 52 = _
          omega
      _ ≤ _ := by gcongr
  have below : single.significand code * 2 ^ (shift + 29) < 2 ^ (double.fractionBits + 1) := by
    calc single.significand code * 2 ^ (shift + 29) < 2 ^ (bits + 1) * 2 ^ (shift + 29) := by
          gcongr
      _ = 2 ^ (double.fractionBits + 1) := by
          rw [← pow_add]
          congr 1
          change _ = 53
          omega
  obtain ⟨isSignificand, isScale⟩ :=
    code_of_leading (single.scale code + 925 - (shift + 29)) atLeast below
  have spacings : single.scale code + 925 - (shift + 29) + 2 ≤ 2 ^ double.exponentBits - 1 := by
    norm_num [double]
    omega
  refine ⟨(single.scale code + 925 - (shift + 29)) * 2 ^ double.fractionBits +
    single.significand code * 2 ^ (shift + 29),
    (Nat.two_pow_pos _).trans_le (atLeast.trans (Nat.le_add_left _ _)), ?_, ?_⟩
  · calc _ < (single.scale code + 925 - (shift + 29)) * 2 ^ double.fractionBits +
          2 ^ (double.fractionBits + 1) := by gcongr
      _ = (single.scale code + 925 - (shift + 29) + 2) * 2 ^ double.fractionBits := by ring
      _ ≤ _ := Nat.mul_le_mul_right _ spacings
  · simp only [value, exponent, isSignificand, isScale]
    rw [Nat.cast_mul, Nat.cast_pow, Nat.cast_ofNat, ← zpow_natCast, mul_assoc,
      ← zpow_add₀ two_ne_zero]
    congr 2
    change ((shift + 29 : ℕ) : ℤ) + (-1074 + _) = -149 + _
    omega

end BinaryFormat

namespace Binary

open BinaryFormat

variable {format target : BinaryFormat} {negative : Bool}
  {code : Fin (format.infinityCode + 1)} {other : Fin (target.infinityCode + 1)}
  {number : Binary format}

/-- A code within the format is kept. -/
theorem ofCode_val (negative : Bool) (code : Fin (format.infinityCode + 1)) :
    ofCode negative code.val = signed negative code := by
  simp [ofCode, Nat.min_eq_left (Nat.le_of_lt_succ code.isLt)]

/-- The infinities become those of the other format. -/
theorem convert_infinity (infinite : code.val = format.infinityCode) :
    (signed negative code : Binary format).convert = (infinity negative : Binary target) := by
  rw [convert, if_pos infinite]

/-- The zeros become those of the other format. -/
theorem convert_zero (finite : 0 < format.infinityCode) (isZero : code.val = 0) :
    (signed negative code : Binary format).convert = (ofCode negative 0 : Binary target) := by
  rw [convert, isZero, if_neg finite.ne]
  simp [ofFraction, nearestCode, fraction, significand]

/-- A finite number that the other format has becomes that number. -/
theorem convert_of_value (finite : code.val < format.infinityCode) (positive : 0 < code.val)
    (same : format.value code.val = target.value other.val) :
    (signed negative code : Binary format).convert = (signed negative other : Binary target) := by
  rw [convert, if_neg finite.ne, ← ofCode_val negative other]
  refine congrArg (ofCode negative) (nearestCode_of_value ?_ ?_ (Nat.le_of_lt_succ other.isLt) ?_)
  · exact Nat.mul_pos (significand_pos positive) (Nat.two_pow_pos _)
  · exact Nat.two_pow_pos _
  · rw [← same]
    exact fraction_eq_value_mul format code.val

/-- A number of the single width is not changed by being shown at the double width. -/
theorem convert_convert (number : Single) : (number.convert : Double).convert = number := by
  cases number with
  | nan => rfl
  | signed negative code =>
    rcases Nat.eq_zero_or_pos code.val with isZero | positive
    · rw [convert_zero (by decide) isZero, ofCode, convert_zero (by decide) (by simp),
        ← ofCode_val negative code, isZero]
    · rcases (Nat.le_of_lt_succ code.isLt).eq_or_lt with infinite | finite
      · rw [convert_infinity infinite, infinity, ofCode, convert_infinity (by simp),
          ← ofCode_val negative code, infinite, infinity]
      · obtain ⟨wider, positive', finite', same⟩ := exists_double_of_single positive finite
        have widened : (signed negative code : Single).convert =
            (signed negative ⟨wider, Nat.lt_succ_of_lt finite'⟩ : Double) :=
          convert_of_value finite positive same.symm
        rw [widened]
        exact convert_of_value finite' positive' same

/-- Infinity is shown as infinity. -/
theorem isFinite_convert (infinite : number.isInfinite = true) :
    (number.convert : Binary target).isFinite = false := by
  cases number with
  | nan => cases infinite
  | signed negative code =>
    rw [convert_infinity (by simpa [isInfinite] using infinite), infinity, ofCode, isFinite]
    simp

end Binary

end PropertyGraph
