import PropertyGraph.Number.Rounding

/-!
# Shortest decimals

The decimal text of a binary number: of the decimals that round to the number those with the
fewest digits, of these the nearest, and of two that are equally near the larger. The search goes
through the powers of ten from the largest that the number reaches; on each grid only the two
neighbours of the number can be the nearest, and a decimal with fewer digits lies on an earlier
grid. The text is positional and has no exponent.
-/
namespace PropertyGraph

/-- A decimal number: an integer times a power of ten. -/
structure Decimal where
  /-- The integer. -/
  digits : Nat
  /-- The exponent of ten. -/
  exponent : Int
deriving DecidableEq, Repr

namespace Decimal

/-- The list without the zeros at its end. -/
def dropTrailingZeros (chars : List Char) : List Char :=
  (chars.reverse.dropWhile (· == '0')).reverse

/-- The decimal in positional notation, without zeros at the end of its fraction. -/
def positional (decimal : Decimal) : List Char :=
  let digits := Nat.toDigits 10 decimal.digits
  if 0 ≤ decimal.exponent then
    digits ++ List.replicate decimal.exponent.toNat '0'
  else
    let places := (-decimal.exponent).toNat
    let padded := List.replicate (places + 1 - digits.length) '0' ++ digits
    let fraction := dropTrailingZeros (padded.drop (padded.length - places))
    let whole := padded.take (padded.length - places)
    if fraction.isEmpty then whole else whole ++ '.' :: fraction

end Decimal

namespace BinaryFormat

/-- Distance to the lower end of the interval that rounds to a magnitude, in quarters of its
spacing: half as much below a power of two, where the spacing halves. -/
def quartersBelow (format : BinaryFormat) (code : Nat) : Nat :=
  if code % Nat.pow 2 format.fractionBits = 0 ∧ 0 < format.scale code then 1 else 2

/-- The multiple of a power of ten that is nearest to a magnitude, if it rounds to it and the
magnitude reaches the power. Both ends of the interval round to an even significand. -/
def nearestMultiple? (format : BinaryFormat) (code : Nat) (power : Int) : Option Nat :=
  let quarter := format.exponent code - 2
  let unit := Nat.pow 2 quarter.toNat * Nat.pow 10 (-power).toNat
  let step := Nat.pow 10 power.toNat * Nat.pow 2 (-quarter).toNat
  let significand := format.significand code
  let value := 4 * significand * unit
  let low := (4 * significand - format.quartersBelow code) * unit
  let high := (4 * significand + 2) * unit
  let inside (multiple : Nat) : Bool :=
    if significand % 2 = 0 then low ≤ multiple * step && multiple * step ≤ high
    else low < multiple * step && multiple * step < high
  let below := value / step
  if below = 0 then none
  else
    match inside below, inside (below + 1) with
    | false, false => none
    | true, false => some below
    | false, true => some (below + 1)
    | true, true =>
      if value - below * step < (below + 1) * step - value then some below else some (below + 1)

/-- Searches the grids of the given power of ten and of the powers below it. -/
def searchShortest (format : BinaryFormat) (code : Nat) : Nat → Int → Decimal
  | 0, power => ⟨0, power⟩
  | grids + 1, power =>
    match format.nearestMultiple? code power with
    | some multiple => ⟨multiple, power⟩
    | none => searchShortest format code grids (power - 1)

/-- A power of ten above every positive magnitude that has the code. The factor is a little more
than the decimal logarithm of two. -/
def powerAbove (format : BinaryFormat) (code : Nat) : Int :=
  let exponent : Int := format.exponent code + (format.significand code).log2 + 1
  exponent * 30103 / 100000 + 1

/-- The shortest decimal that rounds to a positive magnitude. -/
def shortest (format : BinaryFormat) (code : Nat) : Decimal :=
  format.searchShortest code (format.fractionBits + 4) (format.powerAbove code)

end BinaryFormat

namespace Binary

variable {format : BinaryFormat}

/-- The text of a magnitude. -/
def magnitudeText (format : BinaryFormat) (code : Nat) : List Char :=
  if code = format.infinityCode then ['i', 'n', 'f']
  else if code = 0 then ['0']
  else (format.shortest code).positional

/-- The text of a number. Zero keeps its sign; the value that is not a number has none. -/
def text : Binary format → String
  | .nan => "NaN"
  | .signed negative code =>
    let magnitude := magnitudeText format code.val
    String.ofList (if negative then '-' :: magnitude else magnitude)

end Binary

end PropertyGraph
