import PropertyGraph.Number.Shortest

/-!
# Reading decimals

The binary number that a decimal text denotes: an optional sign, digits with an optional point
among, before or behind them, and an optional exponent of ten. There has to be a digit beside the
point. The names of infinity and of the value that is not a number are read in any case. The
result is the number nearest to the decimal.
-/
namespace PropertyGraph

namespace Decimal

/-- The digits at the front of a text, and what follows them. -/
def takeDigits (chars : List Char) : List Char × List Char :=
  (chars.takeWhile Char.isDigit, chars.dropWhile Char.isDigit)

/-- The number that a list of decimal digits denotes. -/
def digitsValue (digits : List Char) : Nat :=
  digits.foldl (fun value digit => value * 10 + (digit.toNat - '0'.toNat)) 0

/-- Splits a sign from the front of a text; a minus sign gives `true`. -/
def takeSign : List Char → Bool × List Char
  | '-' :: rest => (true, rest)
  | '+' :: rest => (false, rest)
  | chars => (false, chars)

/-- Reads what follows the digits: nothing, or an exponent with at least one digit. -/
def readExponent? : List Char → Option Int
  | [] => some 0
  | mark :: rest =>
    let (negative, chars) := takeSign rest
    let (digits, others) := takeDigits chars
    if (mark == 'e' || mark == 'E') && !digits.isEmpty && others.isEmpty then
      some (if negative then -(digitsValue digits : Int) else digitsValue digits)
    else
      none

/-- Reads an unsigned decimal to the end of the text. -/
def read? (chars : List Char) : Option Decimal :=
  let (whole, afterWhole) := takeDigits chars
  let (fraction, rest) :=
    match afterWhole with
    | '.' :: afterPoint => takeDigits afterPoint
    | _ => ([], afterWhole)
  if whole.isEmpty && fraction.isEmpty then none
  else (readExponent? rest).map fun exponent =>
    ⟨digitsValue (whole ++ fraction), exponent - fraction.length⟩

end Decimal

namespace Binary

variable {format : BinaryFormat}

/-- The number nearest to a signed decimal. Since a power of ten is at least that of two, decimals
far beyond the exponents of the format are infinite or zero without being computed. -/
def ofDecimal (negative : Bool) (decimal : Decimal) : Binary format :=
  let power : Int := decimal.exponent + (Nat.toDigits 10 decimal.digits).length
  if decimal.digits = 0 ∨ power < format.leastExponent then .ofCode negative 0
  else if Int.pow 2 (format.exponentBits - 1) < power then .infinity negative
  else .ofFraction negative (decimal.digits * Nat.pow 10 decimal.exponent.toNat)
    (Nat.pow 10 (-decimal.exponent).toNat)

/-- Reads the text of a number. -/
def read? (text : String) : Option (Binary format) :=
  let (negative, chars) := Decimal.takeSign text.toList
  let name := String.ofList (chars.map Char.toLower)
  if name == "inf" || name == "infinity" then some (.infinity negative)
  else if name == "nan" then some .nan
  else (Decimal.read? chars).map (.ofDecimal negative)

end Binary

end PropertyGraph
