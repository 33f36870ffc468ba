import PropertyGraph.Number.Numeral

/-!
# Binary floating-point numbers

Numbers with a sign, a fixed number of fraction bits and a bounded exponent. The magnitudes of a
format are numbered from zero upwards in order of size: zero has code zero, the last code is
infinity, and the code of a magnitude is the number that its exponent and fraction fields make
together. Two numbers are equal when their bits are, except that there is a single value that is
not a number.
-/
namespace PropertyGraph

/-- The sizes of the two fields of a magnitude. -/
structure BinaryFormat where
  /-- Bits of the fraction. -/
  fractionBits : Nat
  /-- Bits of the exponent. -/
  exponentBits : Nat
deriving DecidableEq, Repr

namespace BinaryFormat

/-- The format of thirty-two bits. -/
def single : BinaryFormat := ⟨23, 8⟩

/-- The format of sixty-four bits. -/
def double : BinaryFormat := ⟨52, 11⟩

/-- The code of infinity: an exponent field of ones and an empty fraction. -/
def infinityCode (format : BinaryFormat) : Nat :=
  (Nat.pow 2 format.exponentBits - 1) * Nat.pow 2 format.fractionBits

/-- The exponent of two of the least positive magnitude. -/
def leastExponent (format : BinaryFormat) : Int :=
  2 - Int.pow 2 (format.exponentBits - 1) - format.fractionBits

/-- The significand of a magnitude: its fraction, after a leading one unless the exponent field
is empty. -/
def significand (format : BinaryFormat) (code : Nat) : Nat :=
  if code / Nat.pow 2 format.fractionBits = 0 then code
  else Nat.pow 2 format.fractionBits + code % Nat.pow 2 format.fractionBits

/-- How far the spacing of the magnitudes at a code exceeds the least spacing, as an exponent of
two. -/
def scale (format : BinaryFormat) (code : Nat) : Nat :=
  code / Nat.pow 2 format.fractionBits - 1

/-- The exponent of two that the significand of a magnitude is multiplied with. -/
def exponent (format : BinaryFormat) (code : Nat) : Int :=
  format.leastExponent + format.scale code

end BinaryFormat

/-- A number of a binary format. -/
inductive Binary (format : BinaryFormat) where
  /-- The value that is not a number. -/
  | nan
  /-- A signed magnitude, infinity included. -/
  | signed (negative : Bool) (code : Fin (format.infinityCode + 1))
deriving DecidableEq

/-- Numbers of thirty-two bits. -/
abbrev Single := Binary .single

/-- Numbers of sixty-four bits. -/
abbrev Double := Binary .double

namespace Binary

variable {format : BinaryFormat}

/-- The magnitude of a code, or infinity if there is no such code. -/
def ofCode (negative : Bool) (code : Nat) : Binary format :=
  .signed negative ⟨min code format.infinityCode, by omega⟩

/-- Positive zero. -/
def zero : Binary format := .ofCode false 0

/-- Infinity with a sign. -/
def infinity (negative : Bool) : Binary format := .ofCode negative format.infinityCode

/-- Every format has a zero. -/
instance : Inhabited (Binary format) := ⟨zero⟩

/-- The number is neither infinite nor the one that is not a number. -/
def isFinite : Binary format → Bool
  | .nan => false
  | .signed _ code => code.val != format.infinityCode

/-- The number is infinite. -/
def isInfinite : Binary format → Bool
  | .nan => false
  | .signed _ code => code.val == format.infinityCode

/-- Equality of numbers: the two zeros are equal, and the value that is not a number differs from
itself. -/
def sameNumber : Binary format → Binary format → Bool
  | .signed negative code, .signed negative' code' =>
    (negative == negative' && code == code') || (code.val == 0 && code'.val == 0)
  | _, _ => false

/-- The number of a bit pattern. The patterns above infinity are not numbers. -/
def ofBits (bits : Nat) : Binary format :=
  let signWeight := Nat.pow 2 (format.exponentBits + format.fractionBits)
  if bits % signWeight ≤ format.infinityCode then
    ofCode (bits / signWeight % 2 == 1) (bits % signWeight)
  else
    nan

/-- The bit pattern of a number. -/
def toBits? : Binary format → Option Nat
  | .nan => none
  | .signed negative code =>
    let signWeight := Nat.pow 2 (format.exponentBits + format.fractionBits)
    some ((if negative then signWeight else 0) + code.val)

/-- Number of hexadecimal digits of a bit pattern. -/
def hexWidth (format : BinaryFormat) : Nat :=
  (1 + format.exponentBits + format.fractionBits) / 4

/-- The bit pattern in hexadecimal digits; `nan` for the value that is not a number. -/
def hex (number : Binary format) : String :=
  match number.toBits? with
  | none => "nan"
  | some bits =>
    let digits := Nat.toDigits 16 bits
    String.ofList (List.replicate (hexWidth format - digits.length) '0' ++ digits)

/-- The number of a bit pattern in hexadecimal digits. -/
def ofHex? (digits : String) : Option (Binary format) :=
  if digits = "nan" then some nan
  else (Numeral.readDigits 16 (Nat.pow 16 (hexWidth format)) digits.toList).toOption.map ofBits

end Binary

end PropertyGraph
