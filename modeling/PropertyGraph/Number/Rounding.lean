import PropertyGraph.Number.Binary

/-!
# Rounding to a binary format

The magnitude of a format that lies nearest to a positive fraction. Of two that are equally near
the one with the even significand is taken, and what lies beyond the largest magnitude by half a
step or more is infinite. Every conversion into a format goes through `nearestCode`: that of
integers, of decimals and of numbers of another format.
-/
namespace PropertyGraph

/-- The integer nearest to a fraction; a half goes to the even neighbour. -/
def roundHalfEven (numerator denominator : Nat) : Nat :=
  let quotient := numerator / denominator
  let remainder := numerator % denominator
  if 2 * remainder < denominator then quotient
  else if denominator < 2 * remainder then quotient + 1
  else quotient + quotient % 2

/-- The greatest exponent of two whose power is at most the positive fraction. -/
def floorLog2 (numerator denominator : Nat) : Int :=
  let guess : Int := (numerator.log2 : Int) - denominator.log2
  let fits :=
    if 0 ≤ guess then denominator * Nat.pow 2 guess.toNat ≤ numerator
    else denominator ≤ numerator * Nat.pow 2 (-guess).toNat
  if fits then guess else guess - 1

namespace BinaryFormat

/-- The code of the magnitude nearest to a fraction. -/
def nearestCode (format : BinaryFormat) (numerator denominator : Nat) : Nat :=
  if numerator = 0 then 0
  else
    let spacing := max (floorLog2 numerator denominator - format.fractionBits) format.leastExponent
    let units :=
      if 0 ≤ spacing then roundHalfEven numerator (denominator * Nat.pow 2 spacing.toNat)
      else roundHalfEven (numerator * Nat.pow 2 (-spacing).toNat) denominator
    min ((spacing - format.leastExponent).toNat * Nat.pow 2 format.fractionBits + units)
      format.infinityCode

/-- The exact value of a magnitude as a fraction of natural numbers. -/
def fraction (format : BinaryFormat) (code : Nat) : Nat × Nat :=
  let exponent := format.exponent code
  (format.significand code * Nat.pow 2 exponent.toNat, Nat.pow 2 (-exponent).toNat)

end BinaryFormat

namespace Binary

variable {format target : BinaryFormat}

/-- The number nearest to a signed fraction. -/
def ofFraction (negative : Bool) (numerator denominator : Nat) : Binary format :=
  .ofCode negative (format.nearestCode numerator denominator)

/-- The number nearest to an integer. -/
def ofInt (value : Int) : Binary format :=
  .ofFraction (value < 0) value.natAbs 1

/-- The number of another format that is nearest to the given one. Infinities stay infinite. -/
def convert : Binary format → Binary target
  | .nan => .nan
  | .signed negative code =>
    if code.val = format.infinityCode then .infinity negative
    else
      let (numerator, denominator) := format.fraction code.val
      .ofFraction negative numerator denominator

/-- The integer that a finite number is equal to, if it is one. -/
def toInt? : Binary format → Option Int
  | .nan => none
  | .signed negative code =>
    let (numerator, denominator) := format.fraction code.val
    if code.val = format.infinityCode ∨ numerator % denominator ≠ 0 then none
    else
      let magnitude : Int := (numerator / denominator : Nat)
      some (if negative then -magnitude else magnitude)

end Binary

end PropertyGraph
