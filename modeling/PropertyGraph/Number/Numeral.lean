/-!
# Numerals

Natural numbers written in a radix of at most thirty-six. Reading goes from the left and stops at
the first fault, so of a character that is no digit and a number that is too large the earlier one
is reported.
-/
namespace PropertyGraph.Numeral

/-- Why a numeral denotes no number below the limit. -/
inductive Fault where
  /-- A character is no digit of the radix, or there is no digit at all. -/
  | malformed
  /-- The digits read so far denote a number that reaches the limit. -/
  | tooLarge
deriving DecidableEq, Repr

/-- The number that a character denotes as a digit of some radix. -/
def digitValue? (char : Char) : Option Nat :=
  if '0' ≤ char ∧ char ≤ '9' then some (char.toNat - '0'.toNat)
  else if 'a' ≤ char ∧ char ≤ 'z' then some (char.toNat - 'a'.toNat + 10)
  else if 'A' ≤ char ∧ char ≤ 'Z' then some (char.toNat - 'A'.toNat + 10)
  else none

/-- The value of a digit of the radix. -/
def digit? (radix : Nat) (char : Char) : Option Nat :=
  (digitValue? char).filter (· < radix)

/-- Appends digits to the number read so far, which has to stay below the limit. -/
def extend (radix limit : Nat) : Nat → List Char → Except Fault Nat
  | value, [] => .ok value
  | value, char :: rest =>
    match digit? radix char with
    | none => .error .malformed
    | some digit =>
      if value * radix + digit < limit then
        extend radix limit (value * radix + digit) rest
      else
        .error .tooLarge

/-- Reads one or more digits of the radix as a number below the limit. -/
def readDigits (radix limit : Nat) (chars : List Char) : Except Fault Nat :=
  if chars.isEmpty then .error .malformed else extend radix limit 0 chars

/-- Reads a number below the limit: an optional plus sign, then one or more digits. -/
def read (radix limit : Nat) : List Char → Except Fault Nat
  | '+' :: digits => readDigits radix limit digits
  | digits => readDigits radix limit digits

end PropertyGraph.Numeral
