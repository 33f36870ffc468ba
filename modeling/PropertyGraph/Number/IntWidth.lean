/-!
# Integer widths

The ten widths in which an integer property can be declared. Integers themselves are unbounded; a
width is the interval of those that it can hold. The pointer-sized widths have sixty-four bits.
-/
namespace PropertyGraph

/-- The declared width of an integer property. -/
inductive IntWidth where
  | i8 | i16 | i32 | i64 | isize
  | u8 | u16 | u32 | u64 | usize
deriving DecidableEq, Repr

namespace IntWidth

/-- Every width. -/
def all : List IntWidth := [i8, i16, i32, i64, isize, u8, u16, u32, u64, usize]

/-- Number of bits. -/
def bits : IntWidth → Nat
  | i8 | u8 => 8
  | i16 | u16 => 16
  | i32 | u32 => 32
  | i64 | u64 | isize | usize => 64

/-- The width holds negative numbers. -/
def isSigned : IntWidth → Bool
  | i8 | i16 | i32 | i64 | isize => true
  | u8 | u16 | u32 | u64 | usize => false

/-- The least number of the width. -/
def least (width : IntWidth) : Int :=
  if width.isSigned then -Int.pow 2 (width.bits - 1) else 0

/-- The greatest number of the width. -/
def greatest (width : IntWidth) : Int :=
  if width.isSigned then Int.pow 2 (width.bits - 1) - 1 else Int.pow 2 width.bits - 1

/-- The number lies between the least and the greatest of the width. -/
def contains (width : IntWidth) (value : Int) : Bool :=
  width.least ≤ value && value ≤ width.greatest

/-- The name of the width. -/
def name : IntWidth → String
  | i8 => "i8"
  | i16 => "i16"
  | i32 => "i32"
  | i64 => "i64"
  | isize => "isize"
  | u8 => "u8"
  | u16 => "u16"
  | u32 => "u32"
  | u64 => "u64"
  | usize => "usize"

/-- The name of the width with a capital letter in front. -/
def label (width : IntWidth) : String :=
  match width.name.toList with
  | [] => ""
  | first :: rest => String.ofList (first.toUpper :: rest)

/-- The width of a name. -/
def ofName? (name : String) : Option IntWidth :=
  all.find? (·.name == name)

/-- Zero fits every width. -/
theorem contains_zero (width : IntWidth) : width.contains 0 = true := by
  cases width <;> decide

end IntWidth

end PropertyGraph
