import PropertyGraph.Convert.Converter
import PropertyGraph.Number.DecimalReader
import PropertyGraph.Number.Numeral
import PropertyGraph.Text.Blank

/-!
# Coercions

The coercions of the standard converter, and the makings of others. Texts are read as truth values,
numbers, characters, variants and lists; integers and floats become each other where nothing is
lost to the integer; every scalar has a text; and a single value becomes a list of one.
-/
namespace PropertyGraph

namespace Coercion

/-! ## From text -/

/-- The texts that stand for a truth value, in lower case. -/
def boolNames : List (String × Bool) :=
  [("true", true), ("yes", true), ("on", true), ("1", true),
   ("false", false), ("no", false), ("off", false), ("0", false)]

/-- Reads a truth value in any case, blanks around it aside. -/
def textToBool (text : String) : Except CoercionError Value :=
  let trimmed := Text.trim text
  match boolNames.lookup (String.ofList (trimmed.toList.map Char.toLower)) with
  | some flag => .ok (.bool flag)
  | none => .error (.invalidBool trimmed)

/-- Splits the mark of a hexadecimal number from the front of digits, giving the radix. -/
def takeRadix : List Char → Nat × List Char
  | '0' :: 'x' :: digits => (16, digits)
  | '0' :: 'X' :: digits => (16, digits)
  | '#' :: digits => (16, digits)
  | digits => (10, digits)

/-- Reads an integer: an optional sign, an optional mark of hexadecimal digits, and digits whose
number is below 2⁶⁴. -/
def readInt (chars : List Char) : Except Numeral.Fault Int :=
  let (negative, unsigned) := Decimal.takeSign chars
  let (radix, digits) := takeRadix unsigned
  (Numeral.readDigits radix (Nat.pow 2 64) digits).map fun magnitude =>
    if negative then -(magnitude : Int) else magnitude

/-- The width that a target demands of an integer. -/
def widthOf : DeclaredType → IntWidth
  | .int width => width
  | _ => .i64

/-- The integer, if it fits the target. -/
def fitInt (written : String) (target : DeclaredType) (number : Int) :
    Except CoercionError Value :=
  match target with
  | .int width =>
    if width.contains number then .ok (.int number) else .error (.outOfRange written width)
  | _ => .ok (.int number)

/-- Reads an integer that fits the target, blanks around it aside. -/
def textToInt (text : String) (target : DeclaredType) : Except CoercionError Value :=
  let trimmed := Text.trim text
  match readInt trimmed.toList with
  | .error .malformed => .error (.invalidNumber trimmed)
  | .error .tooLarge => .error (.outOfRange trimmed (widthOf target))
  | .ok number => fitInt trimmed target number

/-- Reads a float, blanks around it aside. -/
def textToFloat (text : String) : Except CoercionError Value :=
  let trimmed := Text.trim text
  match Binary.read? trimmed with
  | some number => .ok (.float number)
  | none => .error (.invalidNumber trimmed)

/-- The character of a code point, unless that is a surrogate or too large. -/
def charOfPoint? (point : Nat) : Option Char :=
  if valid : point.isValidChar then some (Char.ofNatAux point valid) else none

/-- The character that an escape stands for: a backslash, a `u` and four bytes of a hexadecimal
numeral. -/
def escapedChar? : List Char → Option Char
  | '\\' :: 'u' :: digits =>
    if digits.foldr (fun char size => char.utf8Size + size) 0 = 4 then
      (Numeral.read 16 (Nat.pow 2 32) digits).toOption.bind charOfPoint?
    else
      none
  | _ => none

/-- Reads a single character, or an escape that stands for one. -/
def textToChar (text : String) : Except CoercionError Value :=
  match text.toList with
  | [char] => .ok (.char char)
  | chars =>
    match escapedChar? chars with
    | some char => .ok (.char char)
    | none => .error (.invalidChar text)

/-- Reads a variant of the target by its name, blanks around it aside. -/
def textToEnum (text : String) (target : DeclaredType) : Except CoercionError Value :=
  let trimmed := Text.trim text
  match target with
  | .enum info =>
    if info.variants.contains trimmed then .ok (.enum info.type trimmed)
    else .error (.unknownVariant trimmed info.type)
  | target => .error (.unsupported .text target)

/-- Converts a value at a type, or keeps it if it conforms. -/
def askOrKeep (ask : Ask) (raw : Value) (target : DeclaredType) : Except CoercionError Value :=
  (ask raw target).map (·.getD raw)

/-- Reads a list of parts between commas, blanks around each aside. A blank text is the empty
list. -/
def textToList (text : String) (target : DeclaredType) (ask : Ask) : Except CoercionError Value :=
  if (Text.trim text).isEmpty then .ok (.list [])
  else
    ((Text.parts ',' text).mapM fun part =>
      askOrKeep ask (.text (Text.trim part)) target.element).map .list

/-! ## Between numbers -/

/-- The float nearest to an integer. -/
def intToFloat (number : Int) : Except CoercionError Value :=
  .ok (.float (Binary.ofInt number))

/-- The integer that a float is equal to, if it fits the target. The float has to be less than 2⁶⁴
and no less than -2⁶³ in any case. -/
def floatToInt (number : Double) (target : DeclaredType) : Except CoercionError Value :=
  match number.toInt? with
  | none => .error (.invalidNumber number.text)
  | some value =>
    if value < -Int.pow 2 63 ∨ Int.pow 2 64 ≤ value then
      .error (.outOfRange number.text (widthOf target))
    else fitInt (toString value) target value

/-! ## From any value -/

/-- The text of a value. -/
def toText (raw : Value) : Except CoercionError Value :=
  .ok (.text raw.toText)

/-- The list of the converted value alone. -/
def toSingleton (raw : Value) (target : DeclaredType) (ask : Ask) : Except CoercionError Value :=
  (askOrKeep ask raw target.element).map fun item => .list [item]

/-! ## Makings of further coercions -/

/-- A coercion from texts. -/
def ofText (read : String → DeclaredType → Ask → Except CoercionError Value) : Coercion :=
  fun raw target ask => read (raw.text?.getD "") target ask

/-- Gives the same value every time. -/
def constant (value : Value) : Coercion :=
  fun _ _ _ => .ok value

/-- Refuses with a text. -/
def failing (text : String) : Coercion :=
  fun _ _ _ => .error (.custom text)

/-- Gives the number of characters of the text of the raw value. -/
def textLength : Coercion :=
  fun raw _ _ => .ok (.int raw.toText.length)

/-- Converts at another type first and from there at the target. -/
def via (middle : DeclaredType) : Coercion :=
  fun raw target ask => (askOrKeep ask raw middle).bind fun value => askOrKeep ask value target

end Coercion

namespace Converter

/-- The coercions of the standard converter from texts, by the kind that they lead to. -/
def textCoercions : List (ValueKind × Coercion) :=
  [(.bool, .ofText fun text _ _ => Coercion.textToBool text),
   (.int, .ofText fun text target _ => Coercion.textToInt text target),
   (.float, .ofText fun text _ _ => Coercion.textToFloat text),
   (.char, .ofText fun text _ _ => Coercion.textToChar text),
   (.enum, .ofText fun text target _ => Coercion.textToEnum text target),
   (.list, .ofText Coercion.textToList)]

/-- The kinds of values that have a text of their own. -/
def scalarKinds : List ValueKind := [.bool, .int, .float, .char, .enum]

/-- From an integer to a float. -/
def intFloatCoercion : Coercion
  | .int number, _, _ => Coercion.intToFloat number
  | raw, _, _ => .error (.unsupported raw.kind .float)

/-- From a float to an integer. -/
def floatIntCoercion : Coercion
  | .float number, target, _ => Coercion.floatToInt number target
  | raw, target, _ => .error (.unsupported raw.kind target)

/-- The text of a scalar. -/
def textCoercion : Coercion := fun raw _ _ => Coercion.toText raw

/-- The converter with the standard coercions. -/
def standard : Converter where
  coercions :=
    textCoercions.map (fun (kind, coercion) => ((.text, .kind kind), coercion)) ++
    [((.int, .kind .float), intFloatCoercion), ((.float, .kind .int), floatIntCoercion)] ++
    scalarKinds.map (fun kind => ((kind, .kind .text), textCoercion)) ++
    (scalarKinds ++ [ValueKind.bean]).map (fun kind => ((kind, .kind .list), Coercion.toSingleton))

end Converter

end PropertyGraph
