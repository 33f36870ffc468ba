import PropertyGraph.Number.Shortest
import PropertyGraph.Value.Basic

/-!
# Values as text and values compared

The text of a value in messages and conversions: scalars as they are written, collections between
brackets and braces with commas, a bean as the name of its type, and an optional as its content.
`Value.same` is equality as a program sees it, in which the two zeros are equal and the float that
is not a number differs from itself.
-/
namespace PropertyGraph.Value

/-- An opening brace. -/
def openBrace : String := "\x7b"

/-- A closing brace. -/
def closeBrace : String := "\x7d"

mutual

/-- The text of a value. -/
def toText : Value → String
  | null | optNone => "null"
  | bool flag => if flag then "true" else "false"
  | int number => toString number
  | float number => number.text
  | char character => character.toString
  | text content => content
  | enum _ variant => variant
  | list items => "[" ++ ", ".intercalate (itemTexts items) ++ "]"
  | map entries => openBrace ++ ", ".intercalate (entryTexts entries) ++ closeBrace
  | optSome content => content.toText
  | bean ref => "<" ++ ref.type.ident ++ ">"

/-- The texts of values. -/
def itemTexts : List Value → List String
  | [] => []
  | item :: rest => item.toText :: itemTexts rest

/-- The texts of entries, each key before its value. -/
def entryTexts : List (String × Value) → List String
  | [] => []
  | (key, item) :: rest => (key ++ ": " ++ item.toText) :: entryTexts rest

end

mutual

/-- Equality of values, with floats compared as numbers. -/
def same : Value → Value → Bool
  | null, null => true
  | bool flag, bool flag' => flag == flag'
  | int number, int number' => number == number'
  | float number, float number' => number.sameNumber number'
  | char character, char character' => character == character'
  | text content, text content' => content == content'
  | enum type variant, enum type' variant' => type == type' && variant == variant'
  | list items, list items' => sameItems items items'
  | map entries, map entries' => sameEntries entries entries'
  | optNone, optNone => true
  | optSome content, optSome content' => same content content'
  | bean ref, bean ref' => ref == ref'
  | _, _ => false

/-- Equality of lists of values. -/
def sameItems : List Value → List Value → Bool
  | [], [] => true
  | item :: rest, item' :: rest' => same item item' && sameItems rest rest'
  | _, _ => false

/-- Equality of entries, keys included. -/
def sameEntries : List (String × Value) → List (String × Value) → Bool
  | [], [] => true
  | (key, item) :: rest, (key', item') :: rest' =>
    key == key' && same item item' && sameEntries rest rest'
  | _, _ => false

end

end PropertyGraph.Value
