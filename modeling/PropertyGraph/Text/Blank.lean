/-!
# Blank characters

The characters that count as white space, and what is left of a text without them at its ends.
`trim` removes every leading and trailing blank and nothing between; `parts` cuts a text at a
separator, so that the parts joined by it give the text again.
-/
namespace PropertyGraph.Text

/-- The characters with the Unicode property White_Space. -/
def isBlank (char : Char) : Bool :=
  let point := char.toNat
  (0x09 ≤ point && point ≤ 0x0D) || point == 0x20 || point == 0x85 || point == 0xA0 ||
    point == 0x1680 || (0x2000 ≤ point && point ≤ 0x200A) || point == 0x2028 ||
    point == 0x2029 || point == 0x202F || point == 0x205F || point == 0x3000

/-- The characters without the blanks at both ends. -/
def trimChars (chars : List Char) : List Char :=
  ((chars.dropWhile isBlank).reverse.dropWhile isBlank).reverse

/-- The text without the blanks at both ends. -/
def trim (text : String) : String :=
  String.ofList (trimChars text.toList)

/-- The pieces between the separators of a character list; there is one more piece than there are
separators. -/
def pieces (separator : Char) : List Char → List (List Char)
  | [] => [[]]
  | char :: rest =>
    if char = separator then
      [] :: pieces separator rest
    else
      match pieces separator rest with
      | [] => [[char]]
      | piece :: others => (char :: piece) :: others

/-- The parts of a text between its separators, in order. -/
def parts (separator : Char) (text : String) : List String :=
  (pieces separator text.toList).map String.ofList

end PropertyGraph.Text
