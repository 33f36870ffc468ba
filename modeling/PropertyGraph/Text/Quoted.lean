import PropertyGraph.Text.Visible

/-!
# Quoted texts

A text between double quotes in which every character can be seen. A quote and a backslash take a
backslash before them, the usual controls have a letter, and a character that has no shape of its
own is written as its code point in hexadecimal digits between braces.
-/
namespace PropertyGraph.Text

/-- A character written as its code point. -/
def codePointEscape (char : Char) : List Char :=
  ['\\', 'u', '\x7b'] ++ Nat.toDigits 16 char.toNat ++ ['\x7d']

/-- The form of a character between double quotes. -/
def quotedChar (char : Char) : List Char :=
  if char = '\x00' then ['\\', '0']
  else if char = '\t' then ['\\', 't']
  else if char = '\r' then ['\\', 'r']
  else if char = '\n' then ['\\', 'n']
  else if char = '\\' || char = '"' then ['\\', char]
  else if isMark char || !isPrintable char then codePointEscape char
  else [char]

/-- The text between double quotes. -/
def quoted (text : String) : String :=
  String.ofList ('"' :: text.toList.flatMap quotedChar ++ ['"'])

end PropertyGraph.Text
