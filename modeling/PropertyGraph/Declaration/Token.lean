import PropertyGraph.Text.Blank
import PropertyGraph.Text.Quoted
import PropertyGraph.Text.Word

/-!
# Tokens of source code

Source code is a row of tokens: words, literals, brackets and marks. Every mark stands for itself,
so that an arrow is two marks, and the apostrophe of a lifetime is a mark before a word. Blanks and
comments separate tokens and are none themselves, but a comment that documents what follows is an
attribute. A scan looks at the front of the characters that are left, finds what it makes up and
how far that goes, and carries on behind it.
-/
namespace PropertyGraph

/-- A token of source code. -/
inductive Token where
  /-- An identifier or a keyword. -/
  | word (text : String)
  /-- A number, a character or a string. -/
  | literal (text : String)
  /-- A punctuation character. -/
  | mark (char : Char)
  /-- An opening or closing bracket. -/
  | bracket (char : Char)
deriving DecidableEq, Repr, Inhabited

/-- A row of tokens. -/
abbrev Code := List Token

namespace Token

/-- The token as it is written. -/
def text : Token → String
  | word text | literal text => text
  | mark char | bracket char => char.toString

/-- The token is a punctuation character. -/
def isMark (char : Char) (token : Token) : Bool :=
  token == .mark char

/-- A row of tokens as it is written, with a space between neighbours. -/
def render (code : Code) : String :=
  " ".intercalate (code.map text)

/-! ## Fronts of a text -/

/-- What the front of a text makes up. -/
inductive Lexeme where
  /-- A blank or a comment. -/
  | gap
  /-- A comment that documents what follows. -/
  | documentation
  | word
  | literal
  | mark
  | bracket
deriving DecidableEq, Repr

namespace Lexeme

/-- What a comment that documents says: all between its ends. -/
def documented (chars : List Char) : List Char :=
  if chars.take 2 = ['/', '/'] then chars.drop 3 else (chars.drop 3).dropLast.dropLast

/-- The tokens that the characters of a lexeme make up; a gap makes up none. -/
def tokens (chars : List Char) : Lexeme → Code
  | gap => []
  | documentation => [
    .mark '#', .bracket '[', .word "doc", .mark '=',
    .literal (Text.quoted (String.ofList (documented chars))), .bracket ']']
  | word => [.word (String.ofList chars)]
  | literal => [.literal (String.ofList chars)]
  | mark => chars.map .mark
  | bracket => chars.map .bracket

end Lexeme

/-- The character separates tokens: a blank or a direction mark. -/
def isGap (char : Char) : Bool :=
  Text.isBlank char || char == '\u200e' || char == '\u200f'

/-- The punctuation characters. -/
def marks : List Char := "~!@#$%^&*-=+|;:,<.>/?'".toList

/-- The brackets: round, square and curly ones. -/
def brackets : List Char := ['(', ')', '[', ']', '\x7b', '\x7d']

/-- Number of characters that go on with a word. -/
def tailSize (chars : List Char) : Nat :=
  (chars.takeWhile Text.continuesWord).length

/-- Number of characters of a word at the front. -/
def wordSize : List Char → Nat
  | [] => 0
  | first :: later => if Text.beginsWord first then 1 + tailSize later else 0

/-- Number of characters up to the end of the line. -/
def lineSize (chars : List Char) : Nat :=
  (chars.takeWhile (· != '\n')).length

/-- Number of characters up to the end of a comment inside which comments may be nested. -/
def commentSize? : Nat → List Char → Option Nat
  | _, [] => none
  | depth, '*' :: '/' :: rest =>
    match depth with
    | 0 => some 2
    | depth + 1 => (commentSize? depth rest).map (· + 2)
  | depth, '/' :: '*' :: rest => (commentSize? (depth + 1) rest).map (· + 2)
  | depth, _ :: rest => (commentSize? depth rest).map (· + 1)

/-- Number of characters up to a closing quote, and of the word behind it. A backslash hides the
character after it. -/
def quotedSize? (quote : Char) : List Char → Option Nat
  | [] => none
  | '\\' :: _ :: rest => (quotedSize? quote rest).map (· + 2)
  | char :: rest =>
    if char = quote then some (1 + wordSize rest) else (quotedSize? quote rest).map (· + 1)

/-- Number of characters up to a closing quote with as many hashes behind it. -/
def closingSize? (hashes : Nat) : List Char → Option Nat
  | [] => none
  | '"' :: rest =>
    if rest.take hashes = List.replicate hashes '#' then
      some (1 + hashes + wordSize (rest.drop hashes))
    else
      (closingSize? hashes rest).map (· + 1)
  | _ :: rest => (closingSize? hashes rest).map (· + 1)

/-- Number of characters of a raw string behind its first letters. -/
def rawSize? (chars : List Char) : Option Nat :=
  let hashes := (chars.takeWhile (· == '#')).length
  match chars.drop hashes with
  | '"' :: rest => (closingSize? hashes rest).map (hashes + 1 + ·)
  | _ => none

/-! ## Numbers -/

/-- Number of decimal digits at the front, underscores among them. -/
def digitsSize (chars : List Char) : Nat :=
  (chars.takeWhile fun char => char.isDigit || char == '_').length

/-- Number of characters of an exponent behind its letter: a sign, which may be missing or have
been seen, and at least one digit. -/
def exponentSize? (hasSign : Bool) : List Char → Option Nat
  | [] => none
  | char :: rest =>
    if char = '_' then (exponentSize? hasSign rest).map (· + 1)
    else if char = '+' ∨ char = '-' then
      if hasSign then none else (exponentSize? true rest).map (· + 1)
    else if char.isDigit then some (1 + digitsSize rest)
    else none

/-- Number of characters of the exponent at the front, with its letter. -/
def signedPowerSize? : List Char → Option Nat
  | 'e' :: rest | 'E' :: rest => (exponentSize? false rest).map (· + 1)
  | _ => none

/-- Number of characters behind the first digit of a number that has a point or an exponent. The
point is neither part of a range nor before a name. -/
def fractionSize? (later : List Char) : Option Nat :=
  let whole := digitsSize later
  match later.drop whole with
  | '.' :: '.' :: _ => none
  | '.' :: rest =>
    if 0 < wordSize rest then none
    else
      let pointed := whole + 1 + digitsSize rest
      some (pointed + (signedPowerSize? (later.drop pointed)).getD 0)
  | rest => (signedPowerSize? rest).map (whole + ·)

/-- Number of digits at the front that are written in a base, underscores among them. There is at
least one, and none is too large for the base. -/
def baseDigitsSize? (base : Nat) (chars : List Char) : Option Nat :=
  let isHex (char : Char) : Bool :=
    base == 16 && ('a' ≤ char && char ≤ 'f' || 'A' ≤ char && char ≤ 'F')
  let written := chars.takeWhile fun char => char.isDigit || char == '_' || isHex char
  let digits := written.filter (· != '_')
  if digits.isEmpty || digits.any (fun char => char.isDigit && '0'.toNat + base ≤ char.toNat) then
    none
  else
    some written.length

/-- Number of characters of a whole number behind its first digit. -/
def wholeSize? (first : Char) (later : List Char) : Option Nat :=
  match first, later with
  | '0', 'x' :: rest => (baseDigitsSize? 16 rest).map (· + 1)
  | '0', 'o' :: rest => (baseDigitsSize? 8 rest).map (· + 1)
  | '0', 'b' :: rest => (baseDigitsSize? 2 rest).map (· + 1)
  | _, later => some (digitsSize later)

/-- Number of characters of a number behind its first digit, with the word that is its suffix. -/
def numberSize? (first : Char) (later : List Char) : Option Nat :=
  ((fractionSize? later).or (wholeSize? first later)).bind fun size =>
    let rest := later.drop size
    if (rest.drop (wordSize rest)).head?.any Text.continuesWord then none
    else some (size + wordSize rest)

/-! ## Words, comments and marks -/

/-- The words that cannot be written raw. -/
def neverRaw : List String := ["_", "super", "self", "Self", "crate"]

/-- A comment of that many characters behind its slash that documents what follows. A carriage
return in it is part of a line end. -/
def documentation? (later : List Char) (size : Nat) : Option (Lexeme × Nat) :=
  let returns := (later.take size).count '\r'
  let lineEnds := ((later.take size).zip (later.take size).tail).count ('\r', '\n')
  if returns = lineEnds then some (.documentation, size) else none

/-- Number of characters up to the end of the line, whose end may begin with a carriage return. -/
def documentedLineSize (chars : List Char) : Nat :=
  let line := chars.take (lineSize chars)
  if lineSize chars < chars.length && line.getLast? == some '\r' then line.length - 1
  else line.length

/-- The lexeme behind a slash. -/
def slashFront? (later : List Char) : Option (Lexeme × Nat) :=
  match later with
  | '/' :: '!' :: _ => none
  | '/' :: '/' :: '/' :: rest => some (.gap, 3 + lineSize rest)
  | '/' :: '/' :: rest => documentation? later (2 + documentedLineSize rest)
  | '/' :: rest => some (.gap, 1 + lineSize rest)
  | '*' :: '*' :: '/' :: _ => some (.gap, 3)
  | '*' :: '!' :: _ => none
  | '*' :: '*' :: '*' :: rest =>
    (commentSize? 0 ('*' :: '*' :: rest)).map fun size => (.gap, size + 1)
  | '*' :: '*' :: rest =>
    (commentSize? 0 ('*' :: rest)).bind fun size => documentation? later (size + 1)
  | '*' :: rest => (commentSize? 0 rest).map fun size => (.gap, size + 1)
  | _ => some (.mark, 0)

/-- The lexeme behind an apostrophe: a character, or a lifetime, of which it is only the mark. -/
def apostropheFront? (later : List Char) : Option (Lexeme × Nat) :=
  match later with
  | '\\' :: _ => (quotedSize? '\'' later).map fun size => (.literal, size)
  | _ :: '\'' :: rest => some (.literal, 2 + wordSize rest)
  | char :: _ => if Text.beginsWord char then some (.mark, 0) else none
  | [] => none

/-- The lexeme of a word: a word as such, a raw word, or a literal that letters introduce. -/
def wordFront? (first : Char) (later : List Char) : Option (Lexeme × Nat) :=
  let size := tailSize later
  let letters := String.ofList (first :: later.take size)
  let rest := later.drop size
  let literal (size? : Option Nat) : Option (Lexeme × Nat) :=
    size?.map fun more => (.literal, size + more)
  if ["r", "br", "cr"].contains letters && (rawSize? rest).isSome then literal (rawSize? rest)
  else
    match rest with
    | '"' :: rest =>
      if ["b", "c"].contains letters then literal ((quotedSize? '"' rest).map (· + 1))
      else some (.word, size)
    | '\'' :: rest =>
      if letters = "b" then literal ((quotedSize? '\'' rest).map (· + 1))
      else some (.word, size)
    | '#' :: rest =>
      if letters = "r" && 0 < wordSize rest then
        if neverRaw.contains (String.ofList (rest.take (wordSize rest))) then none
        else some (.word, size + 1 + wordSize rest)
      else
        some (.word, size)
    | _ => some (.word, size)

/-- What the front of a text makes up, and how many characters it takes behind the first one. -/
def front? (first : Char) (later : List Char) : Option (Lexeme × Nat) :=
  if isGap first then some (.gap, 0)
  else if first = '/' then slashFront? later
  else if first = '"' then (quotedSize? '"' later).map fun size => (.literal, size)
  else if first = '\'' then apostropheFront? later
  else if first.isDigit then (numberSize? first later).map fun size => (.literal, size)
  else if Text.beginsWord first then wordFront? first later
  else if brackets.contains first then some (.bracket, 0)
  else if marks.contains first then some (.mark, 0)
  else none

/-! ## Scans -/

/-- The tokens of characters, if they are tokens throughout. -/
def scanChars (chars : List Char) : Option Code :=
  match chars with
  | [] => some []
  | first :: later =>
    match front? first later with
    | none => none
    | some (lexeme, size) =>
      (scanChars (later.drop size)).map (lexeme.tokens (first :: later.take size) ++ ·)
termination_by chars.length
decreasing_by
  simp only [List.length_drop, List.length_cons]
  omega

/-- The tokens of a text, if it is tokens throughout. -/
def scan? (text : String) : Option Code :=
  scanChars text.toList

end Token

namespace Code

/-- The tokens of a text that is known to be source code. -/
def source (text : String) : Code :=
  (Token.scan? text).getD []

/-- Code between brackets. -/
def between (opening closing : Char) (code : Code) : Code :=
  .bracket opening :: code ++ [.bracket closing]

/-- Code between round brackets. -/
def parens (code : Code) : Code :=
  between '(' ')' code

/-- Code between square brackets. -/
def squares (code : Code) : Code :=
  between '[' ']' code

/-- Code between braces. -/
def braces (code : Code) : Code :=
  between '\x7b' '\x7d' code

/-- The words that are no names. -/
def keywords : List String := [
  "_", "abstract", "as", "async", "await", "become", "box", "break", "const", "continue", "crate",
  "do", "dyn", "else", "enum", "extern", "false", "final", "fn", "for", "if", "impl", "in", "let",
  "loop", "macro", "match", "mod", "move", "mut", "override", "priv", "pub", "ref", "return",
  "Self", "self", "static", "struct", "super", "trait", "true", "try", "type", "typeof", "unsafe",
  "unsized", "use", "virtual", "where", "while", "yield"]

/-- The word, if the code is one word. -/
def word? : Code → Option String
  | [.word text] => some text
  | _ => none

/-- The name, if the code is one. -/
def name? (code : Code) : Option String :=
  code.word?.filter (!keywords.contains ·)

end Code

end PropertyGraph
