import PropertyGraph.Declaration.Token
import PropertyGraph.Number.Numeral

/-!
# String literals

A string literal as it is written and what it says. A written string stands between double quotes
with escapes for some characters, or is raw: an `r`, as many hashes on either side, and between the
quotes every character as it is.
-/
namespace PropertyGraph

/-- A string literal. -/
structure StringLiteral where
  /-- The literal as it is written. -/
  source : String
  /-- The text that it stands for. -/
  content : String
deriving DecidableEq, Repr, Inhabited

namespace StringLiteral

/-- The characters that an escape stands for, given what is behind its backslash, and how many
characters the escape takes of that. A line end stands for nothing, like the blanks after it. -/
def escape? : List Char → Option (List Char × Nat)
  | 'n' :: _ => some (['\n'], 1)
  | 'r' :: _ => some (['\r'], 1)
  | 't' :: _ => some (['\t'], 1)
  | '0' :: _ => some (['\x00'], 1)
  | '\\' :: _ => some (['\\'], 1)
  | '\'' :: _ => some (['\''], 1)
  | '"' :: _ => some (['"'], 1)
  | 'x' :: high :: low :: _ =>
    (Numeral.readDigits 16 0x80 [high, low]).toOption.map fun point => ([Char.ofNat point], 3)
  | 'u' :: '\x7b' :: rest =>
    let written := rest.takeWhile (· != '\x7d')
    (Numeral.readDigits 16 0x110000 (written.filter (· != '_'))).toOption.map fun point =>
      ([Char.ofNat point], written.length + 3)
  | '\n' :: rest => some ([], 1 + (rest.takeWhile Text.isBlank).length)
  | _ => none

/-- The characters that a string stands for, given what is behind its opening quote. -/
def decode? (chars : List Char) : Option (List Char) :=
  match chars with
  | [] => none
  | '"' :: _ => some []
  | '\\' :: later =>
    (escape? later).bind fun (decoded, size) => (decode? (later.drop size)).map (decoded ++ ·)
  | char :: later => (decode? later).map (char :: ·)
termination_by chars.length
decreasing_by
  all_goals simp only [List.length_drop, List.length_cons]
  all_goals omega

/-- The characters of a raw string, given what is behind its first letter: those between the
quotes at both ends. -/
def decodeRaw (chars : List Char) : List Char :=
  let inside := (chars.dropWhile (· == '#')).drop 1
  ((inside.reverse.dropWhile (· != '"')).drop 1).reverse

/-- The string literal of a token; other literals are none. -/
def ofToken? : Token → Option StringLiteral
  | .literal source =>
    match source.toList with
    | '"' :: rest => (decode? rest).map fun content => ⟨source, String.ofList content⟩
    | 'r' :: rest => some ⟨source, String.ofList (decodeRaw rest)⟩
    | _ => none
  | _ => none

/-- The string literal that code consists of. -/
def ofCode? : Code → Option StringLiteral
  | [token] => ofToken? token
  | _ => none

/-- A character as it is written between quotes. -/
def written (char : Char) : List Char :=
  if char = '\n' then ['\\', 'n']
  else if char = '\\' || char = '"' then ['\\', char]
  else [char]

/-- The literal that stands for a text. -/
def ofContent (content : String) : StringLiteral where
  source := String.ofList ('"' :: content.toList.flatMap written ++ ['"'])
  content := content

/-- The token of the literal. -/
def token (literal : StringLiteral) : Token :=
  .literal literal.source

end StringLiteral

end PropertyGraph
