import PropertyGraph.Path.Basic

/-!
# Reading paths

A reader goes through the characters of a path segment by segment. A fault is reported with its
place, counted in bytes of the text: a missing name where it should begin, a key that is empty or
whose bracket stays open at the bracket, a quote that stays open at the quote, and any other fault
at the character that is out of place. Of two faults in one pair of brackets a bracket inside it
comes before an empty key, and neither is looked for while the pair stays open.
-/
namespace PropertyGraph

/-- Why a text is no path. -/
inductive PathFault where
  | emptyPath
  | emptySegment
  | unclosedBracket
  | unterminatedQuote
  | emptyKey
  | textAfterQuote
  | strayBracket
  | missingSeparator
  | nestedBracket
deriving DecidableEq, Repr

namespace PathFault

/-- The text of the fault. -/
def reason : PathFault → String
  | emptyPath => "empty path"
  | emptySegment => "empty segment"
  | unclosedBracket => "unclosed bracket"
  | unterminatedQuote => "unterminated quote"
  | emptyKey => "empty key"
  | textAfterQuote => "unexpected text after closing quote"
  | strayBracket => "unexpected `]`"
  | missingSeparator => "expected `.` or `[` after `]`"
  | nestedBracket => "unexpected `[` inside brackets"

end PathFault

/-- A text that is no path, and where it fails to be one. -/
structure ParseError where
  /-- Place of the fault in bytes. -/
  offset : Nat
  /-- The whole text. -/
  path : String
  /-- The fault. -/
  fault : PathFault
deriving DecidableEq, Repr

namespace ParseError

/-- The text of the error. -/
def message (error : ParseError) : String :=
  "encountered an error at offset " ++ toString error.offset ++ " while parsing `" ++
    error.path ++ "`: " ++ error.fault.reason

end ParseError

namespace PropertyPath

/-- Number of bytes that characters take. -/
def byteSize : List Char → Nat
  | [] => 0
  | char :: later => char.utf8Size + byteSize later

/-- The character ends a name. -/
def endsName (char : Char) : Bool :=
  char == '.' || char == '[' || char == ']'

/-- A fault with its place. -/
abbrev Fault := Nat × PathFault

/-- A segment that was read, with the bytes it takes and the characters behind it. -/
structure Chunk where
  /-- The segment. -/
  segment : Segment
  /-- Bytes of the segment, brackets and quotes included. -/
  size : Nat
  /-- The characters behind the segment. -/
  rest : List Char

/-- Reads a name that begins at an offset. -/
def readName (offset : Nat) (chars : List Char) : Except Fault Chunk :=
  let name := chars.takeWhile (!endsName ·)
  if name.isEmpty then .error (offset, .emptySegment)
  else .ok ⟨.name (String.ofList name), byteSize name, chars.dropWhile (!endsName ·)⟩

/-- Reads a key without quotes, given the characters behind its bracket at the offset. -/
def readBareKey (offset : Nat) (chars : List Char) : Except Fault Chunk :=
  let key := chars.takeWhile (· != ']')
  match chars.dropWhile (· != ']') with
  | [] => .error (offset, .unclosedBracket)
  | _ :: rest =>
    if key.contains '[' then
      .error (offset + 1 + byteSize (key.takeWhile (· != '[')), .nestedBracket)
    else if key.isEmpty then .error (offset, .emptyKey)
    else .ok ⟨.key (String.ofList key) false, byteSize key + 2, rest⟩

/-- Reads a key between quotes, given the characters behind the opening quote; the bracket before
the quote stands at the offset. -/
def readQuotedKey (offset : Nat) (quote : Char) (chars : List Char) : Except Fault Chunk :=
  let key := chars.takeWhile (· != quote)
  match chars.dropWhile (· != quote) with
  | [] => .error (offset + 1, .unterminatedQuote)
  | _ :: rest =>
    if key.isEmpty then .error (offset, .emptyKey)
    else
      match rest with
      | ']' :: rest => .ok ⟨.key (String.ofList key) true, byteSize key + 4, rest⟩
      | [] => .error (offset, .unclosedBracket)
      | _ => .error (offset + byteSize key + 3, .textAfterQuote)

/-- Reads a key, given the characters behind its bracket at the offset. -/
def readKey (offset : Nat) (chars : List Char) : Except Fault Chunk :=
  match chars with
  | '\'' :: rest => readQuotedKey offset '\'' rest
  | '"' :: rest => readQuotedKey offset '"' rest
  | chars => readBareKey offset chars

/-! ## Every chunk takes characters away -/

/-- Dropping characters leaves no more of them. -/
theorem length_dropWhile_le (test : Char → Bool) (chars : List Char) :
    (chars.dropWhile test).length ≤ chars.length :=
  (List.dropWhile_sublist test).length_le

/-- A name leaves no more characters behind it than there were. -/
theorem length_rest_readName {offset : Nat} {chars : List Char} {chunk : Chunk}
    (read : readName offset chars = .ok chunk) : chunk.rest.length ≤ chars.length := by
  simp only [readName] at read
  split at read
  · simp at read
  · simp only [Except.ok.injEq] at read
    subst read
    exact length_dropWhile_le _ _

/-- A bare key leaves no more characters behind it than there were. -/
theorem length_rest_readBareKey {offset : Nat} {chars : List Char} {chunk : Chunk}
    (read : readBareKey offset chars = .ok chunk) : chunk.rest.length ≤ chars.length := by
  simp only [readBareKey] at read
  split at read
  · simp at read
  · rename_i found
    have shorter := length_dropWhile_le (· != ']') chars
    rw [found] at shorter
    split at read
    · simp at read
    · split at read
      · simp at read
      · simp only [Except.ok.injEq] at read
        subst read
        exact Nat.le_of_succ_le shorter

/-- A quoted key leaves no more characters behind it than there were. -/
theorem length_rest_readQuotedKey {offset : Nat} {quote : Char} {chars : List Char}
    {chunk : Chunk} (read : readQuotedKey offset quote chars = .ok chunk) :
    chunk.rest.length ≤ chars.length := by
  simp only [readQuotedKey] at read
  split at read
  · simp at read
  · rename_i found
    have shorter := length_dropWhile_le (· != quote) chars
    rw [found] at shorter
    split at read
    · simp at read
    · split at read
      · simp only [Except.ok.injEq] at read
        subst read
        simp only [List.length_cons] at shorter
        exact Nat.le_of_add_right_le (Nat.le_of_add_right_le shorter)
      · simp at read
      · simp at read

/-- A key of either kind leaves no more characters behind it than there were. -/
theorem length_rest_readKey {offset : Nat} {chars : List Char} {chunk : Chunk}
    (read : readKey offset chars = .ok chunk) : chunk.rest.length ≤ chars.length := by
  simp only [readKey] at read
  split at read
  · have := length_rest_readQuotedKey read
    simp only [List.length_cons]
    omega
  · have := length_rest_readQuotedKey read
    simp only [List.length_cons]
    omega
  · exact length_rest_readBareKey read

/-! ## Paths -/

/-- Reads the segments behind the first one, which ends at the offset. -/
def readLater (offset : Nat) (chars : List Char) : Except Fault (List Segment) :=
  match chars with
  | [] => .ok []
  | '.' :: rest =>
    match read : readName (offset + 1) rest with
    | .error fault => .error fault
    | .ok chunk =>
      have := length_rest_readName read
      (readLater (offset + 1 + chunk.size) chunk.rest).map (chunk.segment :: ·)
  | '[' :: rest =>
    match read : readKey offset rest with
    | .error fault => .error fault
    | .ok chunk =>
      have := length_rest_readKey read
      (readLater (offset + chunk.size) chunk.rest).map (chunk.segment :: ·)
  | ']' :: _ => .error (offset, .strayBracket)
  | _ => .error (offset, .missingSeparator)
termination_by chars.length

/-- Reads the first segment. -/
def readFirst (chars : List Char) : Except Fault Chunk :=
  match chars with
  | [] => .error (0, .emptyPath)
  | '[' :: rest => readKey 0 rest
  | chars => readName 0 chars

/-- Reads a path from its characters. -/
def ofChars (chars : List Char) : Except Fault PropertyPath :=
  (readFirst chars).bind fun chunk =>
    (readLater chunk.size chunk.rest).map fun later => ⟨chunk.segment, later⟩

/-- Reads a path. -/
def parse (text : String) : Except ParseError PropertyPath :=
  (ofChars text.toList).mapError fun (offset, fault) => ⟨offset, text, fault⟩

end PropertyPath

end PropertyGraph
