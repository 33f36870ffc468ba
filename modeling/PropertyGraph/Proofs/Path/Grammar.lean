import Mathlib.Data.List.TakeWhile
import PropertyGraph.Proofs.Result
import PropertyGraph.Path.Reader

/-!
# The grammar of paths

A path is written as

    path := (name | key) ('.' name | key)*

A name has one character or more, none of them a point or a bracket. A key has one character or
more, too. Between brackets alone it holds no bracket and does not begin with a quote; between two
equal quotes inside the brackets it holds anything but that quote.

The reader of paths takes exactly the texts that are written so, and makes of each the segments that
are written. A text is written in one way only: the reader tells the segments, and these tell how
many characters each of them takes.
-/
namespace PropertyGraph

/-- A segment as it can be written. -/
inductive Spelling where
  /-- A name. -/
  | name (label : List Char) (nonempty : label ≠ [])
    (plain : ∀ char ∈ label, char ≠ '.' ∧ char ≠ '[' ∧ char ≠ ']')
  /-- A key between brackets alone. -/
  | bareKey (key : List Char) (nonempty : key ≠ [])
    (plain : ∀ char ∈ key, char ≠ '[' ∧ char ≠ ']')
    (unquoted : key.head? ≠ some '\'' ∧ key.head? ≠ some '"')
  /-- A key between quotes. -/
  | quotedKey (quote : Char) (key : List Char) (isQuote : quote = '\'' ∨ quote = '"')
    (nonempty : key ≠ []) (plain : quote ∉ key)

namespace Spelling

/-- The characters that are written. -/
def chars : Spelling → List Char
  | name label _ _ => label
  | bareKey key _ _ _ => '[' :: key ++ [']']
  | quotedKey quote key _ _ _ => '[' :: quote :: key ++ [quote, ']']

/-- The characters that are written behind another segment. -/
def laterChars : Spelling → List Char
  | name label _ _ => '.' :: label
  | key => key.chars

/-- The segment that is written. -/
def segment : Spelling → Segment
  | name label _ _ => .name (String.ofList label)
  | bareKey key _ _ _ => .key (String.ofList key) false
  | quotedKey _ key _ _ _ => .key (String.ofList key) true

/-- Behind the first segment a name has a point before it and a key has not. -/
theorem laterChars_eq (spelling : Spelling) :
    spelling.laterChars =
      (if spelling.segment.isName then ['.'] else []) ++ spelling.chars := by
  cases spelling <;> rfl

/-- A segment is written with the same number of characters in every way, and the characters tell
the way. -/
theorem chars_append_inj {spelling other : Spelling} {rest rest' : List Char}
    (sameSegment : spelling.segment = other.segment)
    (same : spelling.chars ++ rest = other.chars ++ rest') : spelling = other ∧ rest = rest' := by
  have sameLength : spelling.chars.length = other.chars.length := by
    cases spelling <;> cases other <;> simp_all [segment, chars, String.ofList_inj]
  obtain ⟨sameChars, sameRest⟩ := List.append_inj same sameLength
  refine ⟨?_, sameRest⟩
  cases spelling <;> cases other <;> simp_all [segment, chars, String.ofList_inj]

/-- Where the segments are the same, the spelling and what follows it can be told from the
characters. -/
theorem laterChars_append_inj {spelling other : Spelling} {rest rest' : List Char}
    (sameSegment : spelling.segment = other.segment)
    (same : spelling.laterChars ++ rest = other.laterChars ++ rest') :
    spelling = other ∧ rest = rest' := by
  rw [laterChars_eq, laterChars_eq, sameSegment, List.append_assoc, List.append_assoc] at same
  exact chars_append_inj sameSegment (List.append_cancel_left same)

/-- Known segments are written in a row of characters in one way. -/
theorem eq_of_segments_eq {later others : List Spelling}
    (sameSegments : later.map segment = others.map segment)
    (sameChars : later.flatMap laterChars = others.flatMap laterChars) : later = others := by
  induction later generalizing others with
  | nil => simpa using sameSegments.symm
  | cons spelling later ih =>
    cases others with
    | nil => simp at sameSegments
    | cons other others =>
      obtain ⟨sameSegment, sameLater⟩ := List.cons.inj sameSegments
      rw [List.flatMap_cons, List.flatMap_cons] at sameChars
      obtain ⟨sameFirst, sameRest⟩ := laterChars_append_inj sameSegment sameChars
      rw [sameFirst, ih sameLater sameRest]

end Spelling

namespace PropertyPath

section

variable {offset : Nat} {chars label key rest : List Char} {quote : Char} {chunk : Chunk}
  {segments : List Segment} {spelling : Spelling}

/-! ## Reading what is written -/

/-- The first of the characters fails the test, if there is one. -/
def StopsBefore (test : Char → Bool) (chars : List Char) : Prop :=
  ∀ char ∈ chars.head?, test char = false

/-- Taking stops where the part that passes the test ends. -/
theorem takeWhile_append {test : Char → Bool} (inside : ∀ char ∈ chars, test char = true)
    (stops : StopsBefore test rest) : (chars ++ rest).takeWhile test = chars := by
  have none : rest.takeWhile test = [] := by
    cases rest with
    | nil => rfl
    | cons char rest => simp [stops char rfl]
  rw [List.takeWhile_append_of_pos inside, none, List.append_nil]

/-- Dropping stops where the part that passes the test ends. -/
theorem dropWhile_append {test : Char → Bool} (inside : ∀ char ∈ chars, test char = true)
    (stops : StopsBefore test rest) : (chars ++ rest).dropWhile test = rest := by
  rw [List.dropWhile_append_of_pos inside]
  cases rest with
  | nil => rfl
  | cons char rest => simp [stops char rfl]

/-- A name is read up to the next point or bracket. -/
theorem readName_append (offset : Nat) (nonempty : label ≠ [])
    (plain : ∀ char ∈ label, char ≠ '.' ∧ char ≠ '[' ∧ char ≠ ']')
    (stops : StopsBefore (!endsName ·) rest) :
    readName offset (label ++ rest) =
      .ok ⟨.name (String.ofList label), byteSize label, rest⟩ := by
  have inside : ∀ char ∈ label, (!endsName char) = true := by
    intro char among
    simpa [endsName, and_assoc] using plain char among
  have taken : (label ++ rest).takeWhile (!endsName ·) = label := takeWhile_append inside stops
  have left : (label ++ rest).dropWhile (!endsName ·) = rest := dropWhile_append inside stops
  simp [readName, taken, left, nonempty]

/-- What is scanned for a character ends where the character first stands. -/
theorem scan_append {stop : Char} (plain : stop ∉ key) (rest : List Char) :
    (key ++ stop :: rest).takeWhile (· != stop) = key ∧
      (key ++ stop :: rest).dropWhile (· != stop) = stop :: rest := by
  have inside : ∀ char ∈ key, (char != stop) = true := by
    intro char among
    simpa using ne_of_mem_of_not_mem among plain
  have stops : StopsBefore (· != stop) (stop :: rest) := by simp [StopsBefore]
  exact ⟨takeWhile_append inside stops, dropWhile_append inside stops⟩

/-- A bare key is read up to its bracket. -/
theorem readBareKey_append (nonempty : key ≠ [])
    (plain : ∀ char ∈ key, char ≠ '[' ∧ char ≠ ']') :
    readBareKey offset (key ++ ']' :: rest) =
      .ok ⟨.key (String.ofList key) false, byteSize key + 2, rest⟩ := by
  have noOpening : '[' ∉ key := fun among => (plain '[' among).1 rfl
  have noClosing : ']' ∉ key := fun among => (plain ']' among).2 rfl
  obtain ⟨taken, left⟩ := scan_append noClosing rest
  simp [readBareKey, taken, left, nonempty, noOpening]

/-- A quoted key is read up to its quote and bracket. -/
theorem readQuotedKey_append (nonempty : key ≠ []) (plain : quote ∉ key) :
    readQuotedKey offset quote (key ++ quote :: ']' :: rest) =
      .ok ⟨.key (String.ofList key) true, byteSize key + 4, rest⟩ := by
  obtain ⟨taken, left⟩ := scan_append plain (']' :: rest)
  simp [readQuotedKey, taken, left, nonempty]

/-- A key that does not begin with a quote is read up to the bracket that closes it. -/
theorem readKey_of_unquoted (unquoted : chars.head? ≠ some '\'' ∧ chars.head? ≠ some '"') :
    readKey offset chars = readBareKey offset chars := by
  unfold readKey
  split
  · simp at unquoted
  · simp at unquoted
  · rfl

/-- What is read where a segment is written, with other characters behind it. -/
def chunkOf (spelling : Spelling) (rest : List Char) : Chunk :=
  ⟨spelling.segment, byteSize spelling.chars, rest⟩

/-- The bytes of two texts in a row are those of both. -/
theorem byteSize_append (chars rest : List Char) :
    byteSize (chars ++ rest) = byteSize chars + byteSize rest := by
  induction chars with
  | nil => simp [byteSize]
  | cons char chars ih => simp [byteSize, ih, Nat.add_assoc]

/-- Brackets are two bytes. -/
theorem byteSize_bracketed (chars : List Char) :
    byteSize ('[' :: chars ++ [']']) = byteSize chars + 2 := by
  have opening : '['.utf8Size = 1 := rfl
  have closing : ']'.utf8Size = 1 := rfl
  simp only [byteSize_append, byteSize, opening, closing]
  omega

/-- A key is read however it is written. -/
theorem readKey_of_spelling (offset : Nat) (rest : List Char)
    (written : spelling.chars = '[' :: chars) :
    readKey offset (chars ++ rest) = .ok (chunkOf spelling rest) := by
  cases spelling with
  | name label nonempty plain =>
    obtain rfl : label = '[' :: chars := written
    exact absurd rfl (plain '[' List.mem_cons_self).2.1
  | bareKey key nonempty plain unquoted =>
    obtain rfl : key ++ [']'] = chars := List.tail_eq_of_cons_eq written
    have first : (key ++ ']' :: rest).head? = key.head? := by
      obtain ⟨char, key, rfl⟩ := List.exists_cons_of_ne_nil nonempty
      rfl
    have size : byteSize ('[' :: key ++ [']']) = byteSize key + 2 := byteSize_bracketed key
    rw [List.append_assoc, List.singleton_append, readKey_of_unquoted (first ▸ unquoted),
      readBareKey_append nonempty plain, chunkOf, Spelling.chars, size]
    rfl
  | quotedKey quote key isQuote nonempty plain =>
    obtain rfl : quote :: key ++ [quote, ']'] = chars := List.tail_eq_of_cons_eq written
    have size : byteSize ('[' :: quote :: key ++ [quote, ']']) = byteSize key + 4 := by
      have between := byteSize_bracketed (quote :: key ++ [quote])
      have one : quote.utf8Size = 1 := by rcases isQuote with rfl | rfl <;> rfl
      simp only [byteSize_append, byteSize, one, List.append_assoc, List.cons_append,
        List.nil_append] at between ⊢
      omega
    have opens : readKey offset (quote :: (key ++ quote :: ']' :: rest)) =
        readQuotedKey offset quote (key ++ quote :: ']' :: rest) := by
      rcases isQuote with rfl | rfl <;> rfl
    simp only [List.cons_append, List.append_assoc, List.nil_append]
    rw [opens, readQuotedKey_append nonempty plain, chunkOf, Spelling.chars, size]
    rfl

/-- What is written behind a segment does not go on with a name. -/
theorem stopsBefore_later (later : List Spelling) :
    StopsBefore (!endsName ·) (later.flatMap Spelling.laterChars) := by
  cases later with
  | nil => simp [StopsBefore]
  | cons spelling later =>
    cases spelling <;> simp [StopsBefore, Spelling.laterChars, Spelling.chars, endsName]

/-- The first segment is read however it is written. -/
theorem readFirst_append (spelling : Spelling) (stops : StopsBefore (!endsName ·) rest) :
    readFirst (spelling.chars ++ rest) = .ok (chunkOf spelling rest) := by
  cases spelling with
  | name label nonempty plain =>
    obtain ⟨char, label, rfl⟩ := List.exists_cons_of_ne_nil nonempty
    have noBracket : char ≠ '[' := (plain char List.mem_cons_self).2.1
    have isName : readFirst (char :: label ++ rest) = readName 0 (char :: label ++ rest) := by
      simp [readFirst, noBracket]
    exact isName.trans (readName_append 0 nonempty plain stops)
  | bareKey key nonempty plain unquoted => exact readKey_of_spelling 0 rest rfl
  | quotedKey quote key isQuote nonempty plain => exact readKey_of_spelling 0 rest rfl

/-- A segment behind others is read however it is written. -/
theorem readLater_append (stops : StopsBefore (!endsName ·) rest) :
    readLater offset (spelling.laterChars ++ rest) =
      (readLater (offset + byteSize spelling.laterChars) rest).map (spelling.segment :: ·) := by
  have key : ∀ chars, spelling.chars = '[' :: chars →
      readLater offset (spelling.chars ++ rest) =
        (readLater (offset + byteSize spelling.chars) rest).map (spelling.segment :: ·) := by
    intro chars written
    have read := readKey_of_spelling offset rest written
    rw [written, List.cons_append, readLater]
    split
    case h_1 fault failed => simp [failed] at read
    case h_2 chunk done =>
      obtain rfl := Except.ok.inj (done.symm.trans read)
      rw [← written]
      rfl
  cases spelling with
  | name label nonempty plain =>
    have read := readName_append (offset + 1) nonempty plain stops
    rw [Spelling.laterChars, List.cons_append, readLater]
    split
    case h_1 fault failed => simp [failed] at read
    case h_2 chunk done =>
      obtain rfl := Except.ok.inj (done.symm.trans read)
      have point : '.'.utf8Size = 1 := rfl
      rw [byteSize, point, Nat.add_assoc]
      rfl
  | bareKey => exact key _ rfl
  | quotedKey => exact key _ rfl

/-- A row of segments is read however they are written. -/
theorem readLater_flatMap (later : List Spelling) :
    ∀ offset, readLater offset (later.flatMap Spelling.laterChars) =
      .ok (later.map Spelling.segment) := by
  induction later with
  | nil =>
    intro offset
    rw [List.flatMap_nil, readLater]
    rfl
  | cons spelling later ih =>
    intro offset
    rw [List.flatMap_cons, readLater_append (stopsBefore_later later), ih]
    rfl

/-! ## Writing what was read -/

/-- What is read as a name has the characters of one in front. -/
theorem exists_name_of_readName (read : readName offset chars = .ok chunk) :
    ∃ label nonempty plain, chars = label ++ chunk.rest ∧
      chunk.segment = (Spelling.name label nonempty plain).segment := by
  simp only [readName] at read
  split at read
  case isTrue => simp at read
  case isFalse isName =>
    obtain rfl := Except.ok.inj read
    refine ⟨chars.takeWhile (!endsName ·), by simpa using isName, ?_,
      List.takeWhile_append_dropWhile.symm, rfl⟩
    intro char among
    have inside := List.mem_takeWhile_imp among
    simpa [endsName, and_assoc] using inside

/-- What is scanned for a character that is found does not hold it. -/
theorem eq_append_of_dropWhile {stop char : Char}
    (found : chars.dropWhile (· != stop) = char :: rest) :
    chars = chars.takeWhile (· != stop) ++ stop :: rest ∧
      stop ∉ chars.takeWhile (· != stop) := by
  have nonempty : chars.dropWhile (· != stop) ≠ [] := by simp [found]
  have stopped := List.head_dropWhile_not (· != stop) nonempty
  obtain rfl : char = stop := by simpa [found] using stopped
  constructor
  · calc
      chars = chars.takeWhile (· != char) ++ chars.dropWhile (· != char) :=
        List.takeWhile_append_dropWhile.symm
      _ = chars.takeWhile (· != char) ++ char :: rest := by rw [found]
  · intro among
    simpa using List.mem_takeWhile_imp among

/-- What is read as a bare key has its characters and a bracket in front. -/
theorem exists_key_of_readBareKey (read : readBareKey offset chars = .ok chunk) :
    ∃ key, key ≠ [] ∧ (∀ char ∈ key, char ≠ '[' ∧ char ≠ ']') ∧
      chars = key ++ ']' :: chunk.rest ∧
      chunk.segment = .key (String.ofList key) false := by
  simp only [readBareKey] at read
  split at read
  case h_1 => simp at read
  case h_2 stop rest closes =>
    obtain ⟨split, closed⟩ := eq_append_of_dropWhile closes
    split at read
    case isTrue => simp at read
    case isFalse noBracket =>
      split at read
      case isTrue => simp at read
      case isFalse nonempty =>
        obtain rfl := Except.ok.inj read
        refine ⟨chars.takeWhile (· != ']'), by simpa using nonempty, ?_, split, rfl⟩
        intro char among
        have opened : '[' ∉ chars.takeWhile (· != ']') := by simpa using noBracket
        exact ⟨ne_of_mem_of_not_mem among opened, ne_of_mem_of_not_mem among closed⟩

/-- What is read as a quoted key has its characters, the quote and a bracket in front. -/
theorem exists_key_of_readQuotedKey (read : readQuotedKey offset quote chars = .ok chunk) :
    ∃ key, key ≠ [] ∧ quote ∉ key ∧ chars = key ++ quote :: ']' :: chunk.rest ∧
      chunk.segment = .key (String.ofList key) true := by
  simp only [readQuotedKey] at read
  split at read
  case h_1 => simp at read
  case h_2 stop rest closes =>
    obtain ⟨split, without⟩ := eq_append_of_dropWhile closes
    split at read
    case isTrue => simp at read
    case isFalse nonempty =>
      split at read
      case h_1 rest =>
        obtain rfl := Except.ok.inj read
        exact ⟨chars.takeWhile (· != quote), by simpa using nonempty, without, split, rfl⟩
      case h_2 => simp at read
      case h_3 => simp at read

/-- A key that was read was written as one. -/
theorem exists_spelling_of_readKey (read : readKey offset chars = .ok chunk) :
    ∃ spelling : Spelling, '[' :: chars = spelling.laterChars ++ chunk.rest ∧
      spelling.laterChars = spelling.chars ∧ chunk.segment = spelling.segment := by
  have quoted : ∀ quote rest, quote = '\'' ∨ quote = '"' →
      readQuotedKey offset quote rest = .ok chunk →
      ∃ spelling : Spelling, '[' :: quote :: rest = spelling.laterChars ++ chunk.rest ∧
        spelling.laterChars = spelling.chars ∧ chunk.segment = spelling.segment := by
    intro quote rest isQuote read
    obtain ⟨key, nonempty, plain, rfl, segment⟩ := exists_key_of_readQuotedKey read
    refine ⟨.quotedKey quote key isQuote nonempty plain, ?_, rfl, segment⟩
    simp [Spelling.laterChars, Spelling.chars]
  unfold readKey at read
  split at read
  case h_1 rest => exact quoted _ rest (.inl rfl) read
  case h_2 rest => exact quoted _ rest (.inr rfl) read
  case h_3 notApostrophe notQuote =>
    obtain ⟨key, nonempty, plain, rfl, segment⟩ := exists_key_of_readBareKey read
    obtain ⟨first, key, rfl⟩ := List.exists_cons_of_ne_nil nonempty
    have unquoted : (first :: key).head? ≠ some '\'' ∧ (first :: key).head? ≠ some '"' := by
      constructor
      · rintro ⟨⟩
        exact notApostrophe _ rfl
      · rintro ⟨⟩
        exact notQuote _ rfl
    refine ⟨.bareKey (first :: key) nonempty plain unquoted, ?_, rfl, segment⟩
    simp [Spelling.laterChars, Spelling.chars]

/-- The first segment that was read was written at the front of the characters. -/
theorem exists_spelling_of_readFirst (read : readFirst chars = .ok chunk) :
    ∃ spelling : Spelling, chars = spelling.chars ++ chunk.rest ∧
      chunk.segment = spelling.segment := by
  unfold readFirst at read
  split at read
  case h_1 => simp at read
  case h_2 rest =>
    obtain ⟨spelling, split, isKey, segment⟩ := exists_spelling_of_readKey read
    exact ⟨spelling, isKey ▸ split, segment⟩
  case h_3 =>
    obtain ⟨label, nonempty, plain, split, segment⟩ := exists_name_of_readName read
    exact ⟨.name label nonempty plain, split, segment⟩

/-- Segments that were read behind the first were written so. -/
theorem exists_spellings_of_readLater (read : readLater offset chars = .ok segments) :
    ∃ later : List Spelling, chars = later.flatMap Spelling.laterChars ∧
      segments = later.map Spelling.segment := by
  fun_induction readLater offset chars generalizing segments with
  | case1 =>
    obtain rfl := Except.ok.inj read
    exact ⟨[], rfl, rfl⟩
  | case2 => simp at read
  | case3 offset rest chunk readChunk _ ih =>
    obtain ⟨segments, readRest, rfl⟩ := map_eq_ok_iff.1 read
    obtain ⟨later, split, rfl⟩ := ih readRest
    obtain ⟨label, nonempty, plain, rfl, segment⟩ := exists_name_of_readName readChunk
    refine ⟨.name label nonempty plain :: later, ?_, by rw [List.map_cons, segment]⟩
    rw [List.flatMap_cons, ← split, Spelling.laterChars, List.cons_append]
  | case4 => simp at read
  | case5 offset rest chunk readChunk _ ih =>
    obtain ⟨segments, readRest, rfl⟩ := map_eq_ok_iff.1 read
    obtain ⟨later, split, rfl⟩ := ih readRest
    obtain ⟨spelling, opened, -, segment⟩ := exists_spelling_of_readKey readChunk
    refine ⟨spelling :: later, ?_, by rw [List.map_cons, segment]⟩
    rw [List.flatMap_cons, ← split, opened]
  | case6 => simp at read
  | case7 => simp at read

end

/-! ## Derivations -/

/-- A way to write a text as a path. -/
structure Derivation (text : String) where
  /-- The first segment as it is written. -/
  first : Spelling
  /-- The segments behind it as they are written. -/
  later : List Spelling
  /-- They make up the text. -/
  yields : first.chars ++ later.flatMap Spelling.laterChars = text.toList

namespace Derivation

variable {text : String}

/-- The path that is written. -/
def path (derivation : Derivation text) : PropertyPath :=
  ⟨derivation.first.segment, derivation.later.map Spelling.segment⟩

/-- A text is read as the path that it is written for. -/
theorem parse_eq (derivation : Derivation text) : parse text = .ok derivation.path := by
  have first := readFirst_append derivation.first (stopsBefore_later derivation.later)
  have later := readLater_flatMap derivation.later (byteSize derivation.first.chars)
  rw [parse, ofChars, ← derivation.yields, first, Except.bind, chunkOf, later]
  rfl

/-- A text that is read as a path is written for that path. -/
theorem exists_of_parse {path : PropertyPath} (read : parse text = .ok path) :
    ∃ derivation : Derivation text, derivation.path = path := by
  obtain ⟨chunk, readChunk, continued⟩ := bind_eq_ok_iff.1 (mapError_eq_ok_iff.1 read)
  obtain ⟨segments, readRest, rfl⟩ := map_eq_ok_iff.1 continued
  obtain ⟨first, split, segment⟩ := exists_spelling_of_readFirst readChunk
  obtain ⟨later, rest, rfl⟩ := exists_spellings_of_readLater readRest
  exact ⟨⟨first, later, by rw [split, rest]⟩, by rw [path, segment]⟩

/-- A text is written in one way. -/
theorem unique (derivation other : Derivation text) : derivation = other := by
  have samePath : derivation.path = other.path :=
    Except.ok.inj (derivation.parse_eq.symm.trans other.parse_eq)
  obtain ⟨first, later, yields⟩ := derivation
  obtain ⟨first', later', yields'⟩ := other
  obtain ⟨sameFirst, sameLater⟩ := PropertyPath.mk.inj samePath
  obtain ⟨rfl, sameRest⟩ := Spelling.chars_append_inj sameFirst (yields.trans yields'.symm)
  obtain rfl := Spelling.eq_of_segments_eq sameLater sameRest
  rfl

end Derivation

/-- A text is read as a path exactly if it can be written by the grammar, and the path has the
segments that are written. It can be written in one way only. -/
theorem parse_iff_derives (text : String) :
    ((∃ path, parse text = .ok path) ↔ Nonempty (Derivation text)) ∧
      (∀ derivation other : Derivation text, derivation = other) ∧
      ∀ derivation : Derivation text, ∃ path, parse text = .ok path ∧
        path.segments = (derivation.first :: derivation.later).map Spelling.segment := by
  refine ⟨⟨?_, ?_⟩, Derivation.unique, ?_⟩
  · rintro ⟨path, read⟩
    obtain ⟨derivation, -⟩ := Derivation.exists_of_parse read
    exact ⟨derivation⟩
  · rintro ⟨derivation⟩
    exact ⟨derivation.path, derivation.parse_eq⟩
  · intro derivation
    exact ⟨derivation.path, derivation.parse_eq, rfl⟩

end PropertyPath

end PropertyGraph
