import PropertyGraph.Proofs.Path.Grammar

/-!
# Reading paths by bytes

A second reader of paths, which goes through the bytes of a text. It looks at single bytes, scans
for characters from a byte on, and takes out the parts of the text between two bytes; where one of
the two is inside a character there is no such part, and nothing is read at all.

It is the reader of paths nevertheless (`readBytes_eq_parse`): a byte that it stops at is the only
one of its character, and all its places are behind whole characters of the text.
-/
namespace PropertyGraph

namespace Text

/-! ## Parts of a text -/

/-- The text from a place on, if the place is between two characters or at an end. -/
def from? (text : String) (place : Nat) : Option String :=
  if valid : (⟨place⟩ : String.Pos.Raw).IsValid text then
    some (text.sliceFrom (text.pos ⟨place⟩ valid)).copy
  else none

/-- The text up to a place, if the place is between two characters or at an end. -/
def upTo? (text : String) (place : Nat) : Option String :=
  if valid : (⟨place⟩ : String.Pos.Raw).IsValid text then
    some (text.sliceTo (text.pos ⟨place⟩ valid)).copy
  else none

/-- The byte at a place. -/
def byteAt? (text : String) (place : Nat) : Option UInt8 :=
  text.toByteArray.data.toList[place]?

/-- The place of the first character that passes a test. -/
def placeOf? (test : Char → Bool) (text : String) : Option Nat :=
  (text.find? test).map (·.offset.byteIdx)

end Text

open PropertyPath (byteSize byteSize_append)

section

variable {front rest chars : List Char} {char : Char} {test : Char → Bool}

/-- A text has as many bytes as its characters have. -/
theorem utf8ByteSize_ofList (chars : List Char) :
    (String.ofList chars).utf8ByteSize = byteSize chars := by
  induction chars with
  | nil => rfl
  | cons char chars ih =>
    rw [String.ofList_cons, String.utf8ByteSize_append, String.utf8ByteSize_singleton, ih, byteSize]

/-- Behind whole characters there is a position, which parts them from the others. -/
theorem exists_valid (front rest : List Char) :
    ∃ valid : (⟨byteSize front⟩ : String.Pos.Raw).IsValid (String.ofList (front ++ rest)),
      ((String.ofList (front ++ rest)).pos _ valid).Splits (String.ofList front)
        (String.ofList rest) := by
  have place : (⟨byteSize front⟩ : String.Pos.Raw) = (String.ofList front).rawEndPos := by
    rw [← utf8ByteSize_ofList]
    rfl
  have valid := String.Pos.Raw.isValid_iff_exists_append.2
    ⟨String.ofList front, String.ofList rest, String.ofList_append, place⟩
  exact ⟨valid, String.ofList_append, place⟩

namespace Text

/-- The text from behind its first characters on. -/
theorem from?_append (front rest : List Char) :
    from? (String.ofList (front ++ rest)) (byteSize front) = some (String.ofList rest) := by
  obtain ⟨valid, splits⟩ := exists_valid front rest
  rw [from?, dif_pos valid, (String.Pos.splits _).eq_right splits]

/-- Inside a character no text begins. -/
example : from? "ä." 2 = some "." ∧ from? "ä." 1 = none := by decide +kernel

/-- The text of its first characters. -/
theorem upTo?_append (front rest : List Char) :
    upTo? (String.ofList (front ++ rest)) (byteSize front) = some (String.ofList front) := by
  obtain ⟨valid, splits⟩ := exists_valid front rest
  rw [upTo?, dif_pos valid, (String.Pos.splits _).eq_left splits]

/-- Behind the first characters stands the first byte of the next one. -/
theorem byteAt?_append (front rest : List Char) :
    byteAt? (String.ofList (front ++ rest)) (byteSize front) =
      rest.head?.bind fun char => (String.utf8EncodeChar char).head? := by
  have size : (front.flatMap String.utf8EncodeChar).length = byteSize front := by
    induction front with
    | nil => rfl
    | cons char front ih =>
      rw [List.flatMap_cons, List.length_append, String.length_utf8EncodeChar, ih, byteSize]
  rw [byteAt?, String.toByteArray_ofList, List.utf8Encode, List.data_toByteArray,
    List.flatMap_append, List.getElem?_append_right (Nat.le_of_eq size), size, Nat.sub_self]
  cases rest with
  | nil => rfl
  | cons char rest =>
    have nonempty : 0 < (String.utf8EncodeChar char).length := by
      rw [String.length_utf8EncodeChar]
      exact char.utf8Size_pos
    rw [List.flatMap_cons, List.getElem?_append_left nonempty, ← List.head?_eq_getElem?]
    rfl

/-- A character of one byte is told by the first byte. -/
theorem head?_utf8EncodeChar_iff {ascii : Char} (small : ascii.toNat < 128) :
    (String.utf8EncodeChar char).head? = some ascii.toUInt8 ↔ char = ascii := by
  have byte : ascii.toUInt8.toNat = ascii.toNat :=
    (UInt32.toNat_toUInt8 _).trans (Nat.mod_eq_of_lt (Nat.lt_of_lt_of_le small (by decide)))
  constructor
  · intro same
    have value : char.val.toNat = ascii.toNat := by
      revert same
      fun_cases String.utf8EncodeChar char
      all_goals
        intro same
        have same := congrArg UInt8.toNat (Option.some.inj same)
        rw [byte, UInt8.toNat_ofNat'] at same
        omega
    exact Char.ext (UInt32.toNat_inj.1 value)
  · rintro rfl
    rw [String.utf8EncodeChar_eq_singleton
      (Char.utf8Size_eq_one_iff.2 (UInt32.le_iff_toNat_le.2 (Nat.le_of_lt_succ small)))]
    rfl

/-- The first character that passes a test stands behind those that do not. -/
theorem placeOf?_append (failing : ∀ char ∈ front, test char = false) (passes : test char = true)
    (rest : List Char) :
    placeOf? test (String.ofList (front ++ char :: rest)) = some (byteSize front) := by
  obtain ⟨valid, splits⟩ := exists_valid front (char :: rest)
  have found : (String.ofList (front ++ char :: rest)).find? test =
      some ((String.ofList (front ++ char :: rest)).pos _ valid) := by
    refine String.find?_bool_eq_some_iff_splits.2 ⟨String.ofList front, char, String.ofList rest,
      String.ofList_cons ▸ splits, passes, ?_⟩
    rwa [String.toList_ofList]
  rw [placeOf?, found]
  rfl

/-- Where no character passes a test, none is found. -/
theorem placeOf?_eq_none (failing : ∀ char ∈ chars, test char = false) :
    placeOf? test (String.ofList chars) = none := by
  rw [placeOf?, Option.map_eq_none_iff]
  refine Option.eq_none_iff_forall_ne_some.2 fun pos found => ?_
  obtain ⟨before, char, behind, splits, passes, -⟩ := String.find?_bool_eq_some_iff_splits.1 found
  have among : char ∈ (String.ofList chars).toList := by
    rw [splits.eq_append]
    simp
  rw [String.toList_ofList] at among
  rw [failing char among] at passes
  cases passes

/-- A byte that is there is before the end. -/
theorem lt_of_byteAt? {text : String} {place : Nat} {byte : UInt8}
    (found : byteAt? text place = some byte) : place < text.utf8ByteSize := by
  obtain ⟨inside, -⟩ := List.getElem?_eq_some_iff.1 found
  rwa [Array.length_toList, ByteArray.size_data, String.size_toByteArray] at inside

/-- Behind all characters there is no byte. -/
theorem byteAt?_end (front : List Char) :
    byteAt? (String.ofList front) (byteSize front) = none := by
  simpa using byteAt?_append front []

/-- The byte behind the first characters tells whether the next one is some ASCII character. -/
theorem exists_byteAt? (front : List Char) (char : Char) (rest : List Char) :
    ∃ byte, byteAt? (String.ofList (front ++ char :: rest)) (byteSize front) = some byte ∧
      ∀ ascii : Char, ascii.toNat < 128 → (byte = ascii.toUInt8 ↔ char = ascii) := by
  have nonempty : String.utf8EncodeChar char ≠ [] := by
    rw [← List.length_pos_iff, String.length_utf8EncodeChar]
    exact char.utf8Size_pos
  obtain ⟨byte, bytes, encoded⟩ := List.exists_cons_of_ne_nil nonempty
  refine ⟨byte, ?_, fun ascii small => ?_⟩
  · rw [byteAt?_append, List.head?_cons, Option.bind_some, encoded, List.head?_cons]
  · rw [← head?_utf8EncodeChar_iff small, encoded, List.head?_cons, Option.some_inj]

end Text

end

namespace PropertyPath

/-! ## Readers -/

/-- A reader by bytes. It yields nothing at all where a part of the text that it takes out would
begin or end inside a character. -/
abbrev Reading := ExceptT Fault Option

/-- A segment that was read from a place on. -/
structure Piece (start : Nat) where
  /-- The segment. -/
  segment : Segment
  /-- The place behind it. -/
  stop : Nat
  /-- Some bytes were read. -/
  after : start < stop

/-- Reads a name from a place on. -/
def nameAt (text : String) (start : Nat) : Reading (Piece start) := do
  let rest ← Text.from? text start
  let length := (Text.placeOf? endsName rest).getD rest.utf8ByteSize
  if empty : length = 0 then
    throw (start, .emptySegment)
  else
    let label ← Text.upTo? rest length
    return ⟨.name label, start + length, Nat.lt_add_of_pos_right (Nat.pos_of_ne_zero empty)⟩

/-- Reads a key without quotes, whose bracket is at a place. -/
def bareKeyAt (text : String) (opening : Nat) : Reading (Piece opening) := do
  let rest ← Text.from? text (opening + 1)
  match Text.placeOf? (· == ']') rest with
  | none => throw (opening, .unclosedBracket)
  | some length =>
    let key ← Text.upTo? rest length
    match Text.placeOf? (· == '[') key with
    | none =>
      if length = 0 then
        throw (opening, .emptyKey)
      else
        return ⟨.key key false, opening + (length + 2), Nat.lt_add_of_pos_right (Nat.succ_pos _)⟩
    | some nested => throw (opening + 1 + nested, .nestedBracket)

/-- Reads a key between quotes, whose bracket is at a place. -/
def quotedKeyAt (text : String) (opening : Nat) (quote : Char) : Reading (Piece opening) := do
  let body := opening + 2
  let rest ← Text.from? text body
  match Text.placeOf? (· == quote) rest with
  | none => throw (opening + 1, .unterminatedQuote)
  | some length =>
    if length = 0 then
      throw (opening, .emptyKey)
    else
      let closing := body + length
      match Text.byteAt? text (closing + 1) with
      | none => throw (opening, .unclosedBracket)
      | some byte =>
        if byte = ']'.toUInt8 then
          let front ← Text.upTo? text closing
          let key ← Text.from? front body
          return ⟨.key key true, opening + (length + 4), Nat.lt_add_of_pos_right (Nat.succ_pos _)⟩
        else
          throw (closing + 1, .textAfterQuote)

/-- Reads a key, whose bracket is at a place. -/
def keyAt (text : String) (opening : Nat) : Reading (Piece opening) :=
  match Text.byteAt? text (opening + 1) with
  | none => throw (opening, .unclosedBracket)
  | some byte =>
    if byte = '\''.toUInt8 then quotedKeyAt text opening '\''
    else if byte = '"'.toUInt8 then quotedKeyAt text opening '"'
    else bareKeyAt text opening

/-- Reads the segments from a place on. -/
def laterAt (text : String) (place : Nat) : Reading (List Segment) :=
  match found : Text.byteAt? text place with
  | none => pure []
  | some byte =>
    if byte = '.'.toUInt8 then do
      let piece ← nameAt text (place + 1)
      let later ← laterAt text piece.stop
      return piece.segment :: later
    else if byte = '['.toUInt8 then do
      let piece ← keyAt text place
      let later ← laterAt text piece.stop
      return piece.segment :: later
    else if byte = ']'.toUInt8 then throw (place, .strayBracket)
    else throw (place, .missingSeparator)
termination_by text.utf8ByteSize - place
decreasing_by
  all_goals
    have inside := Text.lt_of_byteAt? found
    have after := piece.after
    omega

/-- Reads the first segment. -/
def firstAt (text : String) : Reading (Piece 0) :=
  if text.utf8ByteSize = 0 then throw (0, .emptyPath)
  else if Text.byteAt? text 0 = some '['.toUInt8 then keyAt text 0
  else nameAt text 0

/-- Reads the segments of a path. -/
def pathAt (text : String) : Reading PropertyPath := do
  let piece ← firstAt text
  let later ← laterAt text piece.stop
  return ⟨piece.segment, later⟩

/-- Reads a path by the bytes of its text. -/
def readBytes (text : String) : Option (Except ParseError PropertyPath) :=
  (pathAt text).run.map (·.mapError fun (offset, fault) => ⟨offset, text, fault⟩)

/-! ## Scans -/

section

variable {chars rest : List Char} {offset start : Nat} {quote : Char} {chunk : Chunk}

/-- Every character has bytes. -/
theorem byteSize_eq_zero_iff : byteSize chars = 0 ↔ chars = [] := by
  cases chars with
  | nil => simp [byteSize]
  | cons char chars => simp [byteSize, char.utf8Size_pos.ne']

/-- A character of one byte makes a text one byte longer. -/
theorem byteSize_concat (front : List Char) {char : Char} (one : char.utf8Size = 1) :
    byteSize (front ++ [char]) = byteSize front + 1 := by
  rw [byteSize_append, byteSize, one, byteSize]

/-- The characters up to one that passes a test, and the place of that one. -/
theorem scan_ofList (test : Char → Bool) (chars : List Char) :
    Text.placeOf? test (String.ofList chars) =
      if chars.dropWhile (!test ·) = [] then none
      else some (byteSize (chars.takeWhile (!test ·))) := by
  have failing : ∀ char ∈ chars.takeWhile (!test ·), test char = false := fun char among => by
    simpa using List.mem_takeWhile_imp among
  have split : chars.takeWhile (!test ·) ++ chars.dropWhile (!test ·) = chars :=
    List.takeWhile_append_dropWhile
  cases behind : chars.dropWhile (!test ·) with
  | nil =>
    rw [behind, List.append_nil] at split
    rw [if_pos rfl]
    exact Text.placeOf?_eq_none (split ▸ failing)
  | cons char rest =>
    have nonempty : chars.dropWhile (!test ·) ≠ [] := by simp [behind]
    have stopped := List.head_dropWhile_not (!test ·) nonempty
    have passes : test char = true := by simpa [behind] using stopped
    rw [if_neg (List.cons_ne_nil _ _), ← Text.placeOf?_append failing passes rest, ← behind, split]

/-- A scan for a character goes to the end exactly if the character is not there. -/
theorem dropWhile_eq_nil_iff {stop : Char} :
    chars.dropWhile (· != stop) = [] ↔ stop ∉ chars := by
  rw [List.dropWhile_eq_nil_iff]
  constructor
  · intro others among
    simpa using others stop among
  · intro missing char among
    simpa using ne_of_mem_of_not_mem among missing

/-- What is found by dropping all else is there. -/
theorem mem_of_dropWhile {stop char : Char} (found : chars.dropWhile (· != stop) = char :: rest) :
    stop ∈ chars := by
  by_contra missing
  rw [dropWhile_eq_nil_iff.2 missing] at found
  cases found

/-- Where a character stands first, if it is there. -/
theorem scan_stop (stop : Char) (chars : List Char) :
    Text.placeOf? (· == stop) (String.ofList chars) =
      if stop ∈ chars then some (byteSize (chars.takeWhile (· != stop))) else none := by
  have scan : Text.placeOf? (· == stop) (String.ofList chars) =
      if chars.dropWhile (· != stop) = [] then none
      else some (byteSize (chars.takeWhile (· != stop))) := scan_ofList (· == stop) chars
  simp only [scan, dropWhile_eq_nil_iff, ite_not]

/-! ## Segments -/

/-- A part of the text that is there is taken out. -/
theorem liftM_some_bind {α β : Type} (value : α) (next : α → Reading β) :
    (liftM (some value) >>= next : Reading β) = next value := rfl

/-- By bytes, the segment is read that was read by characters, or the same fault is found. -/
def Agrees (reading : Reading (Piece start)) : Except Fault Chunk → Prop
  | .error fault => reading = throw fault
  | .ok chunk => ∃ piece : Piece start, reading = pure piece ∧ piece.segment = chunk.segment ∧
    piece.stop = start + chunk.size

/-- A name is read by bytes as it is by characters. -/
theorem nameAt_agrees (front chars : List Char) :
    Agrees (nameAt (String.ofList (front ++ chars)) (byteSize front))
      (readName (byteSize front) chars) := by
  have split : chars.takeWhile (!endsName ·) ++ chars.dropWhile (!endsName ·) = chars :=
    List.takeWhile_append_dropWhile
  have length : (Text.placeOf? endsName (String.ofList chars)).getD
      (String.ofList chars).utf8ByteSize = byteSize (chars.takeWhile (!endsName ·)) := by
    rw [scan_ofList, utf8ByteSize_ofList]
    split
    · next behind =>
      rw [behind, List.append_nil] at split
      rw [split, Option.getD_none]
    · rfl
  unfold nameAt readName
  simp only [Text.from?_append, liftM_some_bind, length, byteSize_eq_zero_iff, List.isEmpty_iff]
  split
  · rfl
  · have label := Text.upTo?_append (chars.takeWhile (!endsName ·)) (chars.dropWhile (!endsName ·))
    rw [split] at label
    simp only [label, liftM_some_bind]
    exact ⟨_, rfl, rfl, rfl⟩

/-- A bare key is read by bytes as it is by characters. -/
theorem bareKeyAt_agrees (front chars : List Char) :
    Agrees (bareKeyAt (String.ofList (front ++ '[' :: chars)) (byteSize front))
      (readBareKey (byteSize front) chars) := by
  have rest := Text.from?_append (front ++ ['[']) chars
  rw [byteSize_concat front rfl, ← List.append_cons] at rest
  simp only [bareKeyAt, readBareKey, rest, liftM_some_bind, scan_stop]
  cases behind : chars.dropWhile (· != ']') with
  | nil =>
    rw [if_neg (dropWhile_eq_nil_iff.1 behind)]
    rfl
  | cons char later =>
    obtain ⟨split, -⟩ := eq_append_of_dropWhile behind
    have key := Text.upTo?_append (chars.takeWhile (· != ']')) (']' :: later)
    rw [← split] at key
    simp only [if_pos (mem_of_dropWhile behind), key, liftM_some_bind, scan_stop,
      byteSize_eq_zero_iff, List.isEmpty_iff, List.contains_iff_mem]
    by_cases nested : '[' ∈ chars.takeWhile (· != ']')
    · simp only [if_pos nested]
      rfl
    · simp only [if_neg nested]
      split
      · rfl
      · exact ⟨_, rfl, rfl, rfl⟩

/-- A quoted key is read by bytes as it is by characters. -/
theorem quotedKeyAt_agrees (front chars : List Char) (one : quote.utf8Size = 1) :
    Agrees (quotedKeyAt (String.ofList (front ++ '[' :: quote :: chars)) (byteSize front) quote)
      (readQuotedKey (byteSize front) quote chars) := by
  obtain ⟨opened, text, body⟩ : ∃ opened, front ++ '[' :: quote :: chars = opened ++ chars ∧
      byteSize opened = byteSize front + 2 :=
    ⟨front ++ ['['] ++ [quote], by simp, by rw [byteSize_concat _ one, byteSize_concat front rfl]⟩
  have rest := Text.from?_append opened chars
  rw [body] at rest
  simp only [quotedKeyAt, readQuotedKey, text, rest, liftM_some_bind, scan_stop]
  cases behind : chars.dropWhile (· != quote) with
  | nil =>
    rw [if_neg (dropWhile_eq_nil_iff.1 behind)]
    rfl
  | cons char later =>
    obtain ⟨split, -⟩ := eq_append_of_dropWhile behind
    simp only [if_pos (mem_of_dropWhile behind), byteSize_eq_zero_iff, List.isEmpty_iff]
    generalize chars.takeWhile (· != quote) = key at split ⊢
    have place : byteSize (opened ++ key) = byteSize front + 2 + byteSize key := by
      rw [byteSize_append, body]
    have closing : byteSize (opened ++ key ++ [quote]) = byteSize front + 2 + byteSize key + 1 := by
      rw [byteSize_concat _ one, place]
    have whole : opened ++ chars = opened ++ key ++ [quote] ++ later := by simp [split]
    -- The character behind the second quote decides; it is looked up by its first byte.
    split
    · rfl
    · cases later with
      | nil =>
        have ends := Text.byteAt?_end (opened ++ key ++ [quote])
        rw [closing] at ends
        simp only [whole, List.append_nil, ends]
        rfl
      | cons next later =>
        obtain ⟨byte, there, tells⟩ := Text.exists_byteAt? (opened ++ key ++ [quote]) next later
        have front' := Text.upTo?_append (opened ++ key) (quote :: next :: later)
        have key' := Text.from?_append opened key
        rw [closing] at there
        rw [place, List.append_cons] at front'
        rw [body] at key'
        simp only [whole, there, tells ']' (by decide)]
        by_cases bracket : next = ']'
        · subst bracket
          simp only [if_pos, front', key', liftM_some_bind]
          exact ⟨_, rfl, rfl, rfl⟩
        · simp only [if_neg bracket]
          split
          · next same => exact absurd (List.cons.inj same).1 bracket
          · next same => cases same
          · exact congrArg (fun place => throw (place, PathFault.textAfterQuote)) (by omega)

/-- A key of either kind is read by bytes as it is by characters. -/
theorem keyAt_agrees (front chars : List Char) :
    Agrees (keyAt (String.ofList (front ++ '[' :: chars)) (byteSize front))
      (readKey (byteSize front) chars) := by
  cases chars with
  | nil =>
    have ends := Text.byteAt?_end (front ++ ['['])
    rw [byteSize_concat front rfl] at ends
    simp only [keyAt, ends]
    rfl
  | cons next later =>
    obtain ⟨byte, there, tells⟩ := Text.exists_byteAt? (front ++ ['[']) next later
    rw [byteSize_concat front rfl, ← List.append_cons] at there
    simp only [keyAt, there, tells '\'' (by decide), tells '"' (by decide)]
    by_cases apostrophe : next = '\''
    · subst apostrophe
      rw [if_pos rfl]
      exact quotedKeyAt_agrees front later rfl
    · rw [if_neg apostrophe]
      by_cases quote : next = '"'
      · subst quote
        rw [if_pos rfl]
        exact quotedKeyAt_agrees front later rfl
      · rw [if_neg quote, readKey_of_unquoted (by simp [apostrophe, quote])]
        exact bareKeyAt_agrees front (next :: later)

/-- A name that was read takes the bytes of its characters. -/
theorem exists_chunkOf_of_readName (read : readName offset chars = .ok chunk) :
    ∃ (spelling : Spelling) (rest : List Char), chars = spelling.chars ++ rest ∧
      spelling.laterChars = '.' :: spelling.chars ∧ chunk = chunkOf spelling rest := by
  obtain ⟨label, nonempty, plain, split, -⟩ := exists_name_of_readName read
  simp only [readName] at read
  split at read
  · cases read
  · obtain rfl := Except.ok.inj read
    obtain rfl : chars.takeWhile (!endsName ·) = label :=
      List.append_cancel_right (List.takeWhile_append_dropWhile.trans split)
    exact ⟨.name _ nonempty plain, _, split, rfl, rfl⟩

/-- A key that was read takes the bytes of its characters, brackets included. -/
theorem exists_chunkOf_of_readKey (read : readKey offset chars = .ok chunk) :
    ∃ (spelling : Spelling) (rest : List Char), '[' :: chars = spelling.chars ++ rest ∧
      spelling.laterChars = spelling.chars ∧ chunk = chunkOf spelling rest := by
  obtain ⟨spelling, split, isKey, -⟩ := exists_spelling_of_readKey read
  obtain ⟨key, written⟩ : ∃ key, spelling.chars = '[' :: key := by
    cases spelling with
    | name label => simp [Spelling.laterChars, Spelling.chars] at isKey
    | bareKey key => exact ⟨key ++ [']'], rfl⟩
    | quotedKey quote key => exact ⟨quote :: key ++ [quote, ']'], rfl⟩
  rw [isKey] at split
  have behind : chars = key ++ chunk.rest := by
    rw [written, List.cons_append] at split
    exact List.tail_eq_of_cons_eq split
  have again := readKey_of_spelling offset chunk.rest written
  rw [← behind, read] at again
  exact ⟨spelling, chunk.rest, split, isKey, Except.ok.inj again⟩

/-- The first segment takes the bytes of its characters. -/
theorem exists_chunkOf_of_readFirst (read : readFirst chars = .ok chunk) :
    ∃ (spelling : Spelling) (rest : List Char), chars = spelling.chars ++ rest ∧
      chunk = chunkOf spelling rest := by
  unfold readFirst at read
  split at read
  · cases read
  · obtain ⟨spelling, rest, split, -, made⟩ := exists_chunkOf_of_readKey read
    exact ⟨spelling, rest, split, made⟩
  · obtain ⟨spelling, rest, split, -, made⟩ := exists_chunkOf_of_readName read
    exact ⟨spelling, rest, split, made⟩

/-! ## Paths -/

/-- Where the end is reached, no more segments are read. -/
theorem laterAt_end (front : List Char) :
    laterAt (String.ofList front) (byteSize front) = pure [] := by
  rw [laterAt]
  split
  · rfl
  · next found =>
    rw [Text.byteAt?_end] at found
    cases found

/-- How the segments behind a place are read is told by the character there. -/
theorem laterAt_cons (front : List Char) (char : Char) (rest : List Char) :
    laterAt (String.ofList (front ++ char :: rest)) (byteSize front) =
      if char = '.' then do
        let piece ← nameAt (String.ofList (front ++ char :: rest)) (byteSize front + 1)
        let later ← laterAt (String.ofList (front ++ char :: rest)) piece.stop
        return piece.segment :: later
      else if char = '[' then do
        let piece ← keyAt (String.ofList (front ++ char :: rest)) (byteSize front)
        let later ← laterAt (String.ofList (front ++ char :: rest)) piece.stop
        return piece.segment :: later
      else if char = ']' then throw (byteSize front, .strayBracket)
      else throw (byteSize front, .missingSeparator) := by
  obtain ⟨byte, there, tells⟩ := Text.exists_byteAt? front char rest
  rw [laterAt]
  split
  · next missing =>
    rw [there] at missing
    cases missing
  · next found =>
    obtain rfl := Option.some.inj (there.symm.trans found)
    simp only [tells '.' (by decide), tells '[' (by decide), tells ']' (by decide)]

/-- A segment is read, and then those behind it. -/
theorem bind_agrees {α : Type} {text : String} {reading : Reading (Piece start)}
    {read : Except Fault Chunk} (further : Chunk → Except Fault (List Segment))
    (combine : Segment → List Segment → α) (agrees : Agrees reading read)
    (furtherAgrees : ∀ chunk, read = .ok chunk →
      laterAt text (start + chunk.size) = ExceptT.mk (some (further chunk))) :
    (do
      let piece ← reading
      let later ← laterAt text piece.stop
      return combine piece.segment later) =
      ExceptT.mk (some (read.bind fun chunk => (further chunk).map (combine chunk.segment))) := by
  cases read with
  | error fault =>
    rw [show reading = throw fault from agrees]
    rfl
  | ok chunk =>
    obtain ⟨piece, rfl, segment, stop⟩ := agrees
    rw [pure_bind, stop, furtherAgrees chunk rfl, segment]
    change _ = ExceptT.mk (some ((further chunk).map (combine chunk.segment)))
    cases further chunk <;> rfl

/-- The segments behind the first characters are those that are read by characters. By induction on
what is read, each segment of which moves into the front. -/
theorem laterAt_eq (front chars : List Char) :
    laterAt (String.ofList (front ++ chars)) (byteSize front) =
      ExceptT.mk (some (readLater (byteSize front) chars)) := by
  generalize place : byteSize front = offset
  fun_induction readLater offset chars generalizing front with
  | case1 =>
    rw [← place, List.append_nil, laterAt_end]
    rfl
  | case2 offset rest fault read =>
    have agrees := nameAt_agrees (front ++ ['.']) rest
    rw [← List.append_cons, byteSize_concat front rfl, place, read] at agrees
    rw [← place, laterAt_cons, if_pos rfl, place]
    exact bind_agrees (fun _ => .ok []) _ agrees fun chunk done => by cases done
  | case3 offset rest chunk read _ ih =>
    have agrees := nameAt_agrees (front ++ ['.']) rest
    rw [← List.append_cons, byteSize_concat front rfl, place, read] at agrees
    rw [← place, laterAt_cons, if_pos rfl, place]
    refine bind_agrees (fun chunk => readLater (offset + 1 + chunk.size) chunk.rest) _ agrees
      fun chunk done => ?_
    obtain rfl := Except.ok.inj done
    obtain ⟨spelling, later, split, -, rfl⟩ := exists_chunkOf_of_readName read
    have behind := ih (front ++ ['.'] ++ spelling.chars)
      (by rw [byteSize_append, byteSize_concat front rfl, place]; rfl)
    rwa [List.append_assoc, chunkOf, ← split, ← List.append_cons] at behind
  | case4 offset rest fault read =>
    have agrees := keyAt_agrees front rest
    rw [place, read] at agrees
    rw [← place, laterAt_cons, if_neg (by decide), if_pos rfl, place]
    exact bind_agrees (fun _ => .ok []) _ agrees fun chunk done => by cases done
  | case5 offset rest chunk read _ ih =>
    have agrees := keyAt_agrees front rest
    rw [place, read] at agrees
    rw [← place, laterAt_cons, if_neg (by decide), if_pos rfl, place]
    refine bind_agrees (fun chunk => readLater (offset + chunk.size) chunk.rest) _ agrees
      fun chunk done => ?_
    obtain rfl := Except.ok.inj done
    obtain ⟨spelling, later, split, -, rfl⟩ := exists_chunkOf_of_readKey read
    have behind := ih (front ++ spelling.chars) (by rw [byteSize_append, place]; rfl)
    rwa [List.append_assoc, chunkOf, ← split] at behind
  | case6 offset rest =>
    rw [← place, laterAt_cons]
    rfl
  | case7 offset chars noEnd noPoint noOpening noClosing =>
    obtain ⟨char, rest, rfl⟩ := List.exists_cons_of_ne_nil noEnd
    have noStop : char ≠ '.' ∧ char ≠ '[' ∧ char ≠ ']' := by
      refine ⟨?_, ?_, ?_⟩
      · rintro rfl
        exact noPoint rest rfl
      · rintro rfl
        exact noOpening rest rfl
      · rintro rfl
        exact noClosing rest rfl
    rw [← place, laterAt_cons, if_neg noStop.1, if_neg noStop.2.1, if_neg noStop.2.2]
    rfl

/-- The first segment is read by bytes as it is by characters. -/
theorem firstAt_agrees (chars : List Char) :
    Agrees (firstAt (String.ofList chars)) (readFirst chars) := by
  rw [firstAt, utf8ByteSize_ofList]
  cases chars with
  | nil => rfl
  | cons char rest =>
    have nonempty : byteSize (char :: rest) ≠ 0 := by
      rw [Ne, byteSize_eq_zero_iff]
      exact List.cons_ne_nil char rest
    obtain ⟨byte, there, tells⟩ := Text.exists_byteAt? [] char rest
    change Text.byteAt? (String.ofList (char :: rest)) 0 = some byte at there
    simp only [if_neg nonempty, there, Option.some_inj, tells '[' (by decide)]
    by_cases opening : char = '['
    · subst opening
      rw [if_pos rfl]
      exact keyAt_agrees [] rest
    · have isName : readFirst (char :: rest) = readName 0 (char :: rest) := by
        simp [readFirst, opening]
      rw [if_neg opening, isName]
      exact nameAt_agrees [] (char :: rest)

/-- The reader by bytes reads every text as the reader by characters does. It takes no part out of
the text that begins or ends inside a character. -/
theorem readBytes_eq_parse (text : String) : readBytes text = some (parse text) := by
  obtain ⟨chars, rfl⟩ : ∃ chars, text = String.ofList chars := ⟨text.toList, by simp⟩
  have path : pathAt (String.ofList chars) = ExceptT.mk (some (ofChars chars)) := by
    refine bind_agrees (fun chunk => readLater chunk.size chunk.rest) _ (firstAt_agrees chars)
      fun chunk read => ?_
    obtain ⟨spelling, rest, split, rfl⟩ := exists_chunkOf_of_readFirst read
    have behind := laterAt_eq spelling.chars rest
    rw [← split] at behind
    rwa [Nat.zero_add]
  rw [readBytes, path, parse, String.toList_ofList]
  rfl

end

end PropertyPath

end PropertyGraph
