import PropertyGraph.Proofs.Path.Bytes

/-!
# Where a text fails to be a path

The place of a fault is behind a front of the text that begins some path: what stands before it can
be completed. A fault at the bracket of a key leaves the segments in front of it, and any key may
follow them; a fault inside the brackets leaves the characters before it, to which an `a` and the
closing bracket can be added, or the closing bracket alone behind a quote.
-/
namespace PropertyGraph

namespace Spelling

/-- The shortest name. -/
def someName : Spelling :=
  .name ['a'] (by simp) (by simp)

/-- The shortest key. -/
def someKey : Spelling :=
  .bareKey ['a'] (by simp) (by simp) (by simp)

end Spelling

namespace PropertyPath

/-- The place of a fault, counted from an offset on, is behind a front of the characters, of which
something holds. -/
def PointsBehind (holds : List Char → Prop) (offset : Nat) (chars : List Char) (fault : Fault) :
    Prop :=
  ∃ front back, chars = front ++ back ∧ fault.1 = offset + byteSize front ∧ holds front

/-- A key begins so. -/
def BeginsKey (front : List Char) : Prop :=
  ∃ spelling : Spelling, spelling.laterChars = spelling.chars ∧ front <+: spelling.chars

/-- The segments behind the first begin so. -/
def BeginsLater (front : List Char) : Prop :=
  ∃ later : List Spelling, front <+: later.flatMap Spelling.laterChars

/-- A path begins so. -/
def BeginsPath (front : List Char) : Prop :=
  ∃ (first : Spelling) (later : List Spelling),
    front <+: first.chars ++ later.flatMap Spelling.laterChars

section

variable {holds holds' : List Char → Prop} {offset : Nat} {front chars rest : List Char}
  {quote : Char} {fault : Fault}

/-- What holds of the characters before a fault may be told more weakly. -/
theorem PointsBehind.mono (points : PointsBehind holds offset chars fault)
    (widens : ∀ front, holds front → holds' front) : PointsBehind holds' offset chars fault := by
  obtain ⟨front, back, split, place, held⟩ := points
  exact ⟨front, back, split, place, widens front held⟩

/-- A fault at the offset itself is behind nothing. -/
theorem PointsBehind.nothing (held : holds []) (kind : PathFault) :
    PointsBehind holds offset chars (offset, kind) :=
  ⟨[], chars, rfl, rfl, held⟩

/-- A fault behind characters that come after others. -/
theorem PointsBehind.append (points : PointsBehind holds (offset + byteSize front) chars fault)
    (extended : ∀ further, holds further → holds' (front ++ further)) :
    PointsBehind holds' offset (front ++ chars) fault := by
  obtain ⟨further, back, rfl, place, held⟩ := points
  refine ⟨front ++ further, back, (List.append_assoc ..).symm, ?_, extended further held⟩
  rw [place, byteSize_append, Nat.add_assoc]

/-- Nothing begins a key. -/
theorem beginsKey_nil : BeginsKey [] :=
  ⟨.someKey, rfl, List.nil_prefix⟩

/-- What begins a key begins the segments behind the first. -/
theorem BeginsKey.beginsLater (begins : BeginsKey front) : BeginsLater front := by
  obtain ⟨spelling, isKey, completes⟩ := begins
  refine ⟨[spelling], ?_⟩
  rwa [List.flatMap_singleton, isKey]

/-- What begins a key begins a path. -/
theorem BeginsKey.beginsPath (begins : BeginsKey front) : BeginsPath front := by
  obtain ⟨spelling, -, completes⟩ := begins
  exact ⟨spelling, [], by rwa [List.flatMap_nil, List.append_nil]⟩

/-- A segment may be followed by others. -/
theorem BeginsLater.cons (begins : BeginsLater front) (spelling : Spelling) :
    BeginsLater (spelling.laterChars ++ front) := by
  obtain ⟨later, completes⟩ := begins
  refine ⟨spelling :: later, ?_⟩
  rw [List.flatMap_cons]
  exact (List.prefix_append_right_inj _).2 completes

/-! ## Faults of a segment -/

/-- A name fails only by being empty, at its start. -/
theorem readName_eq_error (failed : readName offset chars = .error fault) :
    fault = (offset, .emptySegment) := by
  simp only [readName] at failed
  split at failed
  · exact (Except.error.inj failed).symm
  · cases failed

/-- A bracket inside a key is behind characters that a key may begin with. -/
theorem beginsKey_of_plain (plain : ∀ char ∈ front, char ≠ '[' ∧ char ≠ ']')
    (unquoted : front.head? ≠ some '\'' ∧ front.head? ≠ some '"') : BeginsKey ('[' :: front) := by
  refine ⟨.bareKey (front ++ ['a']) (by simp) ?_ ?_, rfl, ⟨['a', ']'], ?_⟩⟩
  · intro char among
    rcases List.mem_append.1 among with among | among
    · exact plain char among
    · obtain rfl := List.mem_singleton.1 among
      decide
  · cases front with
    | nil => decide
    | cons first front => exact unquoted
  · simp [Spelling.chars]

/-- A fault in a bare key is behind characters that begin a key. -/
theorem readBareKey_pointsBehind (unquoted : chars.head? ≠ some '\'' ∧ chars.head? ≠ some '"')
    (failed : readBareKey offset chars = .error fault) :
    PointsBehind BeginsKey offset ('[' :: chars) fault := by
  simp only [readBareKey] at failed
  split at failed
  · obtain rfl := Except.error.inj failed
    exact .nothing beginsKey_nil _
  · next char rest closes =>
    obtain ⟨split, closed⟩ := eq_append_of_dropWhile closes
    generalize chars.takeWhile (· != ']') = key at failed split closed
    split at failed
    · obtain rfl := Except.error.inj failed
      have parts : key.takeWhile (· != '[') ++ key.dropWhile (· != '[') = key :=
        List.takeWhile_append_dropWhile
      have plain : ∀ char ∈ key.takeWhile (· != '['), char ≠ '[' ∧ char ≠ ']' := fun char among =>
        ⟨by simpa using List.mem_takeWhile_imp among,
          ne_of_mem_of_not_mem ((List.takeWhile_sublist _).subset among) closed⟩
      generalize key.takeWhile (· != '[') = front at parts plain ⊢
      generalize key.dropWhile (· != '[') = behind at parts
      subst parts split
      refine ⟨'[' :: front, behind ++ ']' :: rest, by simp, ?_, beginsKey_of_plain plain ?_⟩
      · have opening : '['.utf8Size = 1 := rfl
        rw [byteSize, opening, Nat.add_assoc]
      · cases front with
        | nil => decide
        | cons first front => exact unquoted
    · split at failed
      · obtain rfl := Except.error.inj failed
        exact .nothing beginsKey_nil _
      · cases failed

/-- A fault in a quoted key is behind characters that begin a key. -/
theorem readQuotedKey_pointsBehind (isQuote : quote = '\'' ∨ quote = '"')
    (failed : readQuotedKey offset quote chars = .error fault) :
    PointsBehind BeginsKey offset ('[' :: quote :: chars) fault := by
  have one : quote.utf8Size = 1 := by rcases isQuote with rfl | rfl <;> rfl
  simp only [readQuotedKey] at failed
  split at failed
  · obtain rfl := Except.error.inj failed
    exact ⟨['['], quote :: chars, rfl, rfl, .someKey, rfl, ⟨['a', ']'], rfl⟩⟩
  · next char later closes =>
    obtain ⟨split, without⟩ := eq_append_of_dropWhile closes
    generalize chars.takeWhile (· != quote) = key at failed split without
    split at failed
    · obtain rfl := Except.error.inj failed
      exact .nothing beginsKey_nil _
    · next nonempty =>
      split at failed
      · cases failed
      · obtain rfl := Except.error.inj failed
        exact .nothing beginsKey_nil _
      · obtain rfl := Except.error.inj failed
        have size : byteSize ('[' :: quote :: key ++ [quote]) = byteSize key + 3 := by
          have opening : '['.utf8Size = 1 := rfl
          rw [byteSize_concat _ one, byteSize, byteSize, one, opening]
          omega
        refine ⟨'[' :: quote :: key ++ [quote], later, by simp [split], ?_,
          .quotedKey quote key isQuote (by simpa using nonempty) without, rfl, ⟨[']'], ?_⟩⟩
        · rw [size, Nat.add_assoc]
        · simp [Spelling.chars]

/-- A fault in a key of either kind is behind characters that begin a key. -/
theorem readKey_pointsBehind (failed : readKey offset chars = .error fault) :
    PointsBehind BeginsKey offset ('[' :: chars) fault := by
  unfold readKey at failed
  split at failed
  · exact readQuotedKey_pointsBehind (.inl rfl) failed
  · exact readQuotedKey_pointsBehind (.inr rfl) failed
  · next noApostrophe noQuote =>
    refine readBareKey_pointsBehind ⟨fun first => ?_, fun first => ?_⟩ failed
    · obtain ⟨rest, rfl⟩ := List.head?_eq_some_iff.1 first
      exact noApostrophe rest rfl
    · obtain ⟨rest, rfl⟩ := List.head?_eq_some_iff.1 first
      exact noQuote rest rfl

/-! ## Faults of a path -/

/-- A fault in the first segment is behind characters that begin a path. -/
theorem readFirst_pointsBehind (failed : readFirst chars = .error fault) :
    PointsBehind BeginsPath 0 chars fault := by
  unfold readFirst at failed
  split at failed
  · obtain rfl := Except.error.inj failed
    exact .nothing beginsKey_nil.beginsPath _
  · exact (readKey_pointsBehind failed).mono fun front begins => begins.beginsPath
  · obtain rfl := readName_eq_error failed
    exact .nothing beginsKey_nil.beginsPath _

/-- By induction on what is read: a fault behind a segment is behind the segment and what begins
there. -/
theorem readLater_pointsBehind (failed : readLater offset chars = .error fault) :
    PointsBehind BeginsLater offset chars fault := by
  fun_induction readLater offset chars with
  | case1 => cases failed
  | case2 offset rest fault' read =>
    obtain rfl := Except.error.inj failed
    obtain rfl := readName_eq_error read
    exact ⟨['.'], rest, rfl, rfl, [.someName], ['a'], rfl⟩
  | case3 offset rest chunk read _ ih =>
    have points := ih (map_eq_error_iff.1 failed)
    obtain ⟨spelling, later, split, isName, rfl⟩ := exists_chunkOf_of_readName read
    have point : '.'.utf8Size = 1 := rfl
    rw [chunkOf, Nat.add_assoc, ← point, ← byteSize, ← isName] at points
    rw [split, ← List.cons_append, ← isName]
    exact points.append fun further begins => begins.cons spelling
  | case4 offset rest fault' read =>
    obtain rfl := Except.error.inj failed
    exact (readKey_pointsBehind read).mono fun front begins => begins.beginsLater
  | case5 offset rest chunk read _ ih =>
    have points := ih (map_eq_error_iff.1 failed)
    obtain ⟨spelling, later, split, isKey, rfl⟩ := exists_chunkOf_of_readKey read
    rw [chunkOf, ← isKey] at points
    rw [split, ← isKey]
    exact points.append fun further begins => begins.cons spelling
  | case6 offset rest =>
    obtain rfl := Except.error.inj failed
    exact .nothing beginsKey_nil.beginsLater _
  | case7 offset chars noEnd noPoint noOpening noClosing =>
    obtain rfl := Except.error.inj failed
    exact .nothing beginsKey_nil.beginsLater _

/-- A fault anywhere in a text is behind characters that begin a path. -/
theorem ofChars_pointsBehind (failed : ofChars chars = .error fault) :
    PointsBehind BeginsPath 0 chars fault := by
  rcases bind_eq_error_iff.1 failed with failed | ⟨chunk, read, failed⟩
  · exact readFirst_pointsBehind failed
  · obtain ⟨first, rest, rfl, rfl⟩ := exists_chunkOf_of_readFirst read
    have points := readLater_pointsBehind (map_eq_error_iff.1 failed)
    rw [chunkOf, ← Nat.zero_add (byteSize _)] at points
    refine points.append fun further begins => ?_
    obtain ⟨later, completes⟩ := begins
    exact ⟨first, later, (List.prefix_append_right_inj _).2 completes⟩

/-- The reader never cuts a character in two. Where it rejects a text, the error holds the text and
a place in it, at an end or between two characters, and what stands before the place begins a path:
it can be completed to a text that is accepted. -/
theorem parse_error_pointsBehind (text : String) :
    readBytes text = some (parse text) ∧
      ∀ error, parse text = .error error → error.path = text ∧
        error.offset ≤ text.utf8ByteSize ∧ (⟨error.offset⟩ : String.Pos.Raw).IsValid text ∧
        ∃ front back, text = front ++ back ∧ front.utf8ByteSize = error.offset ∧
          ∃ completion path, parse (front ++ completion) = .ok path := by
  refine ⟨readBytes_eq_parse text, fun error failed => ?_⟩
  obtain ⟨⟨offset, kind⟩, faulty, rfl⟩ := mapError_eq_error_iff.1 failed
  obtain ⟨front, back, split, place, first, later, completion, completes⟩ :=
    ofChars_pointsBehind faulty
  obtain rfl : offset = byteSize front := place.trans (Nat.zero_add _)
  obtain rfl : text = String.ofList (front ++ back) := by rw [← split, String.ofList_toList]
  obtain ⟨valid, -⟩ := exists_valid front back
  refine ⟨rfl, ?_, valid, String.ofList front, String.ofList back, String.ofList_append,
    utf8ByteSize_ofList front, String.ofList completion, ?_⟩
  · rw [utf8ByteSize_ofList, byteSize_append]
    exact Nat.le_add_right _ _
  · have derivation : Derivation (String.ofList front ++ String.ofList completion) :=
      ⟨first, later, by rw [← completes, ← String.ofList_append, String.toList_ofList]⟩
    exact ⟨derivation.path, derivation.parse_eq⟩

/-- Two characters of two bytes each stand before a bracket that is out of place. -/
theorem parse_nested_bracket :
    let text := "ä[é[0]"
    parse text = .error ⟨5, text, .nestedBracket⟩ ∧ 5 ≤ text.utf8ByteSize ∧
      (⟨5⟩ : String.Pos.Raw).IsValid text ∧
      ∃ front back, text = front ++ back ∧ front.utf8ByteSize = 5 ∧
        ∃ completion path, parse (front ++ completion) = .ok path := by
  intro text
  have failed : parse text = .error ⟨5, text, .nestedBracket⟩ := by decide +kernel
  exact ⟨failed, ((parse_error_pointsBehind text).2 _ failed).2⟩

end

end PropertyPath

end PropertyGraph
