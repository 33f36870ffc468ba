import PropertyGraph.Proofs.Path.Front
import PropertyGraph.Proofs.Path.Grammar

/-!
# Rendered paths

A path that was read is rendered in a way of writing it: as it was written, but for the quotes
around a key, which are chosen anew. The quote that is chosen does not stand in the key. If the key
has an apostrophe, it was written between double quotes and has none of those. So the front of a
path that was read is read as the path of the first segments.
-/
namespace PropertyGraph

namespace Spelling

/-- A key is quoted with one of the two quotes. -/
theorem quoteOf_isQuote (key : List Char) :
    Segment.quoteOf key = '\'' ∨ Segment.quoteOf key = '"' := by
  unfold Segment.quoteOf
  split
  · exact .inr rfl
  · exact .inl rfl

/-- A key that one of the quotes can stand around does not hold the quote that is chosen for it. -/
theorem quoteOf_not_mem {quote : Char} {key : List Char} (isQuote : quote = '\'' ∨ quote = '"')
    (plain : quote ∉ key) : Segment.quoteOf key ∉ key := by
  by_cases apostrophe : '\'' ∈ key
  · have isDouble : quote = '"' :=
      isQuote.resolve_left fun same => plain (same ▸ apostrophe)
    have chosen : Segment.quoteOf key = '"' := by simp [Segment.quoteOf, apostrophe]
    rwa [chosen, ← isDouble]
  · have chosen : Segment.quoteOf key = '\'' := by simp [Segment.quoteOf, apostrophe]
    rwa [chosen]

/-- The way in which the segment is rendered. -/
def rendered : Spelling → Spelling
  | quotedKey _ key isQuote nonempty plain =>
    quotedKey (Segment.quoteOf key) key (quoteOf_isQuote key) nonempty
      (quoteOf_not_mem isQuote plain)
  | other => other

/-- Rendering a spelling keeps its segment. -/
theorem segment_rendered (spelling : Spelling) : spelling.rendered.segment = spelling.segment := by
  cases spelling <;> rfl

/-- The segment is rendered so. -/
theorem chars_rendered (spelling : Spelling) :
    spelling.rendered.chars = spelling.segment.chars := by
  cases spelling <;> simp [rendered, segment, chars, Segment.chars]

/-- A rendered spelling has the characters that its segment is rendered with. -/
theorem laterChars_rendered (spelling : Spelling) :
    spelling.rendered.laterChars = spelling.segment.laterChars := by
  rw [laterChars_eq, Segment.laterChars, segment_rendered, chars_rendered]
  split <;> rfl

end Spelling

namespace PropertyPath

variable {text : String} {path : PropertyPath}

/-- The front of a path is written by the grammar as the path was, with quotes chosen anew. -/
def Derivation.front (derivation : Derivation text) (count : Nat) :
    Derivation ((derivation.path.upTo count).text) where
  first := derivation.first.rendered
  later := (derivation.later.take (count - 1)).map Spelling.rendered
  yields := by
    have later : ((derivation.later.take (count - 1)).map Spelling.rendered).flatMap
        Spelling.laterChars =
          ((derivation.later.map Spelling.segment).take (count - 1)).flatMap
            Segment.laterChars := by
      rw [← List.map_take, List.flatMap_map, List.flatMap_map]
      simp only [Spelling.laterChars_rendered]
    rw [later, Spelling.chars_rendered]
    exact String.toList_ofList.symm

/-- The front of a path is the text of the path up to there. -/
theorem front_eq_text_upTo {count : Nat} (positive : 0 < count) :
    path.front count = (path.upTo count).text := by
  rw [front, PropertyPath.text, segments_upTo positive]

/-- A path up to its end or further is the path itself. -/
theorem upTo_of_length_le {count : Nat} (whole : path.length ≤ count) : path.upTo count = path := by
  have beyond : path.later.length ≤ count - 1 := Nat.le_sub_one_of_lt whole
  rw [upTo, List.take_of_length_le beyond]

/-- The front of a path that was read is read as its first segments, and the whole path is the
front of all of them. -/
theorem parse_front (read : parse text = .ok path) :
    (∀ count, 0 < count → count ≤ path.length →
      ∃ start, parse (path.front count) = .ok start ∧
        start.segments = path.segments.take count) ∧
      (∀ count, path.length ≤ count → path.front count = path.text) ∧
      parse path.text = .ok path := by
  obtain ⟨derivation, rfl⟩ := Derivation.exists_of_parse read
  have each : ∀ count,
      parse (derivation.path.upTo count).text = .ok (derivation.path.upTo count) := by
    intro count
    have path : (derivation.front count).path = derivation.path.upTo count := by
      simp [Derivation.path, Derivation.front, upTo, Spelling.segment_rendered, Function.comp_def]
    rw [(derivation.front count).parse_eq, path]
  have positive : 0 < derivation.path.length := Nat.succ_pos _
  refine ⟨fun count atLeastOne _ => ?_, fun count whole => ?_, ?_⟩
  · rw [front_eq_text_upTo atLeastOne]
    exact ⟨_, each count, segments_upTo atLeastOne⟩
  · rw [front_eq_text_upTo (Nat.lt_of_lt_of_le positive whole), upTo_of_length_le whole]
  · simpa only [upTo_of_length_le (Nat.le_refl _)] using each derivation.path.length

/-- A key with a point, a key with an apostrophe and a name behind them are rendered and read
again. -/
theorem parse_front_of_quoted :
    let text := "[\"a.b\"][\"it's\"].c[0]"
    let path : PropertyPath :=
      ⟨.key "a.b" true, [.key "it's" true, .name "c", .key "0" false]⟩
    parse text = .ok path ∧ path.front 2 = "['a.b'][\"it's\"]" ∧
      (∃ start, parse (path.front 2) = .ok start ∧ start.segments = path.segments.take 2) ∧
      path.front 9 = path.text ∧ parse path.text = .ok path := by
  intro text path
  have read : parse text = .ok path := by decide +kernel
  obtain ⟨fronts, whole, again⟩ := parse_front read
  exact ⟨read, by decide +kernel, fronts 2 (by decide) (by decide), whole 9 (by decide), again⟩

end PropertyPath

end PropertyGraph
