import Mathlib.Data.List.TakeWhile
import PropertyGraph.Proofs.Convert.Acceptance

/-!
# Conversion into collections

Every way into a list or a map is the conversion of its elements. A list is converted item by item
and a map entry by entry, whatever the coercions are, and what fails is the first element that
fails. With the standard coercions a text with something in it is converted as the list of its
trimmed parts between commas, and a single scalar or bean as the list of it alone.
-/
namespace PropertyGraph

namespace Text

variable {text : String}

/-- The pieces between separators are those of the library. -/
theorem pieces_eq_splitOn (separator : Char) (chars : List Char) :
    pieces separator chars = chars.splitOn separator := by
  induction chars with
  | nil => simp [pieces]
  | cons char rest ih =>
    rw [pieces, ih, List.splitOn, List.splitOn, List.splitOnP_cons_eq_if_modifyHead]
    by_cases same : char = separator
    · simp [same]
    · simp only [same, if_false, beq_iff_eq]
      cases split : List.splitOnP (· == separator) rest with
      | nil => exact absurd split (List.splitOnP_ne_nil _ _)
      | cons piece others => rfl

/-- Where nothing is left of a text without the blanks at its ends, there are only blanks in it. -/
theorem isBlank_of_trim_isEmpty (empty : (trim text).isEmpty = true) :
    ∀ char ∈ text.toList, isBlank char = true := by
  simp only [trim, trimChars, String.isEmpty_iff, String.ofList_eq_empty_iff,
    List.reverse_eq_nil_iff, List.dropWhile_eq_nil_iff, List.mem_reverse] at empty
  have none : text.toList.dropWhile isBlank = [] := by
    by_contra some
    have visible := List.head_dropWhile_not isBlank some
    have blank := empty _ (List.head_mem some)
    simp [blank] at visible
  exact List.dropWhile_eq_nil_iff.1 none

end Text

namespace Converter

open Coercion

section

variable {converter : Converter} {ask : Ask} {attempt : Value → Attempt} {element : DeclaredType}
  {raw value : Value} {items : List Value} {entries : List (String × Value)}

/-! ## Outcomes -/

/-- The outcome of a conversion; of one that fails, the coercion that failed. -/
def outcome (converter : Converter) (raw : Value) (target : DeclaredType) :
    Except CoercionError Value :=
  (converter.convert raw target).mapError (·.cause)

/-- What an attempt makes of a value, or the value that it leaves as it is. -/
def settle (attempt : Value → Attempt) (raw : Value) : Except CoercionError Value :=
  (attempt raw).map (·.getD raw)

/-- The outcome is what one attempt settles; the questions behind it are one fewer. -/
theorem outcome_eq_settle (raw : Value) (target : DeclaredType) :
    converter.outcome raw target =
      settle (converter.attempt (converter.attemptWithin 999) target) raw := by
  rw [outcome, settle, convert, tryConvert_eq]
  cases converter.attempt (converter.attemptWithin 999) target raw <;> rfl

/-- A conversion succeeds with its outcome. -/
theorem convert_eq_ok_iff {target : DeclaredType} :
    converter.convert raw target = .ok value ↔ converter.outcome raw target = .ok value :=
  mapError_eq_ok_iff.symm

/-- The error of a conversion names the raw value and the target as a whole. -/
theorem convert_eq_error_iff {target : DeclaredType} {error : ConversionError} :
    converter.convert raw target = .error error ↔
      error.value = raw ∧ error.target = target ∧
        converter.outcome raw target = .error error.cause := by
  rw [outcome, convert]
  cases converter.tryConvert raw target with
  | error cause =>
    constructor
    · rintro ⟨⟩
      exact ⟨rfl, rfl, rfl⟩
    · rintro ⟨rfl, rfl, same⟩
      obtain rfl : cause = error.cause := Except.error.inj same
      rfl
  | ok converted =>
    constructor
    · rintro ⟨⟩
    · rintro ⟨-, -, same⟩
      cases same

/-! ## Rows of elements -/

/-- Items are settled one by one. That the reader copies nothing before the first item that changes
makes no difference to the result. -/
theorem convertItems_settled :
    (convertItems attempt items).map (·.getD items) = items.mapM (settle attempt) := by
  induction items with
  | nil => rfl
  | cons item rest ih =>
    rw [convertItems, List.mapM_cons, ← ih, settle]
    cases attempt item with
    | error cause => rfl
    | ok converted =>
      cases convertItems attempt rest with
      | error cause => rfl
      | ok others => cases converted <;> cases others <;> rfl

/-- Entries are settled one by one, each result under its key. -/
theorem convertEntries_settled :
    (convertEntries attempt entries).map (·.getD entries) =
      ((entries.map (·.2)).mapM (settle attempt)).map ((entries.map (·.1)).zip ·) := by
  induction entries with
  | nil => rfl
  | cons entry rest ih =>
    rw [convertEntries, List.map_cons, List.map_cons, List.mapM_cons, settle]
    cases attempt entry.2 with
    | error cause => rfl
    | ok converted =>
      cases done : convertEntries attempt rest with
      | error cause =>
        rw [done] at ih
        have failed := map_eq_error_iff.1 ih.symm
        simp [failed, Except.map, Except.bind, bind]
      | ok others =>
        rw [done] at ih
        obtain ⟨results, each, zipped⟩ := map_eq_ok_iff.1 ih.symm
        rw [each]
        have first : ∀ result : Value, (entry.1, result) :: others.getD rest =
            (entry.1 :: rest.map (·.1)).zip (result :: results) := fun result => by
          rw [List.zip_cons_cons, zipped]
        cases converted <;> cases others <;> exact congrArg Except.ok (first _)

/-- A list is the list of what its items become. -/
theorem outcome_list :
    converter.outcome (.list items) (.list element) =
      (items.mapM fun item => converter.outcome item element).map .list := by
  have each : (fun item => converter.outcome item element) =
      settle (converter.attempt (converter.attemptWithin 999) element) :=
    funext fun item => outcome_eq_settle item element
  rw [outcome_eq_settle, each, ← convertItems_settled, settle, attempt, throughOptionals, intoList]
  · cases convertItems (converter.attempt (converter.attemptWithin 999) element) items with
    | error cause => rfl
    | ok others => cases others <;> rfl
  · simp

/-- A map is the map of what its values become, each under its key. -/
theorem outcome_map :
    converter.outcome (.map entries) (.map element) =
      ((entries.map (·.2)).mapM fun item => converter.outcome item element).map fun results =>
        .map ((entries.map (·.1)).zip results) := by
  have each : (fun item => converter.outcome item element) =
      settle (converter.attempt (converter.attemptWithin 999) element) :=
    funext fun item => outcome_eq_settle item element
  have whole : ∀ row : Except CoercionError (List Value),
      row.map (fun results => Value.map ((entries.map (·.1)).zip results)) =
        (row.map ((entries.map (·.1)).zip ·)).map .map := by
    rintro (_ | _) <;> rfl
  rw [outcome_eq_settle, each, whole, ← convertEntries_settled, settle, attempt, throughOptionals,
    intoMap]
  · cases convertEntries (converter.attempt (converter.attemptWithin 999) element) entries with
    | error cause => rfl
    | ok others => cases others <;> rfl
  · simp

/-! ## Texts and single values as lists -/

/-- What a coercion to a list asks of its elements is answered by the attempt at them. -/
theorem askOrKeep_askElement :
    askOrKeep (askElement element attempt ask) raw element = settle attempt raw := by
  rw [askOrKeep, askElement, if_pos rfl, settle]

/-- What is neither a list nor an optional is left to its coercion. -/
theorem outcome_of_coerced {coercion : Coercion}
    (bare : raw.kind ≠ .list ∧ raw.kind ≠ .optional)
    (found : standard.applicable? raw.kind (.list element) = some coercion) :
    standard.outcome raw (.list element) = coercion raw (.list element)
      (askElement element (standard.attempt (standard.attemptWithin 999) element)
        (standard.attemptWithin 999)) := by
  have coerced : standard.attempt (standard.attemptWithin 999) (.list element) raw =
      (standard.coerce raw (.list element)
        (askElement element (standard.attempt (standard.attemptWithin 999) element)
          (standard.attemptWithin 999))).map some := by
    cases raw <;> simp_all [attempt, throughOptionals, intoList, Value.kind]
  rw [outcome_eq_settle, settle, coerced, coerce_eq found]
  cases coercion raw (.list element) _ <;> rfl

/-- The coercion to a list is looked up by the kind of lists alone. -/
theorem applicable?_list (source : ValueKind) :
    standard.applicable? source (.list element) = standard.lookup? source (.kind .list) := by
  simp [applicable?, DeclaredType.named?, DeclaredType.kind?]

/-- A text with something in it is the list of what its trimmed parts between commas become. -/
theorem outcome_text {text : String} (visible : ∃ char ∈ text.toList, Text.isBlank char = false) :
    standard.outcome (.text text) (.list element) =
      standard.outcome (.list ((text.toList.splitOn ',').map fun part =>
        .text (Text.trim (String.ofList part)))) (.list element) := by
  have found : standard.applicable? (Value.text text).kind (.list element) =
      some (.ofText textToList) := by
    rw [applicable?_list, lookup?_list]
    rfl
  have filled : ¬ (Text.trim text).isEmpty = true := fun empty => by
    obtain ⟨char, among, shown⟩ := visible
    simp [Text.isBlank_of_trim_isEmpty empty char among] at shown
  have asked : ∀ item : Value, askOrKeep (askElement element
      (standard.attempt (standard.attemptWithin 999) element) (standard.attemptWithin 999)) item
        element = standard.outcome item element := fun item => by
    rw [askOrKeep_askElement, outcome_eq_settle]
  rw [outcome_of_coerced (by simp [Value.kind]) found, outcome_list, ofText, textToList]
  have inside : (DeclaredType.list element).element = element := rfl
  simp only [Value.text?, Option.getD_some, filled, Bool.false_eq_true, if_false, inside, asked,
    Text.parts, Text.pieces_eq_splitOn, List.mapM_map]
  rfl

/-- A single scalar or bean is the list of what it becomes alone. -/
theorem outcome_single (single : raw.kind ∈ [.bool, .int, .float, .char, .enum, .bean]) :
    standard.outcome raw (.list element) = standard.outcome (.list [raw]) (.list element) := by
  have found : standard.applicable? raw.kind (.list element) = some toSingleton := by
    rw [applicable?_list, lookup?_list]
    simp only [List.mem_cons, List.not_mem_nil, or_false] at single
    rcases single with kind | kind | kind | kind | kind | kind <;> rw [kind]
  have bare : raw.kind ≠ .list ∧ raw.kind ≠ .optional := by
    constructor <;> intro kind <;> simp [kind] at single
  rw [outcome_of_coerced bare found, outcome_list, toSingleton]
  change (askOrKeep _ raw element).map _ = _
  rw [askOrKeep_askElement, ← outcome_eq_settle]
  simp only [List.mapM_cons, List.mapM_nil]
  cases standard.outcome raw element <;> rfl

/-! ## Results and first failures -/

/-- The items are converted one by one, to the results in order. -/
def ConvertsEach (converter : Converter) (element : DeclaredType) (items results : List Value) :
    Prop :=
  List.Forall₂ (fun item result => converter.convert item element = .ok result) items results

/-- The first of the items that is not converted fails with the cause. -/
def FailsFirst (converter : Converter) (element : DeclaredType) (items : List Value)
    (cause : CoercionError) : Prop :=
  ∃ before item after failure, items = before ++ item :: after ∧
    (∀ other ∈ before, ∃ result, converter.convert other element = .ok result) ∧
    converter.convert item element = .error failure ∧ failure.cause = cause

/-- Converting each item is what the outcomes of all items give in a row. -/
theorem convertsEach_iff {results : List Value} :
    converter.ConvertsEach element items results ↔
      (items.mapM fun item => converter.outcome item element) = .ok results := by
  rw [mapM_eq_ok_iff, ConvertsEach]
  simp only [convert_eq_ok_iff]

/-- The first item that is not converted is where the outcomes of all items stop. -/
theorem failsFirst_iff {cause : CoercionError} :
    converter.FailsFirst element items cause ↔
      (items.mapM fun item => converter.outcome item element) = .error cause := by
  rw [mapM_eq_error_iff, FailsFirst]
  simp only [convert_eq_ok_iff, convert_eq_error_iff]
  constructor
  · rintro ⟨before, item, after, failure, split, succeed, ⟨-, -, fails⟩, rfl⟩
    exact ⟨before, item, after, split, succeed, fails⟩
  · rintro ⟨before, item, after, split, succeed, fails⟩
    exact ⟨before, item, after, ⟨item, element, cause⟩, split, succeed, ⟨rfl, rfl, fails⟩, rfl⟩

/-- What is made of the results of a row succeeds and fails with the row. -/
theorem convert_of_row {target : DeclaredType} {make : List Value → Value}
    (row : converter.outcome raw target =
      (items.mapM fun item => converter.outcome item element).map make) :
    (∀ value, converter.convert raw target = .ok value ↔
      ∃ results, value = make results ∧ converter.ConvertsEach element items results) ∧
    ∀ error, converter.convert raw target = .error error ↔
      error.value = raw ∧ error.target = target ∧
        converter.FailsFirst element items error.cause := by
  constructor
  · intro value
    rw [convert_eq_ok_iff, row, map_eq_ok_iff]
    simp only [convertsEach_iff]
    constructor
    · rintro ⟨results, each, rfl⟩
      exact ⟨results, rfl, each⟩
    · rintro ⟨results, rfl, each⟩
      exact ⟨results, each, rfl⟩
  · intro error
    rw [convert_eq_error_iff, row, map_eq_error_iff, failsFirst_iff]

end

/-- A list is converted exactly if each of its items is, to the list of the results; otherwise the
first item that fails tells the cause. It is the same with maps, whose keys are kept in order. With
the standard coercions a text that is not blank has the outcome of the list of its trimmed parts
between commas, and a single scalar or bean that of the list of it alone. -/
theorem convert_collections (converter : Converter) (element : DeclaredType) :
    (∀ items value, converter.convert (.list items) (.list element) = .ok value ↔
      ∃ results, value = .list results ∧ converter.ConvertsEach element items results) ∧
    (∀ items error, converter.convert (.list items) (.list element) = .error error ↔
      error.value = .list items ∧ error.target = .list element ∧
        converter.FailsFirst element items error.cause) ∧
    (∀ entries value, converter.convert (.map entries) (.map element) = .ok value ↔
      ∃ results, value = .map ((entries.map (·.1)).zip results) ∧
        converter.ConvertsEach element (entries.map (·.2)) results) ∧
    (∀ entries error, converter.convert (.map entries) (.map element) = .error error ↔
      error.value = .map entries ∧ error.target = .map element ∧
        converter.FailsFirst element (entries.map (·.2)) error.cause) ∧
    (∀ text : String, (∃ char ∈ text.toList, Text.isBlank char = false) →
      standard.outcome (.text text) (.list element) =
        standard.outcome (.list ((text.toList.splitOn ',').map fun part =>
          .text (Text.trim (String.ofList part)))) (.list element)) ∧
    (∀ raw : Value, raw.kind ∈ [.bool, .int, .float, .char, .enum, .bean] →
      standard.outcome raw (.list element) = standard.outcome (.list [raw]) (.list element)) := by
  refine ⟨?lists, ?failedLists, ?maps, ?failedMaps, fun _ => outcome_text, fun _ => outcome_single⟩
  case lists => exact fun items => (convert_of_row outcome_list).1
  case failedLists => exact fun items => (convert_of_row outcome_list).2
  case maps => exact fun entries => (convert_of_row outcome_map).1
  case failedMaps => exact fun entries => (convert_of_row outcome_map).2

/-- Two numerals between commas and a truth value become lists of small integers, or fail to. -/
theorem convert_collections_of_numerals :
    let byte : DeclaredType := .int .u8
    (∃ char ∈ " 4, 2".toList, Text.isBlank char = false) ∧
      (Value.bool true).kind ∈ [.bool, .int, .float, .char, .enum, .bean] ∧
      standard.outcome (.text " 4, 2") (.list byte) =
        standard.outcome (.list [.text "4", .text "2"]) (.list byte) ∧
      standard.outcome (.bool true) (.list byte) =
        standard.outcome (.list [.bool true]) (.list byte) := by
  intro byte
  obtain ⟨-, -, -, -, text, single⟩ := convert_collections standard byte
  have visible : ∃ char ∈ " 4, 2".toList, Text.isBlank char = false := ⟨'4', by decide, by decide⟩
  have listed : (Value.bool true).kind ∈ [.bool, .int, .float, .char, .enum, .bean] := by
    simp [Value.kind]
  exact ⟨visible, listed, text " 4, 2" visible, single (.bool true) listed⟩

end Converter

end PropertyGraph
