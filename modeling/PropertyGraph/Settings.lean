import PropertyGraph.Access.Accessor
import PropertyGraph.Batch.Update

/-!
# Settings

Options as they are read from a document. The settings of options stand in a group under their
names, or in a list in their order. One that is missing has its default, and one of an unknown name
is passed over; a list with too many is refused, and so is a setting of the wrong kind.
-/
namespace PropertyGraph

/-- A part of a document with settings. -/
inductive Setting where
  | null
  | flag (isOn : Bool)
  | text (content : String)
  /-- A natural number written without point and exponent. -/
  | count (value : Nat)
  /-- Any other number. -/
  | otherNumber
  | list (items : List Setting)
  | group (entries : List (String × Setting))
deriving Inhabited

namespace Setting

/-- The flag, if the setting is one. -/
def flag? : Setting → Option Bool
  | flag isOn => some isOn
  | _ => none

/-- The count, if the setting is one below 2⁶⁴. -/
def count? : Setting → Option Nat
  | count value => if value < Nat.pow 2 64 then some value else none
  | _ => none

/-- The settings with the names, if there are any settings at all. -/
def select? (names : List String) : Setting → Option (List (Option Setting))
  | group entries => some (names.map fun name => entries.lookup name)
  | list items =>
    if items.length ≤ names.length then
      some ((List.range names.length).map fun place => items[place]?)
    else
      none
  | _ => none

/-- Reads a setting that may be missing. -/
def orDefault {α : Type} (setting : Option Setting) (read : Setting → Option α) (default : α) :
    Option α :=
  match setting with
  | some setting => read setting
  | none => some default

end Setting

namespace AccessOptions

/-- The names of the settings in order. -/
def settingNames : List String :=
  ["auto_grow_nested_paths", "auto_grow_collection_limit", "extract_old_value"]

/-- Reads the options. -/
def ofSetting? (setting : Setting) : Option AccessOptions :=
  let base : AccessOptions := {}
  match setting.select? settingNames with
  | some [growNested, collectionLimit, extractOldValue] => do
    some {
      growNested := ← Setting.orDefault growNested Setting.flag? base.growNested
      collectionLimit := ← Setting.orDefault collectionLimit Setting.count? base.collectionLimit
      extractOldValue := ← Setting.orDefault extractOldValue Setting.flag? base.extractOldValue }
  | _ => none

end AccessOptions

namespace BatchOptions

/-- The names of the settings in order. -/
def settingNames : List String :=
  ["ignore_unknown", "ignore_invalid"]

/-- Reads the options. -/
def ofSetting? (setting : Setting) : Option BatchOptions :=
  let base : BatchOptions := {}
  match setting.select? settingNames with
  | some [ignoreUnknown, ignoreInvalid] => do
    some {
      ignoreUnknown := ← Setting.orDefault ignoreUnknown Setting.flag? base.ignoreUnknown
      ignoreInvalid := ← Setting.orDefault ignoreInvalid Setting.flag? base.ignoreInvalid }
  | _ => none

end BatchOptions

namespace SuggestionEngine

/-- The names of the settings in order. -/
def settingNames : List String :=
  ["max_distance", "max_suggestions"]

/-- Reads the engine. -/
def ofSetting? (setting : Setting) : Option SuggestionEngine :=
  let base : SuggestionEngine := {}
  match setting.select? settingNames with
  | some [maxDistance, maxSuggestions] => do
    some {
      maxDistance := ← Setting.orDefault maxDistance Setting.count? base.maxDistance
      maxSuggestions := ← Setting.orDefault maxSuggestions Setting.count? base.maxSuggestions }
  | _ => none

end SuggestionEngine

end PropertyGraph
