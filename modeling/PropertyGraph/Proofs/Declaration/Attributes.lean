import PropertyGraph.Declaration.Attribute
import PropertyGraph.Proofs.Result

/-!
# What attributes ask for

The items of attributes that are read without a fault are told by what stands among them: whether
an item is a certain word, and which texts the items give for a certain key. Each item adds to what
those before it ask for; so the whole row is told by induction on it.
-/
namespace PropertyGraph

namespace AttributeItem

/-- The item is the word. -/
def isWord (word : String) (item : AttributeItem) : Bool :=
  match item with
  | .word _ => item.key == word
  | _ => false

/-- The text that the item gives for the key. -/
def given? (key : String) (item : AttributeItem) : Option String :=
  match item with
  | .pair _ value =>
    if item.key = key then (StringLiteral.ofCode? value).map (·.content) else none
  | _ => none

end AttributeItem

namespace Attribute

/-- The word is among the items of the attributes that count. -/
def hasWord (attributes : List Attribute) (word : String) : Bool :=
  (beanItems attributes).any (·.isWord word)

/-- The texts that the attributes give for the key, in order. -/
def given (attributes : List Attribute) (key : String) : List String :=
  (beanItems attributes).filterMap (·.given? key)

/-- A value is accepted as a text exactly if it is a string literal. -/
theorem string_eq_ok_iff {value : Code} {literal : StringLiteral} :
    string value = .ok literal ↔ StringLiteral.ofCode? value = some literal := by
  unfold string
  split <;> simp_all

/-- A flag is raised exactly if it has not been raised before. -/
theorem raise_eq_ok_iff {flag raised : Bool} {name : String} :
    raise flag name = .ok raised ↔ flag = false ∧ raised = true := by
  cases flag <;> simp [raise, eq_comm]

end Attribute

/-! ## Types -/

namespace TypeAttributes

/-- An item asks for a constructor if it is the word for it. -/
theorem hasDefault_of_add {before asked : TypeAttributes} {item : AttributeItem}
    (added : before.add item = .ok asked) :
    asked.hasDefault = (before.hasDefault || item.isWord "default") := by
  unfold add at added
  split at added
  · next path key =>
    obtain ⟨_, raised, rfl⟩ := map_eq_ok_iff.1 added
    obtain ⟨-, rfl⟩ := Attribute.raise_eq_ok_iff.1 raised
    simp [AttributeItem.isWord, key]
  · next path key =>
    obtain ⟨_, -, rfl⟩ := map_eq_ok_iff.1 added
    simp [AttributeItem.isWord, key]
  · cases added

/-- New beans of a type can be made exactly if its attributes have the word for it. -/
theorem hasDefault_of_read {attributes : List Attribute} {asked : TypeAttributes}
    (done : read attributes = .ok asked) :
    asked.hasDefault = Attribute.hasWord attributes "default" := by
  have row := tells_of_foldlM
    (fun before items asked =>
      asked.hasDefault = (before.hasDefault || items.any (·.isWord "default")))
    (by simp) (fun before item next items last added told => by
      rw [told, hasDefault_of_add added, List.any_cons, Bool.or_assoc]) done
  exact row

end TypeAttributes

/-! ## Fields -/

namespace FieldAttributes

/-- What is asked for is what was asked for before, with what the items ask for besides. -/
structure Adds (before : FieldAttributes) (items : List AttributeItem) (asked : FieldAttributes) :
    Prop where
  isSkipped : asked.isSkipped = (before.isSkipped || items.any (·.isWord "skip"))
  isReadOnly : asked.isReadOnly = (before.isReadOnly || items.any (·.isWord "read_only"))
  isWriteOnly : asked.isWriteOnly = (before.isWriteOnly || items.any (·.isWord "write_only"))
  rename : asked.rename?.map (·.content) =
    (before.rename?.map (·.content)).or (items.filterMap (·.given? "rename")).head?
  aliases : asked.aliases.map (·.content) =
    before.aliases.map (·.content) ++ items.filterMap (·.given? "alias")

/-- An item asks for what it is a word for, or gives a text for. -/
theorem adds_of_add {before asked : FieldAttributes} {item : AttributeItem}
    (added : before.add item = .ok asked) : before.Adds [item] asked := by
  unfold add at added
  split at added
  case h_1 path key | h_2 path key | h_3 path key =>
    obtain ⟨_, raised, rfl⟩ := map_eq_ok_iff.1 added
    obtain ⟨-, rfl⟩ := Attribute.raise_eq_ok_iff.1 raised
    constructor <;> simp [AttributeItem.isWord, AttributeItem.given?, key]
  case h_4 path value key =>
    split at added
    · cases added
    · next missing =>
      obtain ⟨name, isString, rfl⟩ := map_eq_ok_iff.1 added
      rw [Attribute.string_eq_ok_iff] at isString
      constructor <;> simp_all [AttributeItem.isWord, AttributeItem.given?]
  case h_5 path value key =>
    obtain ⟨name, isString, rfl⟩ := map_eq_ok_iff.1 added
    rw [Attribute.string_eq_ok_iff] at isString
    constructor <;> simp [AttributeItem.isWord, AttributeItem.given?, key, isString]
  case h_6 path value key | h_7 path value key =>
    obtain ⟨_, -, rfl⟩ := map_eq_ok_iff.1 added
    constructor <;> simp [AttributeItem.isWord, AttributeItem.given?, key]
  case h_8 => cases added

namespace Adds

variable {before middle asked : FieldAttributes} {items further : List AttributeItem}

/-- No items add nothing. -/
theorem refl (before : FieldAttributes) : before.Adds [] before := by
  constructor <;> simp

/-- Further items add to what is asked for already. -/
theorem trans (first : before.Adds items middle) (second : middle.Adds further asked) :
    before.Adds (items ++ further) asked where
  isSkipped := by rw [second.isSkipped, first.isSkipped, List.any_append, Bool.or_assoc]
  isReadOnly := by rw [second.isReadOnly, first.isReadOnly, List.any_append, Bool.or_assoc]
  isWriteOnly := by rw [second.isWriteOnly, first.isWriteOnly, List.any_append, Bool.or_assoc]
  rename := by
    rw [second.rename, first.rename, List.filterMap_append, List.head?_append, Option.or_assoc]
  aliases := by
    rw [second.aliases, first.aliases, List.filterMap_append, List.append_assoc]

end Adds

/-- The attributes of a field ask for what their items ask for. -/
theorem adds_of_read {attributes : List Attribute} {asked : FieldAttributes}
    (done : read attributes = .ok asked) :
    Adds {} (Attribute.beanItems attributes) asked := by
  obtain ⟨whole, added, checked⟩ := bind_eq_ok_iff.1 done
  obtain rfl : whole = asked := by
    unfold check at checked
    split at checked
    · cases checked
    · split at checked
      · cases checked
      · split at checked <;> cases checked
        rfl
  exact tells_of_foldlM Adds Adds.refl
    (fun _ _ _ _ _ added told => (adds_of_add added).trans told) added

end FieldAttributes

/-! ## Variants -/

namespace VariantAttributes

/-- The last text that the attributes of a variant give for its name counts. -/
theorem content_of_read {attributes : List Attribute} {asked? : Option StringLiteral}
    (done : read attributes = .ok asked?) :
    asked?.map (·.content) = (Attribute.given attributes "rename").getLast? := by
  have row := tells_of_foldlM
    (fun before items asked? => asked?.map (·.content) =
      (items.filterMap (·.given? "rename")).getLast?.or (before.map (·.content)))
    (by simp) (fun before item next items last added told => by
      unfold add at added
      split at added
      · next path value key =>
        obtain ⟨name, isString, rfl⟩ := map_eq_ok_iff.1 added
        rw [Attribute.string_eq_ok_iff] at isString
        have given : AttributeItem.given? "rename" (.pair path value) = some name.content := by
          simp [AttributeItem.given?, key, isString]
        rw [told, List.filterMap_cons_some given, List.getLast?_cons]
        cases (items.filterMap (·.given? "rename")).getLast? <;> simp
      · cases added) done
  rwa [Option.map_none, Option.or_none] at row

end VariantAttributes

end PropertyGraph
