import PropertyGraph.Field.Basic
import PropertyGraph.Proofs.Result
import PropertyGraph.Proofs.Value.Keys

/-!
# What fields store

A field takes a value and shows a value. The two differ where the field makes an optional out of a
bare value or widens a number, but they have the same shape: the element that a key leads to in the
value taken is stored as the element that the key leads to in the value shown. A value with a bean
in it is shown as it was taken.
-/
namespace PropertyGraph

namespace FieldType

/-- A field of the type that takes the first value shows the second. -/
def Stores (type : FieldType) (taken shown : Value) : Prop :=
  ∃ content, type.ofValue taken = .ok content ∧ type.toValue content = shown

/-- A field of the type can show the value. -/
def Holds (type : FieldType) (value : Value) : Prop :=
  ∃ content, type.toValue content = value

/-- The type of the elements of a collection, inside all optionals; any values where the type is
not the type of a collection. -/
def element : FieldType → FieldType
  | option content => content.element
  | list element | map element => element
  | _ => value

/-- The type of what a row of keys leads to. -/
def behind (type : FieldType) (keys : List Segment) : FieldType :=
  keys.foldl (fun type _ => type.element) type

/-- Values of the type may hold beans. -/
def holdsBeans : FieldType → Bool
  | value | anyBean | bean _ => true
  | option content | list content | map content => content.holdsBeans
  | _ => false

/-- Values of the type have no elements. -/
def isScalar : FieldType → Bool
  | value | option _ | list _ | map _ => false
  | _ => true

variable {type : FieldType} {taken shown : Value}

/-- The declared type of the elements is the element type of the declared type. -/
theorem declared_element (type : FieldType) : type.element.declared = type.declared.element := by
  induction type with
  | option content ih => exact ih
  | _ => rfl

/-! ## Stores, type by type -/

/-- A field of any values shows what it took. -/
theorem Stores.of_value (stores : value.Stores taken shown) : shown = taken := by
  obtain ⟨content, took, rfl⟩ := stores
  simpa [ofValue, toValue] using took.symm

/-- A list field takes a list and shows what its items are stored as. -/
theorem Stores.of_list {element : FieldType} (stores : (list element).Stores taken shown) :
    ∃ items shownItems, taken = .list items ∧ shown = .list shownItems ∧
      List.Forall₂ element.Stores items shownItems := by
  obtain ⟨contents, took, rfl⟩ := stores
  cases taken with
  | list items =>
    refine ⟨items, _, rfl, rfl, ?_⟩
    have each := (mapM_eq_ok_iff element.ofValue items contents).1 took
    exact List.forall₂_map_right_iff.2 (each.imp fun item content took => ⟨content, took, rfl⟩)
  | _ => simp [ofValue, ofList] at took

/-- A map field takes a map and shows under the same names what its values are stored as. -/
theorem Stores.of_map {element : FieldType} (stores : (map element).Stores taken shown) :
    ∃ entries shownEntries, taken = .map entries ∧ shown = .map shownEntries ∧
      List.Forall₂ (fun entry shownEntry => entry.1 = shownEntry.1 ∧
        element.Stores entry.2 shownEntry.2) entries shownEntries := by
  obtain ⟨contents, took, rfl⟩ := stores
  cases taken with
  | map entries =>
    refine ⟨entries, _, rfl, rfl, ?_⟩
    have each := (mapM_eq_ok_iff _ entries contents).1 took
    refine List.forall₂_map_right_iff.2 (each.imp fun entry content took => ?_)
    obtain ⟨held, inside, rfl⟩ := map_eq_ok_iff.1 took
    exact ⟨rfl, held, inside, rfl⟩
  | _ => simp [ofValue, ofMap] at took

/-- An optional field takes nothing, or what is inside an optional or stands there bare. -/
theorem Stores.of_option {content : FieldType} (stores : (option content).Stores taken shown) :
    (taken.isAbsent = true ∧ shown = .optNone) ∨
      ∃ inner shownInner, inner.core = taken.core ∧ shown = .optSome shownInner ∧
        content.Stores inner shownInner := by
  obtain ⟨held, took, rfl⟩ := stores
  have bare : ∀ inner : Value, (content.ofValue inner).map some = .ok held →
      ∃ shownInner, (option content).toValue held = .optSome shownInner ∧
        content.Stores inner shownInner := by
    intro inner took
    obtain ⟨kept, inside, rfl⟩ := map_eq_ok_iff.1 took
    exact ⟨_, rfl, kept, inside, rfl⟩
  cases taken with
  | null | optNone =>
    simp only [ofValue, ofOption, Except.ok.injEq] at took
    subst took
    exact .inl ⟨rfl, rfl⟩
  | optSome inner =>
    obtain ⟨shownInner, shows, stores⟩ := bare inner took
    exact .inr ⟨inner, shownInner, rfl, shows, stores⟩
  | _ =>
    obtain ⟨shownInner, shows, stores⟩ := bare _ took
    exact .inr ⟨_, shownInner, rfl, shows, stores⟩

/-! ## Keys lead to what is stored -/

/-- Related lists have related items at each index. -/
theorem getElem?_of_forall₂ {α β : Type} {relation : α → β → Prop} {items : List α}
    {others : List β} (each : List.Forall₂ relation items others) {index : Nat} {item : α}
    (found : items[index]? = some item) :
    ∃ other, others[index]? = some other ∧ relation item other := by
  induction each generalizing index with
  | nil => simp at found
  | cons related _ ih =>
    cases index with
    | zero =>
      simp only [List.getElem?_cons_zero, Option.some.injEq] at found
      subst found
      exact ⟨_, by simp, related⟩
    | succ index =>
      simp only [List.getElem?_cons_succ] at found
      simpa using ih found

/-- Related entries of the same names are found under the same name. -/
theorem find?_of_forall₂ {α β : Type} {relation : α → β → Prop} {entries : List (String × α)}
    {others : List (String × β)}
    (each : List.Forall₂ (fun entry other => entry.1 = other.1 ∧ relation entry.2 other.2)
      entries others) {key : String} {item : α} (found : Entries.find? key entries = some item) :
    ∃ other, Entries.find? key others = some other ∧ relation item other := by
  induction each with
  | nil => simp [Entries.find?] at found
  | @cons entry other _ _ related _ ih =>
    obtain ⟨name, value⟩ := entry
    obtain ⟨name', value'⟩ := other
    obtain ⟨sameName, related⟩ := related
    dsimp only at sameName related
    subst sameName
    by_cases same : name = key
    · simp only [Entries.find?, same, ↓reduceIte, Option.some.injEq] at found
      subst found
      exact ⟨value', by simp [Entries.find?, same], related⟩
    · simp only [Entries.find?, same, ↓reduceIte] at found ⊢
      exact ih found

/-- A scalar type takes nothing with elements. -/
theorem Stores.slot?_of_isScalar (stores : type.Stores taken shown)
    (scalar : type.isScalar = true) (segment : Segment) : taken.slot? segment = none := by
  obtain ⟨content, took, -⟩ := stores
  cases segment with
  | name label => rfl
  | key label quoted =>
    cases type with
    | value | option | list | map => simp [isScalar] at scalar
    | _ =>
      cases taken <;>
        simp_all [ofValue, ofFlag, ofChar, ofText, ofInt, ofFloat, ofAnyBean, ofBean, ofEnum,
          Except.bind, Value.slot?, Value.core]

/-- The element that a key leads to is stored as the element that it leads to afterwards. -/
theorem Stores.entry (stores : type.Stores taken shown) {segment : Segment} {slot : Value}
    (found : taken.slot? segment = some slot) :
    ∃ shownSlot, shown.slot? segment = some shownSlot ∧ type.element.Stores slot shownSlot := by
  induction type generalizing taken shown with
  | value =>
    obtain rfl := stores.of_value
    exact ⟨slot, found, slot, rfl, rfl⟩
  | option content ih =>
    rcases stores.of_option with ⟨absent, -⟩ | ⟨inner, shownInner, core, rfl, inside⟩
    · cases segment <;> cases taken <;> simp_all [Value.slot?, Value.core, Value.isAbsent]
    · rw [← Value.slot?_congr core] at found
      rw [Value.slot?_congr (show shownInner.optSome.core = shownInner.core from rfl)]
      exact ih inside found
  | list element ih =>
    obtain ⟨items, shownItems, rfl, rfl, each⟩ := stores.of_list
    cases segment with
    | name label => simp [Value.slot?] at found
    | key label quoted =>
      obtain ⟨index, isIndex, found⟩ := Option.bind_eq_some_iff.1 found
      obtain ⟨shownSlot, foundShown, stores⟩ := getElem?_of_forall₂ each found
      exact ⟨shownSlot, Option.bind_eq_some_iff.2 ⟨index, isIndex, foundShown⟩, stores⟩
  | map element ih =>
    obtain ⟨entries, shownEntries, rfl, rfl, each⟩ := stores.of_map
    cases segment with
    | name label => simp [Value.slot?] at found
    | key label quoted => exact find?_of_forall₂ each found
  | _ =>
    rw [stores.slot?_of_isScalar rfl segment] at found
    simp at found

/-- The value that a row of keys leads to is stored as the one that it leads to afterwards. -/
theorem Stores.follow (stores : type.Stores taken shown) {keys : List Segment} {slot : Value}
    (found : taken.follow? keys = some slot) :
    ∃ shownSlot, shown.follow? keys = some shownSlot ∧
      (type.behind keys).Stores slot shownSlot := by
  induction keys generalizing type taken shown with
  | nil =>
    obtain rfl : taken = slot := by simpa [Value.follow?] using found
    exact ⟨shown, rfl, stores⟩
  | cons segment later ih =>
    obtain ⟨next, here, further⟩ := Option.bind_eq_some_iff.1 found
    obtain ⟨shownNext, shownHere, stores⟩ := stores.entry here
    obtain ⟨shownSlot, shownFurther, stores⟩ := ih stores further
    exact ⟨shownSlot, Option.bind_eq_some_iff.2 ⟨shownNext, shownHere, shownFurther⟩, stores⟩

/-- A bean is shown where it was taken. -/
theorem Stores.core_bean (stores : type.Stores taken shown) {ref : BeanRef}
    (core : taken.core = .bean ref) : shown.core = .bean ref := by
  induction type generalizing taken shown with
  | value =>
    obtain rfl := stores.of_value
    exact core
  | option content ih =>
    rcases stores.of_option with ⟨absent, -⟩ | ⟨inner, shownInner, same, rfl, inside⟩
    · cases taken <;> simp_all [Value.core, Value.isAbsent]
    · change shownInner.core = .bean ref
      exact ih inside (same.trans core)
  | anyBean =>
    obtain ⟨content, took, rfl⟩ := stores
    cases taken <;> simp_all [ofValue, ofAnyBean, toValue, Value.core]
  | bean owner =>
    obtain ⟨content, took, rfl⟩ := stores
    cases taken with
    | bean other =>
      obtain rfl : other = ref := by simpa [Value.core] using core
      by_cases same : other.type = owner
      · obtain rfl : ⟨other, same⟩ = content := by simpa [ofValue, ofBean, same] using took
        rfl
      · simp [ofValue, ofBean, same] at took
    | _ => simp [ofValue, ofBean] at took
  | _ =>
    obtain ⟨content, took, rfl⟩ := stores
    cases taken <;>
      simp_all [ofValue, ofFlag, ofChar, ofText, ofInt, ofFloat, ofEnum, ofList, ofMap,
        Except.bind, Value.core]

/-! ## What a field can show -/

/-- The items of a list that a field can show are such as a field of the element type can show. -/
theorem Holds.item {element : FieldType} {items : List Value}
    (holds : (list element).Holds (.list items)) {item : Value} (among : item ∈ items) :
    element.Holds item := by
  obtain ⟨contents, same⟩ := holds
  obtain rfl := Value.list.inj same
  obtain ⟨content, -, rfl⟩ := List.mem_map.1 among
  exact ⟨content, rfl⟩

/-- The element that a key leads to in a value of a type is one of the element type, and beans may
be in the former if they may be in the latter. -/
theorem Holds.entry {value : Value} (holds : type.Holds value) {segment : Segment} {slot : Value}
    (found : value.slot? segment = some slot) :
    type.element.Holds slot ∧ (type.element.holdsBeans = true → type.holdsBeans = true) := by
  obtain ⟨content, rfl⟩ := holds
  cases segment with
  | name label => simp [Value.slot?] at found
  | key label quoted =>
    induction type with
    | value => exact ⟨⟨slot, rfl⟩, fun within => within⟩
    | option inner ih =>
      cases content with
      | none => simp [toValue, Value.slot?, Value.core] at found
      | some held => exact ih held found
    | list element ih =>
      obtain ⟨index, -, found⟩ := Option.bind_eq_some_iff.1 found
      obtain ⟨held, -, rfl⟩ := by simpa using found
      exact ⟨⟨held, rfl⟩, fun within => within⟩
    | map element ih =>
      obtain ⟨⟨name, held⟩, -, same⟩ := List.mem_map.1 (Entries.mem_of_find? found)
      simp only [Prod.mk.injEq] at same
      exact ⟨⟨held, same.2⟩, fun within => within⟩
    | _ => simp [toValue, Value.slot?, Value.core] at found

/-- A type with a bean among its values may hold beans. -/
theorem Holds.holdsBeans {value : Value} (holds : type.Holds value) {ref : BeanRef}
    (core : value.core = .bean ref) : type.holdsBeans = true := by
  obtain ⟨content, rfl⟩ := holds
  induction type with
  | option inner ih =>
    cases content with
    | none => simp [toValue, Value.core] at core
    | some held => exact ih held core
  | _ => simp_all [toValue, Value.core, FieldType.holdsBeans]

/-- What a type that may hold beans shows it takes as it is. -/
theorem ofValue_toValue (within : type.holdsBeans = true) (content : type.Carrier) :
    type.ofValue (type.toValue content) = .ok content := by
  induction type with
  | value => rfl
  | anyBean => rfl
  | bean owner =>
    obtain ⟨ref, same⟩ := content
    simp [ofValue, toValue, ofBean, same]
  | option inner ih =>
    cases content with
    | none => rfl
    | some held => simp [ofValue, toValue, ofOption, ih within held, Except.map]
  | list element ih =>
    refine (mapM_eq_ok_iff _ _ _).2 (List.forall₂_map_left_iff.2 (List.forall₂_same.2 ?_))
    exact fun held _ => ih within held
  | map element ih =>
    refine (mapM_eq_ok_iff _ _ _).2 (List.forall₂_map_left_iff.2 (List.forall₂_same.2 ?_))
    intro entry _
    simp [ih within entry.2, Except.map]
  | _ => simp [FieldType.holdsBeans] at within

end FieldType

end PropertyGraph
