import PropertyGraph.Access.Write
import PropertyGraph.Proofs.Convert.Conformance
import PropertyGraph.Proofs.Convert.Optional

/-!
# Fields that keep what they take

A field without floats of the single width shows a value that conforms to its declared type just as
it was taken. So what is converted before a write is shown after it.
-/
namespace PropertyGraph

namespace FieldType

/-- No value of the type is narrowed to the single width. -/
def isExact : FieldType → Bool
  | single => false
  | option content | list content | map content => content.isExact
  | _ => true

/-- The elements of an exact type are of an exact type. -/
theorem isExact_element {type : FieldType} (exact : type.isExact = true) :
    type.element.isExact = true := by
  induction type with
  | option content ih => exact ih exact
  | list element _ | map element _ => exact exact
  | _ => rfl

/-- The value of a field of the type that takes a value is that value. -/
def Keeps (type : FieldType) (value : Value) : Prop :=
  ∀ content, type.ofValue value = .ok content → type.toValue content = value

/-- A value of an enum is kept if a variant has its name. -/
theorem keeps_enum (info : EnumInfo) (variant : String) :
    (enum info).Keeps (.enum info.type variant) := by
  intro place took
  simp only [ofValue, ofEnum, ↓reduceIte] at took
  split at took
  · next place' found =>
    obtain rfl := Except.ok.inj took
    have here := (List.finIdxOf?_eq_some_iff.1 found).1
    exact congrArg (Value.enum info.type) here
  · simp at took

/-- Lists are kept if their items are. -/
theorem keeps_list {element : FieldType} {items : List Value}
    (each : ∀ item ∈ items, element.Keeps item) : (list element).Keeps (.list items) := by
  intro contents took
  have related := (mapM_eq_ok_iff element.ofValue items contents).1 took
  apply congrArg Value.list
  clear took
  induction related with
  | nil => rfl
  | @cons item content items contents taken _ ih =>
    rw [List.map_cons, each item List.mem_cons_self content taken,
      ih fun other among => each other (List.mem_cons_of_mem _ among)]

/-- Maps are kept if their values are. -/
theorem keeps_map {element : FieldType} {entries : List (String × Value)}
    (each : ∀ entry ∈ entries, element.Keeps entry.2) : (map element).Keeps (.map entries) := by
  intro contents took
  have related := (mapM_eq_ok_iff _ entries contents).1 took
  apply congrArg Value.map
  clear took
  induction related with
  | nil => rfl
  | @cons entry content entries contents taken _ ih =>
    obtain ⟨held, inside, rfl⟩ := map_eq_ok_iff.1 taken
    have head := each entry List.mem_cons_self held inside
    have rest := ih fun other among => each other (List.mem_cons_of_mem _ among)
    simp only [List.map_cons, head, rest]

/-- Optionals are kept if their contents are. -/
theorem keeps_optSome {content : FieldType} {inner : Value} (kept : content.Keeps inner) :
    (option content).Keeps (.optSome inner) := by
  intro held took
  obtain ⟨item, inside, rfl⟩ := map_eq_ok_iff.1 took
  exact congrArg Value.optSome (kept item inside)

/-- A conforming value is kept. -/
theorem keeps_of_conforms {type : FieldType} (exact : type.isExact = true) {value : Value}
    (conforms : type.declared.Conforms value) : type.Keeps value := by
  induction type generalizing value with
  | single => simp [isExact] at exact
  | value =>
    intro content took
    exact (Except.ok.inj took).symm
  | anyBean =>
    intro content took
    cases value with
    | bean ref => exact (congrArg Value.bean (Except.ok.inj took)).symm
    | _ => simp [ofValue, ofAnyBean] at took
  | bool =>
    obtain ⟨flag, rfl⟩ := conforms
    intro content took
    obtain rfl := Except.ok.inj took
    rfl
  | char =>
    obtain ⟨character, rfl⟩ := conforms
    intro content took
    obtain rfl := Except.ok.inj took
    rfl
  | text =>
    obtain ⟨text, rfl⟩ := conforms
    intro content took
    obtain rfl := Except.ok.inj took
    rfl
  | double =>
    obtain ⟨number, rfl⟩ := conforms
    intro content took
    obtain rfl := Except.ok.inj took
    rfl
  | int width =>
    obtain ⟨number, rfl, inside⟩ := conforms
    intro content took
    obtain rfl : ⟨number, inside⟩ = content := by simpa [ofValue, ofInt, inside] using took
    rfl
  | bean owner =>
    obtain ⟨ref, rfl, same⟩ := conforms
    intro content took
    obtain rfl : ⟨ref, same⟩ = content := by simpa [ofValue, ofBean, same] using took
    rfl
  | enum info =>
    obtain ⟨variant, rfl⟩ := conforms
    exact keeps_enum info variant
  | option content ih =>
    rcases conforms with rfl | ⟨inner, rfl, conforms⟩
    · intro held took
      obtain rfl := Except.ok.inj took
      rfl
    · exact keeps_optSome (ih exact conforms)
  | list element ih =>
    obtain ⟨items, rfl, each⟩ := conforms
    exact keeps_list fun item among => ih exact (each item among)
  | map element ih =>
    obtain ⟨entries, rfl, each⟩ := conforms
    exact keeps_map fun entry among => ih exact (each entry among)

/-- An empty optional in an optional is kept. -/
theorem keeps_optSome_optNone (content : FieldType) :
    (option content).Keeps (.optSome .optNone) := by
  refine keeps_optSome fun inner took => ?_
  cases content with
  | value => exact (Except.ok.inj took).symm
  | option further =>
    obtain rfl := Except.ok.inj took
    rfl
  | _ => exact absurd took (by simp [ofValue, ofFlag, ofChar, ofText, ofInt, ofFloat, ofAnyBean,
      ofBean, ofEnum, ofList, ofMap, Except.bind])

/-- What is converted to the declared type of a field before a write is kept by the field. -/
theorem keeps_of_convertTo {type : FieldType} (exact : type.isExact = true) {converter : Converter}
    (sound : converter.Sound) {raw value : Value}
    (done : Accessor.convertTo converter raw type.declared = .ok value) : type.Keeps value := by
  cases type with
  | option content =>
    by_cases absent : raw.isAbsent
    · have twice := Accessor.convertTo_absent converter absent content.declared
      obtain rfl : .optSome .optNone = value := Except.ok.inj (twice.symm.trans done)
      exact keeps_optSome_optNone content
    · have present : raw.isAbsent = false := by simpa using absent
      have within : content.isExact = true := exact
      have once := Accessor.convertTo_present converter present content.declared
      obtain ⟨inner, converted, rfl⟩ := map_eq_ok_iff.1 (once.symm.trans done)
      exact keeps_optSome (keeps_of_conforms within (Converter.convert_conforms sound converted))
  | _ => exact keeps_of_conforms exact (Converter.convert_conforms sound done)

end FieldType

end PropertyGraph
