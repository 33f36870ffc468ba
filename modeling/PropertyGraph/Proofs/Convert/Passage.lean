import PropertyGraph.Proofs.Convert.Conformance
import PropertyGraph.Proofs.Convert.Optional

/-!
# Values that pass unchanged

A value that conforms to its target passes every converter as it is, whatever the coercions are. A
value that is read has lost the optionals around it. If it goes back to a type with just as many
optionals, a conversion puts it into all of them again, unless it is absent: then there is nothing
to put into an optional.
-/
namespace PropertyGraph

/-- How many optionals are around the values of the type. -/
def DeclaredType.layers : DeclaredType → Nat
  | optional content => content.layers + 1
  | _ => 0

/-- Without its optionals a value is bare, and absent only as `null`. -/
theorem Value.unwrapped_bare (value : Value) :
    value.unwrapped.depth = 0 ∧ (value.unwrapped ≠ .null → value.unwrapped.isAbsent = false) := by
  induction value using Value.present?.induct with
  | case1 => exact ⟨rfl, fun present => absurd rfl present⟩
  | case2 => exact ⟨rfl, fun present => absurd rfl present⟩
  | case3 content ih => exact ih
  | case4 value notNull notNone notSome =>
    cases value with
    | null => exact absurd rfl notNull
    | optNone => exact absurd rfl notNone
    | optSome content => exact absurd rfl (notSome content)
    | _ => exact ⟨rfl, fun _ => rfl⟩

namespace Converter

section

variable {converter : Converter} {ask : Ask} {attempt : Value → Attempt} {target : DeclaredType}
  {raw : Value}

/-- Two parts that are joined pass as they are exactly if each of them does. -/
theorem joined_eq_none_iff {α β : Type} {first : Attempt}
    {others : Except CoercionError (Option α)} {join : Option Value → Option α → Option β}
    (joins : ∀ converted rest, join converted rest = none ↔ converted = none ∧ rest = none) :
    (first.bind fun converted => others.map fun rest => join converted rest) = .ok none ↔
      first = .ok none ∧ others = .ok none := by
  constructor
  · intro passed
    obtain ⟨converted, begun, continued⟩ := bind_eq_ok_iff.1 passed
    obtain ⟨rest, further, unchanged⟩ := map_eq_ok_iff.1 continued
    obtain ⟨rfl, rfl⟩ := (joins converted rest).1 unchanged
    exact ⟨begun, further⟩
  · rintro ⟨rfl, rfl⟩
    exact congrArg Except.ok ((joins none none).2 ⟨rfl, rfl⟩)

/-- Items pass as they are exactly if each of them does. -/
theorem convertItems_eq_none_iff {items : List Value} :
    convertItems attempt items = .ok none ↔ ∀ item ∈ items, attempt item = .ok none := by
  induction items with
  | nil => simp [convertItems]
  | cons item rest ih =>
    rw [convertItems, joined_eq_none_iff, ih, List.forall_mem_cons]
    rintro (_ | _) (_ | _) <;> simp

/-- Entries pass as they are exactly if each of their values does. -/
theorem convertEntries_eq_none_iff {entries : List (String × Value)} :
    convertEntries attempt entries = .ok none ↔
      ∀ entry ∈ entries, attempt entry.2 = .ok none := by
  induction entries with
  | nil => simp [convertEntries]
  | cons entry rest ih =>
    rw [convertEntries, joined_eq_none_iff, ih, List.forall_mem_cons]
    rintro (_ | _) (_ | _) <;> simp

/-- A value that conforms is not attempted at all. -/
theorem attempt_of_conforms (conforms : target.Conforms raw) :
    converter.attempt ask target raw = .ok none := by
  induction target generalizing raw with
  | any => rfl
  | optional content ih =>
    rcases conforms with rfl | ⟨inner, rfl, conforms⟩
    · rfl
    · rw [attempt, intoOptional, ih conforms]
      rfl
  | list element ih =>
    obtain ⟨items, rfl, each⟩ := conforms
    rw [attempt, throughOptionals, intoList,
      convertItems_eq_none_iff.2 fun item among => ih (each item among)]
    · rfl
    · simp
  | map element ih =>
    obtain ⟨entries, rfl, each⟩ := conforms
    rw [attempt, throughOptionals, intoMap,
      convertEntries_eq_none_iff.2 fun entry among => ih (each entry among)]
    · rfl
    · simp
  | int width =>
    obtain ⟨number, rfl, inside⟩ := conforms
    exact if_pos inside
  | enum info =>
    obtain ⟨variant, rfl⟩ := conforms
    exact if_pos rfl
  | bean type =>
    obtain ⟨ref, rfl, same⟩ := conforms
    exact if_pos same
  | _ =>
    obtain ⟨content, rfl⟩ := conforms
    rfl

/-- A value that conforms is converted to itself. -/
theorem convert_of_conforms (conforms : target.Conforms raw) :
    converter.convert raw target = .ok raw := by
  rw [convert, tryConvert_eq, attempt_of_conforms conforms]
  rfl

/-- A bare value is put into every optional of the target that it conforms to inside. -/
theorem attempt_bare (bare : raw.depth = 0) (present : raw.isAbsent = false)
    (conforms : target.Conforms (raw.wrap target.layers)) :
    ∃ answer, converter.attempt ask target raw = .ok answer ∧
      answer.getD raw = raw.wrap target.layers := by
  induction target with
  | optional content ih =>
    obtain ⟨inner, whole, conforms⟩ : ∃ inner,
        .optSome (raw.wrap content.layers) = Value.optSome inner ∧ content.Conforms inner := by
      rcases conforms with none | some
      · simp [DeclaredType.layers, Value.wrap] at none
      · exact some
    obtain ⟨answer, asked, wrapped⟩ := ih (Value.optSome.inj whole ▸ conforms)
    refine ⟨some (.optSome (raw.wrap content.layers)), ?_, rfl⟩
    have goesInto : intoOptional (converter.attempt ask content) raw =
        (converter.attempt ask content raw).map fun converted =>
          some (.optSome (converted.getD raw)) := by
      cases raw with
      | null | optNone => simp [Value.isAbsent] at present
      | optSome inner => simp [Value.depth] at bare
      | _ => rfl
    rw [attempt, goesInto, asked, ← wrapped]
    rfl
  | _ => exact ⟨none, attempt_of_conforms conforms, rfl⟩

/-- A bare value is converted to the optionals of the type around it, if it conforms inside them. -/
theorem convert_bare (bare : raw.depth = 0) (present : raw.isAbsent = false)
    (conforms : target.Conforms (raw.wrap target.layers)) :
    converter.convert raw target = .ok (raw.wrap target.layers) := by
  obtain ⟨answer, asked, wrapped⟩ := attempt_bare bare present conforms
  rw [convert, tryConvert_eq, asked, ← wrapped]

end

end Converter

/-- Before a write a bare value is put into every optional of the declared type. -/
theorem Accessor.convertTo_bare (converter : Converter) {raw : Value} {target : DeclaredType}
    (bare : raw.depth = 0) (present : target.isOptional = true → raw.isAbsent = false)
    (conforms : target.Conforms (raw.wrap target.layers)) :
    convertTo converter raw target = .ok (raw.wrap target.layers) := by
  cases target with
  | optional content =>
    have here : raw.isAbsent = false := present rfl
    have inside : content.Conforms (raw.wrap content.layers) := by
      rcases conforms with none | ⟨inner, whole, conforms⟩
      · simp [DeclaredType.layers, Value.wrap] at none
      · exact Value.optSome.inj whole ▸ conforms
    have same : raw.content = raw := by
      cases raw with
      | optSome inner => simp [Value.depth] at bare
      | _ => rfl
    rw [convertTo_present converter here, same, Converter.convert_bare bare here inside]
    rfl
  | _ => exact converter.convert_of_conforms conforms

namespace FieldType

/-- What a field shows conforms to its declared type. -/
theorem conforms_toValue (type : FieldType) (content : type.Carrier) :
    type.declared.Conforms (type.toValue content) := by
  induction type with
  | int width => exact ⟨content.val, rfl, content.property⟩
  | value | anyBean => trivial
  | bean owner => exact ⟨content.val, rfl, content.property⟩
  | option inner ih =>
    cases content with
    | none => exact .inl rfl
    | some held => exact .inr ⟨_, rfl, ih held⟩
  | list element ih =>
    refine ⟨_, rfl, fun item among => ?_⟩
    obtain ⟨held, -, rfl⟩ := List.mem_map.1 among
    exact ih held
  | map element ih =>
    refine ⟨_, rfl, fun entry among => ?_⟩
    obtain ⟨held, -, rfl⟩ := List.mem_map.1 among
    exact ih held.2
  | _ => exact ⟨_, rfl⟩

/-- A field that shows a value can show it, without its optionals, inside those of the declared
type, too. -/
theorem Holds.wrap_unwrapped {type : FieldType} {value : Value} (holds : type.Holds value)
    (present : type.declared.isOptional = true → value.unwrapped ≠ .null) :
    type.Holds (value.unwrapped.wrap type.declared.layers) := by
  obtain ⟨content, rfl⟩ := holds
  induction type with
  | value => exact ⟨_, rfl⟩
  | option inner ih =>
    cases content with
    | none => exact absurd rfl (present rfl)
    | some held =>
      obtain ⟨again, shows⟩ := ih held fun _ => present rfl
      exact ⟨some again, congrArg Value.optSome shows⟩
  | _ => exact ⟨content, rfl⟩

/-- What a field shows, without its optionals, is put into those of the declared type before a
write. -/
theorem Holds.convertTo_unwrapped {type : FieldType} {value : Value} (holds : type.Holds value)
    (present : type.declared.isOptional = true → value.unwrapped ≠ .null) (converter : Converter) :
    Accessor.convertTo converter value.unwrapped type.declared =
      .ok (value.unwrapped.wrap type.declared.layers) := by
  obtain ⟨bare, notNull⟩ := value.unwrapped_bare
  obtain ⟨content, shows⟩ := holds.wrap_unwrapped present
  exact Accessor.convertTo_bare converter bare (fun isOptional => notNull (present isOptional))
    (shows ▸ type.conforms_toValue content)

end FieldType

end PropertyGraph
