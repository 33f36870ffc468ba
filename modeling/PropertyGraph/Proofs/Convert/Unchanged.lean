import PropertyGraph.Proofs.Convert.Passage

/-!
# Only conforming values pass unchanged

Whatever its coercions are, a converter lets a value pass as it is exactly if the value conforms. A
coercion cannot have a say in it: what a coercion makes counts as changed, and so does the content
of an optional that has lost its container. A list or a map passes as it is if each of its elements
does. The standard converter makes conforming values only, so nothing is converted twice.
-/
namespace PropertyGraph.Converter

section

variable {converter : Converter} {ask : Ask} {attempt : Value → Attempt}
  {target element : DeclaredType} {raw : Value}

/-- What a coercion makes counts as changed. -/
theorem coerced_ne_none :
    (converter.coerce raw target ask).map some ≠ .ok none := by
  intro passed
  obtain ⟨value, -, changed⟩ := map_eq_ok_iff.1 passed
  simp at changed

/-- Nothing inside an optional passes as it is where the optional is taken off. -/
theorem eq_none_of_throughOptionals (passed : throughOptionals attempt raw = .ok none) :
    attempt raw = .ok none := by
  cases raw with
  | optSome content =>
    rw [throughOptionals] at passed
    obtain ⟨converted, -, changed⟩ := map_eq_ok_iff.1 passed
    simp at changed
  | _ => exact passed

/-- What passes into an optional as it is conforms to the optional type. -/
theorem conforms_of_intoOptional (inside : ∀ raw, attempt raw = .ok none → target.Conforms raw)
    (passed : intoOptional attempt raw = .ok none) :
    (DeclaredType.optional target).Conforms raw := by
  cases raw with
  | optNone => exact .inl rfl
  | null => simp [intoOptional] at passed
  | optSome content =>
    obtain ⟨converted, unchanged, kept⟩ := map_eq_ok_iff.1 passed
    obtain rfl : converted = none := by simpa using kept
    exact .inr ⟨content, rfl, inside content unchanged⟩
  | _ =>
    obtain ⟨converted, -, changed⟩ := map_eq_ok_iff.1 passed
    simp at changed

/-- What passes to a list as it is conforms to the list type. -/
theorem conforms_of_intoList (inside : ∀ raw, attempt raw = .ok none → element.Conforms raw)
    (passed : converter.intoList element attempt ask raw = .ok none) :
    (DeclaredType.list element).Conforms raw := by
  cases raw with
  | list items =>
    obtain ⟨others, unchanged, kept⟩ := map_eq_ok_iff.1 passed
    obtain rfl : others = none := by simpa using kept
    exact ⟨items, rfl, fun item among => inside item (convertItems_eq_none_iff.1 unchanged _ among)⟩
  | _ => exact absurd passed coerced_ne_none

/-- What passes to a map as it is conforms to the map type. -/
theorem conforms_of_intoMap (inside : ∀ raw, attempt raw = .ok none → element.Conforms raw)
    (passed : converter.intoMap element attempt ask raw = .ok none) :
    (DeclaredType.map element).Conforms raw := by
  cases raw with
  | map entries =>
    obtain ⟨others, unchanged, kept⟩ := map_eq_ok_iff.1 passed
    obtain rfl : others = none := by simpa using kept
    exact ⟨entries, rfl,
      fun entry among => inside entry.2 (convertEntries_eq_none_iff.1 unchanged _ among)⟩
  | _ => exact absurd passed coerced_ne_none

/-- What passes to a scalar, an enum or a bean as it is conforms to that type. -/
theorem conforms_of_intoScalar (passed : converter.intoScalar target ask raw = .ok none) :
    target.Conforms raw := by
  unfold intoScalar at passed
  split at passed
  case h_1 number width =>
    split at passed
    case isTrue inside => exact ⟨number, rfl, inside⟩
    case isFalse => simp at passed
  case h_2 => exact ⟨_, rfl⟩
  case h_3 => exact ⟨_, rfl⟩
  case h_4 => exact ⟨_, rfl⟩
  case h_5 => exact ⟨_, rfl⟩
  case h_6 type variant info =>
    split at passed
    case isTrue same => exact ⟨variant, by rw [same]⟩
    case isFalse => exact absurd passed coerced_ne_none
  case h_7 ref type =>
    split at passed
    case isTrue same => exact ⟨ref, rfl, same⟩
    case isFalse => exact absurd passed coerced_ne_none
  case h_8 => exact absurd passed coerced_ne_none

/-- A value passes as it is exactly if it conforms, whatever is answered to the questions of
coercions. -/
theorem attempt_eq_none_iff :
    converter.attempt ask target raw = .ok none ↔ target.Conforms raw := by
  refine ⟨fun passed => ?_, attempt_of_conforms⟩
  induction target generalizing raw with
  | any => trivial
  | optional content ih => exact conforms_of_intoOptional (fun _ => ih) passed
  | list element ih =>
    exact conforms_of_intoList (fun _ => ih) (eq_none_of_throughOptionals passed)
  | map element ih =>
    exact conforms_of_intoMap (fun _ => ih) (eq_none_of_throughOptionals passed)
  | _ => exact conforms_of_intoScalar (eq_none_of_throughOptionals passed)

end

/-- A value passes a converter as it is exactly if it conforms to the target. What the standard
converter makes conforms, and a second conversion leaves it as it is. -/
theorem passes_iff_conforms (converter : Converter) (raw : Value) (target : DeclaredType) :
    (converter.tryConvert raw target = .ok none ↔ target.Conforms raw) ∧
      ∀ value, standard.convert raw target = .ok value →
        target.Conforms value ∧ standard.convert value target = .ok value := by
  refine ⟨attempt_eq_none_iff, fun value converted => ?_⟩
  have conforms := convert_conforms standard_sound converted
  exact ⟨conforms, convert_of_conforms conforms⟩

/-- A bare list of a text and a number is made an optional list of numbers, and stays one. -/
theorem passes_numbers :
    let target : DeclaredType := .optional (.list (.int .u8))
    let raw : Value := .list [.text " 0x10 ", .int 7]
    let value : Value := .optSome (.list [.int 16, .int 7])
    (standard.tryConvert raw target = .ok none ↔ target.Conforms raw) ∧
      standard.convert raw target = .ok value ∧
      target.Conforms value ∧ standard.convert value target = .ok value := by
  intro target raw value
  have converted : standard.convert raw target = .ok value := rfl
  obtain ⟨passes, again⟩ := passes_iff_conforms standard raw target
  exact ⟨passes, converted, again value converted⟩

end PropertyGraph.Converter
