import PropertyGraph.Proofs.Convert.Texts

/-!
# Scalars and their texts

The standard converter writes a scalar as its text and reads it back from there: a truth value, an
integer in the range of its width, a character, and a variant of an enum type. No reader takes away
what another one has written. The digits of an integer begin neither with a second sign nor with the
mark of hexadecimal digits, and there are no blanks around them; a character is taken before
anything could be trimmed; and a variant is found by its name unless there are blanks around that.
-/
namespace PropertyGraph

namespace Text

/-- No blank stands at either end of the text. -/
def HasBareEnds (text : String) : Prop :=
  (∀ char ∈ text.toList.head?, isBlank char = false) ∧
    ∀ char ∈ text.toList.getLast?, isBlank char = false

/-- Blanks are dropped only where there are any at the front. -/
theorem dropWhile_isBlank {chars : List Char}
    (bare : ∀ char ∈ chars.head?, isBlank char = false) : chars.dropWhile isBlank = chars := by
  cases chars with
  | nil => rfl
  | cons char rest => simp [bare char rfl]

/-- A text without blanks at its ends is left as it is. -/
theorem HasBareEnds.trim_eq {text : String} (bare : HasBareEnds text) : trim text = text := by
  obtain ⟨first, last⟩ := bare
  rw [← List.head?_reverse] at last
  rw [trim, trimChars, dropWhile_isBlank first, dropWhile_isBlank last, List.reverse_reverse,
    String.ofList_toList]

/-- A text without any blank has none at its ends. -/
theorem hasBareEnds_of_forall {text : String}
    (visible : ∀ char ∈ text.toList, isBlank char = false) : HasBareEnds text :=
  ⟨fun char first => visible char (List.mem_of_head? first),
    fun char last => visible char (List.mem_of_getLast? last)⟩

/-- No digit is a blank. -/
theorem isBlank_of_isDigit {char : Char} (digit : char.isDigit = true) : isBlank char = false := by
  obtain ⟨low, high⟩ := Char.isDigit_iff_toNat.1 digit
  change 48 ≤ char.toNat at low
  change char.toNat ≤ 57 at high
  simp only [isBlank, Bool.or_eq_false_iff, Bool.and_eq_false_iff, beq_eq_false_iff_ne,
    decide_eq_false_iff_not]
  omega

end Text

namespace Coercion

/-! ## Texts of integers -/

/-- An integer is written with its digits, behind a minus sign if it is negative. -/
theorem toList_toString (number : Int) :
    (toString number).toList =
      (if number < 0 then ['-'] else []) ++ Nat.toDigits 10 number.natAbs := by
  cases number <;> simp [Int.repr_eq_if]

/-- An integer is written as what denotes it. -/
theorem denotesInt_toString (number : Int) : DenotesInt (toString number).toList number := by
  have digits := Numeral.denotes_toDigits number.natAbs
  rw [toList_toString]
  by_cases negative : number < 0
  · have same : -1 * (number.natAbs : Int) = number := by omega
    have written := DenotesInt.written .minus .bare digits
    rw [same, List.append_nil] at written
    rwa [if_pos negative]
  · have same : 1 * (number.natAbs : Int) = number := by omega
    have written := DenotesInt.written .bare .bare digits
    rw [same, List.append_nil] at written
    rwa [if_neg negative]

/-- The digits of an integer have no blanks at their ends. -/
theorem hasBareEnds_toString (number : Int) : Text.HasBareEnds (toString number) := by
  refine Text.hasBareEnds_of_forall fun char among => ?_
  rw [toList_toString, List.mem_append] at among
  rcases among with sign | digit
  · obtain rfl : char = '-' := by
      split at sign
      · simpa using sign
      · cases sign
    rfl
  · exact Text.isBlank_of_isDigit (Nat.isDigit_of_mem_toDigits (by decide) (by decide) digit)

/-! ## Reading texts of scalars -/

section

variable {width : IntWidth} {number : Int} {info : EnumInfo} {variant : String}

/-- The text of a truth value is read as that truth value. -/
theorem textToBool_toText (flag : Bool) :
    textToBool (Value.bool flag).toText = .ok (.bool flag) := by
  cases flag <;> rfl

/-- The text of an integer is read as that integer, if it fits the width. -/
theorem textToInt_toText (low : width.least ≤ number) (high : number ≤ width.greatest) :
    textToInt (Value.int number).toText (.int width) = .ok (.int number) := by
  have small := IntWidth.natAbs_lt_of_mem low high
  rw [Value.toText, textToInt_eq_ok_iff, (hasBareEnds_toString number).trim_eq, readInt_eq_ok_iff]
  exact ⟨⟨denotesInt_toString number, small⟩, IntWidth.contains_iff.2 ⟨low, high⟩⟩

/-- The text of a character is read as that character. -/
theorem textToChar_toText (char : Char) :
    textToChar (Value.char char).toText = .ok (.char char) :=
  textToChar_eq_ok_iff.2 (.inl (by simpa [Value.toText] using DenotesChar.itself char))

/-- The text of a declared variant is read as that variant, if it has no blanks at its ends. -/
theorem textToEnum_toText (declared : variant ∈ info.variants) (bare : Text.HasBareEnds variant) :
    textToEnum (Value.enum info.type variant).toText (.enum info) =
      .ok (.enum info.type variant) := by
  simp [Value.toText, textToEnum, bare.trim_eq, declared]

end

end Coercion

/-- The value is a scalar of the type, other than a float. -/
inductive Value.ScalarOf : DeclaredType → Value → Prop
  /-- Both truth values are scalars. -/
  | bool (flag : Bool) : ScalarOf .bool (.bool flag)
  /-- An integer is in the range of the width. -/
  | int (width : IntWidth) (number : Int) :
    width.least ≤ number → number ≤ width.greatest → ScalarOf (.int width) (.int number)
  /-- Every character is a scalar. -/
  | char (character : Char) : ScalarOf .char (.char character)
  /-- A variant is declared, without blanks around its name. -/
  | enum (info : EnumInfo) (variant : String) :
    variant ∈ info.variants → Text.HasBareEnds variant →
    ScalarOf (.enum info) (.enum info.type variant)

namespace Converter

open Coercion

/-! ## There and back -/

section

variable {text : String} {value : Value}

/-- One coercion leads from every scalar kind to texts. -/
theorem applicable?_text {source : ValueKind} (scalar : source ∈ scalarKinds) :
    standard.applicable? source .text = some textCoercion := by
  simp only [scalarKinds, List.mem_cons, List.not_mem_nil, or_false] at scalar
  rcases scalar with rfl | rfl | rfl | rfl | rfl <;>
    simp [applicable?, DeclaredType.named?, DeclaredType.kind?, lookup?, standard, textCoercions,
      scalarKinds]

/-- What has a text of its own becomes that text. -/
theorem convert_scalar_text (scalar : value.kind ∈ scalarKinds) :
    standard.convert value .text = .ok (.text value.toText) := by
  have coerced : ∀ ask,
      standard.attempt ask .text value = (standard.coerce value .text ask).map some := by
    intro ask
    cases value with
    | bool | int | float | char | enum => rfl
    | _ => simp [Value.kind, scalarKinds] at scalar
  exact (convert_eq_ok_iff_of_applicable? coerced (applicable?_text scalar)).2 rfl

/-- A text is converted to a truth value as it is read as one. -/
theorem convert_text_bool_eq_ok_iff :
    standard.convert (.text text) .bool = .ok value ↔ textToBool text = .ok value := by
  refine convert_text_eq_ok_iff (fun text _ _ => textToBool text) (fun _ => rfl) ?_
  simp [applicable?, DeclaredType.named?, DeclaredType.kind?, lookup?, standard, textCoercions]

/-- A text is converted to an enum as it is read as one of the variants. -/
theorem convert_text_enum_eq_ok_iff {info : EnumInfo} :
    standard.convert (.text text) (.enum info) = .ok value ↔
      textToEnum text (.enum info) = .ok value := by
  refine convert_text_eq_ok_iff (fun text target _ => textToEnum text target) (fun _ => rfl) ?_
  simp [applicable?, DeclaredType.named?, DeclaredType.kind?, lookup?, standard, textCoercions,
    scalarKinds]

end

/-- A scalar is converted to its text, and the text is converted back to the scalar. -/
theorem convert_back_from_text {type : DeclaredType} {value : Value}
    (scalar : value.ScalarOf type) :
    standard.convert value .text = .ok (.text value.toText) ∧
      standard.convert (.text value.toText) type = .ok value := by
  have isScalar : value.kind ∈ scalarKinds := by cases scalar <;> simp [Value.kind, scalarKinds]
  refine ⟨convert_scalar_text isScalar, ?_⟩
  cases scalar with
  | bool flag => exact convert_text_bool_eq_ok_iff.2 (textToBool_toText flag)
  | int width number low high =>
    exact convert_text_int_eq_ok_iff.2 (textToInt_toText low high)
  | char character => exact convert_text_char_eq_ok_iff.2 (textToChar_toText character)
  | enum info variant declared bare =>
    exact convert_text_enum_eq_ok_iff.2 (textToEnum_toText declared bare)

/-- The least integer of sixty-four bits and a blank are read back. -/
theorem convert_back_least_and_blank :
    (Value.int (-9223372036854775808)).ScalarOf (.int .i64) ∧
      standard.convert (.int (-9223372036854775808)) .text =
        .ok (.text "-9223372036854775808") ∧
      standard.convert (.text "-9223372036854775808") (.int .i64) =
        .ok (.int (-9223372036854775808)) ∧
      (Value.char ' ').ScalarOf .char ∧
      standard.convert (.text " ") .char = .ok (.char ' ') := by
  have least : (Value.int (-9223372036854775808)).ScalarOf (.int .i64) :=
    .int .i64 _ (by decide) (by decide)
  have written : (Value.int (-9223372036854775808)).toText = "-9223372036854775808" := by
    decide +kernel
  obtain ⟨there, back⟩ := convert_back_from_text least
  rw [written] at there back
  exact ⟨least, there, back, .char ' ', (convert_back_from_text (.char ' ')).2⟩

end Converter

end PropertyGraph
