import PropertyGraph.Field.Basic

/-!
# Names of field types

Field types by their names: scalars and enums by a word, containers by a word with the name of
their content in angle brackets. `Shared<…>` is the type of fields of one bean.
-/
namespace PropertyGraph

/-- The types that have names of their own. -/
structure TypeNames where
  /-- The bean type of a name. -/
  bean? : String → Option TypeRef
  /-- The enum of a name. -/
  enum? : String → Option EnumInfo

namespace TypeNames

/-- The names of the scalar types that are no integers. -/
def scalars : List (String × FieldType) :=
  [("bool", .bool), ("char", .char), ("String", .text), ("f32", .single), ("f64", .double),
   ("Value", .value), ("BeanRef", .anyBean)]

/-- The type that a word names. -/
def word? (names : TypeNames) (word : String) : Option FieldType :=
  ((scalars.lookup word).or ((IntWidth.ofName? word).map .int)).or ((names.enum? word).map .enum)

/-- The characters between an opening text and a closing angle bracket. -/
def inside? (opening : String) (chars : List Char) : Option (List Char) :=
  if opening.toList.isPrefixOf chars && chars.getLast? == some '>' then
    some (chars.drop opening.toList.length).dropLast
  else
    none

/-- What stands inside brackets is shorter than the name, so that reading type names ends. -/
theorem length_lt_of_inside? {opening : String} {chars inner : List Char}
    (found : inside? opening chars = some inner) : inner.length < chars.length := by
  cases chars with
  | nil => simp [inside?] at found
  | cons first rest =>
    simp only [inside?] at found
    split at found
    · simp only [Option.some.injEq] at found
      subst found
      simp only [List.length_dropLast, List.length_drop, List.length_cons]
      omega
    · simp at found

/-- The type that characters name. -/
def read? (names : TypeNames) (chars : List Char) : Option FieldType :=
  match option : inside? "Option<" chars with
  | some inner =>
    have := length_lt_of_inside? option
    (names.read? inner).map .option
  | none =>
    match list : inside? "Vec<" chars with
    | some inner =>
      have := length_lt_of_inside? list
      (names.read? inner).map .list
    | none =>
      match map : inside? "Map<" chars with
      | some inner =>
        have := length_lt_of_inside? map
        (names.read? inner).map .map
      | none =>
        match inside? "Shared<" chars with
        | some inner => (names.bean? (String.ofList inner)).map .bean
        | none => names.word? (String.ofList chars)
termination_by chars.length

/-- The type of a name. -/
def fieldType? (names : TypeNames) (name : String) : Option FieldType :=
  names.read? name.toList

end TypeNames

end PropertyGraph
