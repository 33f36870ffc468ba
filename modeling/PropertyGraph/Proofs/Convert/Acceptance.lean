import PropertyGraph.Proofs.Field.Exact

/-!
# Converted values are accepted

What the standard converter makes of a raw value for the type of a field, the field takes, and it
shows it again just so. For this a value of an enum in the raw value has to be one of the variants:
the converter asks for the type of an enum value alone, but the field looks for its variant. No
coercion makes an enum value but of a name that is looked up among the variants.
-/
namespace PropertyGraph

/-- The first value is the second or stands somewhere inside it. -/
inductive Value.Within (part : Value) : Value → Prop
  | self : Within part part
  | content (inner : Value) : Within part inner → Within part (.optSome inner)
  | item (items : List Value) (item : Value) :
    item ∈ items → Within part item → Within part (.list items)
  | entry (entries : List (String × Value)) (entry : String × Value) :
    entry ∈ entries → Within part entry.2 → Within part (.map entries)

/-- Every value of the enum inside the value is one of the variants. -/
def EnumInfo.Covers (info : EnumInfo) (value : Value) : Prop :=
  ∀ variant, (Value.enum info.type variant).Within value → variant ∈ info.variants

namespace EnumInfo

variable {info : EnumInfo}

/-- An optional is covered if its content is. -/
theorem covers_optSome {inner : Value} : info.Covers (.optSome inner) ↔ info.Covers inner := by
  constructor
  · exact fun covers variant within => covers variant (.content inner within)
  · intro covers variant within
    cases within with
    | content _ within => exact covers variant within

/-- A list is covered if its items are. -/
theorem covers_list {items : List Value} :
    info.Covers (.list items) ↔ ∀ item ∈ items, info.Covers item := by
  constructor
  · exact fun covers item among variant within => covers variant (.item items item among within)
  · intro covers variant within
    cases within with
    | item _ item among within => exact covers item among variant within

/-- A map is covered if its values are. -/
theorem covers_map {entries : List (String × Value)} :
    info.Covers (.map entries) ↔ ∀ entry ∈ entries, info.Covers entry.2 := by
  constructor
  · exact fun covers entry among variant within =>
      covers variant (.entry entries entry among within)
  · intro covers variant within
    cases within with
    | entry _ entry among within => exact covers entry among variant within

/-- A value of the enum is covered if it is one of the variants. -/
theorem covers_enum {variant : String} :
    info.Covers (.enum info.type variant) ↔ variant ∈ info.variants := by
  constructor
  · exact fun covers => covers variant .self
  · intro among other within
    cases within with
    | self => exact among

/-- Other enums, and values in which there is nothing, are of no concern. -/
theorem covers_optNone : info.Covers .optNone := by
  intro variant within
  cases within

/-- A text contains no value of an enum. -/
theorem covers_text (text : String) : info.Covers (.text text) := by
  intro variant within
  cases within

end EnumInfo

namespace FieldType

/-- The enum whose values the type contains, if there is one. -/
def enum? : FieldType → Option EnumInfo
  | enum info => some info
  | option content | list content | map content => content.enum?
  | _ => none

/-- The type is made of truth values, characters, texts, integers, floats of sixty-four bits, any
values, beans of one type and enums by optionals, lists and maps. -/
def isRegular : FieldType → Bool
  | single | anyBean => false
  | option content | list content | map content => content.isRegular
  | _ => true

/-- The regular types are among those whose values are taken exactly. -/
theorem isExact_of_isRegular {type : FieldType} (regular : type.isRegular = true) :
    type.isExact = true := by
  induction type with
  | single => simp [isRegular] at regular
  | option content ih | list content ih | map content ih => exact ih regular
  | _ => rfl

end FieldType

namespace Converter

open Coercion

section

variable {info : EnumInfo} {attempt : Value → Attempt} {ask : Ask} {raw value : Value}
  {element : DeclaredType}

/-! ## The standard coercions to collections and enums -/

/-- No standard coercion leads to one type alone. -/
theorem lookup?_type (source : ValueKind) (type : TypeRef) :
    standard.lookup? source (.type type) = none := by
  simp [lookup?, standard, textCoercions, scalarKinds]

/-- To a list the standard coercions lead from texts, by their parts, and from single values. -/
theorem lookup?_list (source : ValueKind) :
    standard.lookup? source (.kind .list) = match source with
      | .text => some (.ofText textToList)
      | .null | .list | .map | .optional => none
      | _ => some toSingleton := by
  cases source <;> simp [lookup?, standard, textCoercions, scalarKinds]

/-- No standard coercion leads to a map. -/
theorem lookup?_map (source : ValueKind) : standard.lookup? source (.kind .map) = none := by
  simp [lookup?, standard, textCoercions, scalarKinds]

/-- To an enum the standard coercions lead from texts alone. -/
theorem lookup?_enum (source : ValueKind) :
    standard.lookup? source (.kind .enum) = match source with
      | .text => some (.ofText fun text target _ => textToEnum text target)
      | _ => none := by
  cases source <;> simp [lookup?, standard, textCoercions, scalarKinds]

/-! ## Enum values stay among the variants -/

/-- Where the enum covers a value, it covers what the conversion makes of it. -/
def Covering (info : EnumInfo) (attempt : Value → Attempt) : Prop :=
  ∀ raw answer, info.Covers raw → attempt raw = .ok answer → info.Covers (answer.getD raw)

/-- Taking optionals off keeps to the covered values. -/
theorem throughOptionals_covering (covering : Covering info attempt) :
    Covering info (throughOptionals attempt) := by
  intro raw answer covers done
  induction raw using throughOptionals.induct generalizing answer with
  | case1 content ih =>
    rw [throughOptionals] at done
    obtain ⟨converted, inner, rfl⟩ := map_eq_ok_iff.1 done
    exact ih converted (EnumInfo.covers_optSome.1 covers) inner
  | case2 raw bare =>
    rw [throughOptionals] at done
    exact covering raw answer covers done
    exact bare

/-- Bringing values into an optional keeps to the covered values. -/
theorem intoOptional_covering (covering : Covering info attempt) :
    Covering info (intoOptional attempt) := by
  intro raw answer covers done
  cases raw with
  | optNone =>
    obtain rfl : none = answer := by simpa [intoOptional] using done
    exact covers
  | null =>
    obtain rfl : some .optNone = answer := by simpa [intoOptional] using done
    exact EnumInfo.covers_optNone
  | optSome content =>
    obtain ⟨converted, inner, rfl⟩ := map_eq_ok_iff.1 done
    have covered := covering content converted (EnumInfo.covers_optSome.1 covers) inner
    cases converted with
    | none => exact EnumInfo.covers_optSome.2 covered
    | some value => exact EnumInfo.covers_optSome.2 covered
  | _ =>
    obtain ⟨converted, inner, rfl⟩ := map_eq_ok_iff.1 done
    exact EnumInfo.covers_optSome.2 (covering _ converted covers inner)

/-- What a coercion to a collection asks for its elements is covered. -/
theorem askOrKeep_covers (covering : Covering info attempt) (covers : info.Covers raw)
    (done : askOrKeep (askElement element attempt ask) raw element = .ok value) :
    info.Covers value := by
  obtain ⟨answer, asked, rfl⟩ := map_eq_ok_iff.1 done
  rw [askElement, if_pos rfl] at asked
  exact covering raw answer covers asked

/-- The list that a text becomes is covered, since its parts are converted. -/
theorem textToList_covers (covering : Covering info attempt) {text : String}
    (done : textToList text (.list element) (askElement element attempt ask) = .ok value) :
    info.Covers value := by
  simp only [textToList] at done
  split at done
  · obtain rfl := Except.ok.inj done
    exact EnumInfo.covers_list.2 (by simp)
  · obtain ⟨items, converted, rfl⟩ := map_eq_ok_iff.1 done
    refine EnumInfo.covers_list.2 fun item among => ?_
    have each := (mapM_eq_ok_iff _ _ _).1 converted
    obtain ⟨index, bounded, rfl⟩ := List.getElem_of_mem among
    have bounded' : index < (Text.parts ',' text).length := each.length_eq ▸ bounded
    exact askOrKeep_covers covering (EnumInfo.covers_text _) (each.get bounded' bounded)

/-- The list of a single value is covered if the value is. -/
theorem toSingleton_covers (covering : Covering info attempt) (covers : info.Covers raw)
    (done : toSingleton raw (.list element) (askElement element attempt ask) = .ok value) :
    info.Covers value := by
  obtain ⟨item, converted, rfl⟩ := map_eq_ok_iff.1 done
  refine EnumInfo.covers_list.2 fun other among => ?_
  obtain rfl := List.mem_singleton.1 among
  exact askOrKeep_covers covering covers converted

/-- A text becomes a list of its parts, every other scalar and a bean a list of one. -/
theorem coerce_list_covers (covering : Covering info attempt) (covers : info.Covers raw)
    (done : standard.coerce raw (.list element) (askElement element attempt ask) = .ok value) :
    info.Covers value := by
  simp only [coerce, applicable?, DeclaredType.named?, DeclaredType.kind?, Option.bind_none,
    Option.none_or, Option.bind_some, lookup?_list] at done
  cases raw with
  | text text =>
    simp only [Value.kind, ofText] at done
    exact textToList_covers covering done
  | null | list | map | optNone | optSome => simp [Value.kind] at done
  | _ =>
    simp only [Value.kind] at done
    exact toSingleton_covers covering covers done

/-- Nothing becomes a map but a map. -/
theorem coerce_map_ne_ok : standard.coerce raw (.map element) ask ≠ .ok value := by
  simp [coerce, applicable?, DeclaredType.named?, DeclaredType.kind?, lookup?_map]

/-- Nothing but a text becomes a value of an enum, and it names a variant. -/
theorem coerce_enum_covers (done : standard.coerce raw (.enum info) ask = .ok value) :
    info.Covers value := by
  simp only [coerce, applicable?, DeclaredType.named?, DeclaredType.kind?, Option.bind_some,
    lookup?_type, Option.none_or, lookup?_enum] at done
  cases raw with
  | text text =>
    simp only [Value.kind, ofText, textToEnum] at done
    split at done
    case isTrue known =>
      obtain rfl := Except.ok.inj done
      exact EnumInfo.covers_enum.2 (by simpa using known)
    case isFalse => simp at done
  | _ => simp [Value.kind] at done

/-- What is coerced is covered if every coerced value is. -/
theorem coerced_covers {target : DeclaredType} {answer : Option Value}
    (covered : ∀ value, standard.coerce raw target ask = .ok value → info.Covers value)
    (done : (standard.coerce raw target ask).map some = .ok answer) :
    info.Covers (answer.getD raw) := by
  obtain ⟨value, coerced, rfl⟩ := map_eq_ok_iff.1 done
  exact covered value coerced

/-- Bringing values to a list keeps to the covered values. -/
theorem intoList_covering (covering : Covering info attempt) :
    Covering info (standard.intoList element attempt ask) := by
  intro raw answer covers done
  cases raw with
  | list items =>
    obtain ⟨others, converted, rfl⟩ := map_eq_ok_iff.1 done
    have each : ∀ result ∈ others.getD items, info.Covers result := by
      intro result among
      obtain ⟨item, listed, answer, become, rfl⟩ :=
        exists_of_mem_convertItems converted result among
      exact covering item answer (EnumInfo.covers_list.1 covers item listed) become
    cases others with
    | none => exact covers
    | some others => exact EnumInfo.covers_list.2 each
  | _ =>
    simp only [intoList] at done
    exact coerced_covers (fun _ coerced => coerce_list_covers covering covers coerced) done

/-- Bringing values to a map keeps to the covered values. -/
theorem intoMap_covering (covering : Covering info attempt) :
    Covering info (standard.intoMap element attempt ask) := by
  intro raw answer covers done
  cases raw with
  | map entries =>
    obtain ⟨others, converted, rfl⟩ := map_eq_ok_iff.1 done
    have each : ∀ result ∈ others.getD entries, info.Covers result.2 := by
      intro result among
      obtain ⟨entry, listed, answer, become, rfl⟩ :=
        exists_of_mem_convertEntries converted result among
      exact covering entry.2 answer (EnumInfo.covers_map.1 covers entry listed) become
    cases others with
    | none => exact covers
    | some others => exact EnumInfo.covers_map.2 each
  | _ =>
    simp only [intoMap] at done
    exact coerced_covers (fun _ coerced => absurd coerced coerce_map_ne_ok) done

/-- Bringing values to the enum keeps to the covered values. -/
theorem intoScalar_covering : Covering info (standard.intoScalar (.enum info) ask) := by
  intro raw answer covers done
  cases raw with
  | enum type variant =>
    simp only [intoScalar] at done
    split at done
    case isTrue =>
      obtain rfl := Except.ok.inj done
      exact covers
    case isFalse => exact coerced_covers (fun _ coerced => coerce_enum_covers coerced) done
  | _ =>
    simp only [intoScalar] at done
    exact coerced_covers (fun _ coerced => coerce_enum_covers coerced) done

variable (ask) in
/-- At a type with values of the enum the enum goes on to cover what it covers. -/
theorem attempt_covering {type : FieldType} (contains : type.enum? = some info) :
    Covering info (standard.attempt ask type.declared) := by
  induction type with
  | enum other =>
    obtain rfl := Option.some.inj contains
    exact throughOptionals_covering intoScalar_covering
  | option content ih => exact intoOptional_covering (ih contains)
  | list content ih => exact throughOptionals_covering (intoList_covering (ih contains))
  | map content ih => exact throughOptionals_covering (intoMap_covering (ih contains))
  | _ => simp [FieldType.enum?] at contains

/-- What a value is converted to has no values of the enum but variants if the value has not. -/
theorem convert_covers {type : FieldType} (contains : type.enum? = some info)
    (covers : info.Covers raw) (done : standard.convert raw type.declared = .ok value) :
    info.Covers value := by
  rw [convert, tryConvert_eq] at done
  split at done
  case h_1 answer converted =>
    obtain rfl := Except.ok.inj done
    exact attempt_covering _ contains raw answer covers converted
  case h_2 => simp at done

end

end Converter

/-! ## Fields take what conforms -/

namespace FieldType

variable {type : FieldType} {raw value : Value}

/-- A conforming value with no values of an enum but variants is taken. -/
theorem exists_ofValue_of_conforms (regular : type.isRegular = true)
    (covers : ∀ info, type.enum? = some info → info.Covers value)
    (conforms : type.declared.Conforms value) : ∃ content, type.ofValue value = .ok content := by
  induction type generalizing value with
  | single | anyBean => simp [isRegular] at regular
  | value => exact ⟨value, rfl⟩
  | int width =>
    obtain ⟨number, rfl, inside⟩ := conforms
    exact ⟨⟨number, inside⟩, by simp [ofValue, ofInt, inside]⟩
  | bean owner =>
    obtain ⟨ref, rfl, same⟩ := conforms
    exact ⟨⟨ref, same⟩, by simp [ofValue, ofBean, same]⟩
  | enum info =>
    obtain ⟨variant, rfl⟩ := conforms
    have known : variant ∈ info.variants := EnumInfo.covers_enum.1 (covers info rfl)
    obtain ⟨place, found⟩ : ∃ place, info.variants.finIdxOf? variant = some place :=
      Option.isSome_iff_exists.1 (by simpa using known)
    exact ⟨place, by simp [ofValue, ofEnum, found]⟩
  | option content ih =>
    rcases conforms with rfl | ⟨inner, rfl, conforms⟩
    · exact ⟨none, rfl⟩
    · obtain ⟨held, took⟩ := ih regular
        (fun info contains => EnumInfo.covers_optSome.1 (covers info contains)) conforms
      exact ⟨some held, map_eq_ok_iff.2 ⟨held, took, rfl⟩⟩
  | list element ih =>
    obtain ⟨items, rfl, each⟩ := conforms
    exact exists_mapM fun item among => ih regular
      (fun info contains => EnumInfo.covers_list.1 (covers info contains) item among)
      (each item among)
  | map element ih =>
    obtain ⟨entries, rfl, each⟩ := conforms
    refine exists_mapM fun entry among => ?_
    obtain ⟨held, took⟩ := ih regular
      (fun info contains => EnumInfo.covers_map.1 (covers info contains) entry among)
      (each entry among)
    exact ⟨(entry.1, held), map_eq_ok_iff.2 ⟨held, took, rfl⟩⟩
  | _ =>
    obtain ⟨content, rfl⟩ := conforms
    exact ⟨content, rfl⟩

/-- What the standard converter makes of a value for the type of a field, the field takes and shows
again, if the values of the enum in the raw value are variants. -/
theorem ofValue_of_convert (regular : type.isRegular = true)
    (covers : ∀ info, type.enum? = some info → info.Covers raw)
    (done : Converter.standard.convert raw type.declared = .ok value) :
    ∃ content, type.ofValue value = .ok content ∧ type.toValue content = value := by
  have conforms := Converter.convert_conforms Converter.standard_sound done
  have covered : ∀ info, type.enum? = some info → info.Covers value := fun info contains =>
    Converter.convert_covers contains (covers info contains) done
  obtain ⟨content, took⟩ := exists_ofValue_of_conforms regular covered conforms
  exact ⟨content, took, keeps_of_conforms (isExact_of_isRegular regular) conforms content took⟩

/-- A bare list of a text and a variant is converted for an optional list of colours, and taken. -/
theorem ofValue_of_convert_colours :
    let colour : EnumInfo := ⟨{ path := "paint::Colour" }, ["red", "blue"]⟩
    let type : FieldType := .option (.list (.enum colour))
    let raw : Value := .list [.text " red ", .enum colour.type "blue"]
    let value : Value := .optSome (.list [.enum colour.type "red", .enum colour.type "blue"])
    type.isRegular = true ∧ (∀ info, type.enum? = some info → info.Covers raw) ∧
      Converter.standard.convert raw type.declared = .ok value ∧
      ∃ content, type.ofValue value = .ok content ∧ type.toValue content = value := by
  intro colour type raw value
  have covers : ∀ info, type.enum? = some info → info.Covers raw := by
    intro info contains
    obtain rfl := Option.some.inj contains
    refine EnumInfo.covers_list.2 fun item among => ?_
    simp only [List.mem_cons, List.not_mem_nil, or_false] at among
    rcases among with rfl | rfl
    · exact EnumInfo.covers_text _
    · exact EnumInfo.covers_enum.2 (by decide)
  have done : Converter.standard.convert raw type.declared = .ok value := rfl
  exact ⟨rfl, covers, done, ofValue_of_convert rfl covers done⟩

end FieldType

end PropertyGraph
