import PropertyGraph.Convert.Coercion
import PropertyGraph.Proofs.Field.Stores

/-!
# Conforming values

A value conforms to a declared type if it is one of the values of the type: in the range of the
integer type, of the very enum or bean type, with conforming elements, an empty optional or one with
a conforming content. A coercion is sound if it leads to conforming values, provided that those do
which it asks for. Then so does every conversion, and the standard coercions are sound.
-/
namespace PropertyGraph

namespace DeclaredType

/-- The value is one of the values of the type. -/
def Conforms : DeclaredType → Value → Prop
  | any, _ => True
  | bool, raw => ∃ flag, raw = .bool flag
  | int width, raw => ∃ number, raw = .int number ∧ width.contains number = true
  | float, raw => ∃ number, raw = .float number
  | char, raw => ∃ character, raw = .char character
  | text, raw => ∃ content, raw = .text content
  | enum info, raw => ∃ variant, raw = .enum info.type variant
  | list element, raw => ∃ items, raw = .list items ∧ ∀ item ∈ items, element.Conforms item
  | map element, raw => ∃ entries, raw = .map entries ∧ ∀ entry ∈ entries, element.Conforms entry.2
  | optional content, raw =>
    raw = .optNone ∨ ∃ inner, raw = .optSome inner ∧ content.Conforms inner
  | bean type, raw => ∃ ref, raw = .bean ref ∧ ref.type = type

end DeclaredType

/-- Whatever is answered conforms to the type that was asked for. -/
def Ask.Conforms (ask : Ask) : Prop :=
  ∀ raw target answer, ask raw target = .ok answer → target.Conforms (answer.getD raw)

/-- The coercion applies to a target under the key. -/
def CoercionKey.LeadsTo (key : CoercionKey) (target : DeclaredType) : Prop :=
  match key with
  | .kind reached => target.kind? = some reached
  | .type named => target.named? = some named

/-- The coercion leads to conforming values if those do which it asks for. -/
def Coercion.Sound (coercion : Coercion) (key : CoercionKey) : Prop :=
  ∀ raw target ask value, key.LeadsTo target → Ask.Conforms ask →
    coercion raw target ask = .ok value → target.Conforms value

namespace Converter

/-- Every coercion leads to conforming values. -/
def Sound (converter : Converter) : Prop :=
  ∀ entry ∈ converter.coercions, entry.2.Sound entry.1.2

section

variable {converter : Converter} {ask : Ask} {target element : DeclaredType}
  {attempt : Value → Attempt}

/-- What a conversion makes of a value is one of the values of the type. -/
def Reaches (attempt : Value → Attempt) (target : DeclaredType) : Prop :=
  ∀ raw answer, attempt raw = .ok answer → target.Conforms (answer.getD raw)

/-- A coercion that is found in a sound converter is sound for its key. -/
theorem sound_of_lookup? (sound : converter.Sound) {source : ValueKind} {key : CoercionKey}
    {coercion : Coercion} (found : converter.lookup? source key = some coercion) :
    coercion.Sound key := by
  obtain ⟨entry, first, rfl⟩ := Option.map_eq_some_iff.1 found
  have same : entry.1 = (source, key) := by simpa using List.find?_some first
  have told := sound entry (List.mem_of_find?_eq_some first)
  rwa [same] at told

/-- A sound coercion leads to a value of the type that was asked for. -/
theorem coerce_conforms (sound : converter.Sound) (asks : Ask.Conforms ask) {raw value : Value}
    (done : converter.coerce raw target ask = .ok value) : target.Conforms value := by
  simp only [coerce] at done
  split at done
  · next coercion found =>
    rcases Option.or_eq_some_iff.1 found with named | ⟨-, kind⟩
    · obtain ⟨type, isNamed, found⟩ := Option.bind_eq_some_iff.1 named
      exact sound_of_lookup? sound found raw target ask value isNamed asks done
    · obtain ⟨kind, isKind, found⟩ := Option.bind_eq_some_iff.1 kind
      exact sound_of_lookup? sound found raw target ask value isKind asks done
  · simp at done

/-- What is made inside optionals that are taken off is a value of the type. -/
theorem throughOptionals_reaches (reaches : Reaches attempt target) :
    Reaches (throughOptionals attempt) target := by
  intro raw answer done
  induction raw using throughOptionals.induct generalizing answer with
  | case1 content ih =>
    rw [throughOptionals] at done
    obtain ⟨converted, inner, rfl⟩ := map_eq_ok_iff.1 done
    exact ih converted inner
  | case2 raw bare =>
    rw [throughOptionals] at done
    exact reaches raw answer done
    exact bare

/-- What is brought into an optional is a value of the optional type. -/
theorem intoOptional_reaches (reaches : Reaches attempt target) :
    Reaches (intoOptional attempt) (.optional target) := by
  intro raw answer done
  cases raw with
  | optNone =>
    obtain rfl : none = answer := by simpa [intoOptional] using done
    exact .inl rfl
  | null =>
    obtain rfl : some .optNone = answer := by simpa [intoOptional] using done
    exact .inl rfl
  | optSome content =>
    obtain ⟨converted, inner, rfl⟩ := map_eq_ok_iff.1 done
    have conforms := reaches content converted inner
    cases converted with
    | none => exact .inr ⟨content, rfl, conforms⟩
    | some value => exact .inr ⟨value, rfl, conforms⟩
  | _ =>
    obtain ⟨converted, inner, rfl⟩ := map_eq_ok_iff.1 done
    exact .inr ⟨_, rfl, reaches _ converted inner⟩

/-- Each converted item is what an item has become. -/
theorem exists_of_mem_convertItems {items : List Value} {answer : Option (List Value)}
    (done : convertItems attempt items = .ok answer) :
    ∀ result ∈ answer.getD items, ∃ item ∈ items, ∃ converted,
      attempt item = .ok converted ∧ converted.getD item = result := by
  induction items generalizing answer with
  | nil =>
    obtain rfl : none = answer := by simpa [convertItems] using done
    simp
  | cons item rest ih =>
    simp only [convertItems] at done
    cases first : attempt item with
    | error cause => simp [first, Except.bind] at done
    | ok converted =>
      cases further : convertItems attempt rest with
      | error cause => simp [first, further, Except.bind, Except.map] at done
      | ok others =>
        have whole : answer.getD (item :: rest) = converted.getD item :: others.getD rest := by
          simp only [first, further, Except.bind, Except.map, Except.ok.injEq] at done
          subst done
          cases converted <;> cases others <;> rfl
        rw [whole]
        intro result among
        rcases List.mem_cons.1 among with rfl | among
        · exact ⟨item, List.mem_cons_self, converted, first, rfl⟩
        · obtain ⟨other, among, become⟩ := ih further result among
          exact ⟨other, List.mem_cons_of_mem _ among, become⟩

/-- Each converted entry is what an entry has become under its key. -/
theorem exists_of_mem_convertEntries {entries : List (String × Value)}
    {answer : Option (List (String × Value))}
    (done : convertEntries attempt entries = .ok answer) :
    ∀ result ∈ answer.getD entries, ∃ entry ∈ entries, ∃ converted,
      attempt entry.2 = .ok converted ∧ (entry.1, converted.getD entry.2) = result := by
  induction entries generalizing answer with
  | nil =>
    obtain rfl : none = answer := by simpa [convertEntries] using done
    simp
  | cons entry rest ih =>
    obtain ⟨key, item⟩ := entry
    simp only [convertEntries] at done
    cases first : attempt item with
    | error cause => simp [first, Except.bind] at done
    | ok converted =>
      cases further : convertEntries attempt rest with
      | error cause => simp [first, further, Except.bind, Except.map] at done
      | ok others =>
        have whole : answer.getD ((key, item) :: rest) =
            (key, converted.getD item) :: others.getD rest := by
          simp only [first, further, Except.bind, Except.map, Except.ok.injEq] at done
          subst done
          cases converted <;> cases others <;> rfl
        rw [whole]
        intro result among
        rcases List.mem_cons.1 among with rfl | among
        · exact ⟨(key, item), List.mem_cons_self, converted, first, rfl⟩
        · obtain ⟨other, among, become⟩ := ih further result among
          exact ⟨other, List.mem_cons_of_mem _ among, become⟩

/-- Every item is one of the element type after all have been converted. -/
theorem convertItems_conforms (reaches : Reaches attempt target) {items : List Value}
    {answer : Option (List Value)} (done : convertItems attempt items = .ok answer) :
    ∀ item ∈ answer.getD items, target.Conforms item := by
  intro result among
  obtain ⟨item, -, converted, become, rfl⟩ := exists_of_mem_convertItems done result among
  exact reaches item converted become

/-- Every value of a map is one of the element type after all have been converted. -/
theorem convertEntries_conforms (reaches : Reaches attempt target)
    {entries : List (String × Value)} {answer : Option (List (String × Value))}
    (done : convertEntries attempt entries = .ok answer) :
    ∀ entry ∈ answer.getD entries, target.Conforms entry.2 := by
  intro result among
  obtain ⟨entry, -, converted, become, rfl⟩ := exists_of_mem_convertEntries done result among
  exact reaches entry.2 converted become

/-- What a coercion to a collection may ask for conforms. -/
theorem askElement_conforms (reaches : Reaches attempt element) (asks : Ask.Conforms ask) :
    Ask.Conforms (askElement element attempt ask) := by
  intro raw target answer done
  simp only [askElement] at done
  split at done
  · next same => exact same ▸ reaches raw answer done
  · exact asks raw target answer done

/-- What is coerced is a value of the type. -/
theorem coerced_conforms (sound : converter.Sound) (asks : Ask.Conforms ask) {raw : Value}
    {answer : Option Value} (done : (converter.coerce raw target ask).map some = .ok answer) :
    target.Conforms (answer.getD raw) := by
  obtain ⟨value, coerced, rfl⟩ := map_eq_ok_iff.1 done
  exact coerce_conforms sound asks coerced

/-- What is brought to a list is a value of the list type. -/
theorem intoList_reaches (sound : converter.Sound) (reaches : Reaches attempt element)
    (asks : Ask.Conforms ask) :
    Reaches (converter.intoList element attempt ask) (.list element) := by
  intro raw answer done
  cases raw with
  | list items =>
    obtain ⟨others, converted, rfl⟩ := map_eq_ok_iff.1 done
    have each := convertItems_conforms reaches converted
    cases others with
    | none => exact ⟨items, rfl, each⟩
    | some others => exact ⟨others, rfl, each⟩
  | _ => exact coerced_conforms sound (askElement_conforms reaches asks) done

/-- What is brought to a map is a value of the map type. -/
theorem intoMap_reaches (sound : converter.Sound) (reaches : Reaches attempt element)
    (asks : Ask.Conforms ask) :
    Reaches (converter.intoMap element attempt ask) (.map element) := by
  intro raw answer done
  cases raw with
  | map entries =>
    obtain ⟨others, converted, rfl⟩ := map_eq_ok_iff.1 done
    have each := convertEntries_conforms reaches converted
    cases others with
    | none => exact ⟨entries, rfl, each⟩
    | some others => exact ⟨others, rfl, each⟩
  | _ => exact coerced_conforms sound (askElement_conforms reaches asks) done

/-- What is brought to a scalar, an enum or a bean is a value of that type. -/
theorem intoScalar_reaches (sound : converter.Sound) (asks : Ask.Conforms ask)
    (target : DeclaredType) : Reaches (converter.intoScalar target ask) target := by
  intro raw answer done
  unfold intoScalar at done
  split at done
  case h_1 number width =>
    split at done
    case isTrue inside =>
      obtain rfl := Except.ok.inj done
      exact ⟨number, rfl, inside⟩
    case isFalse => simp at done
  case h_2 => exact Except.ok.inj done ▸ ⟨_, rfl⟩
  case h_3 => exact Except.ok.inj done ▸ ⟨_, rfl⟩
  case h_4 => exact Except.ok.inj done ▸ ⟨_, rfl⟩
  case h_5 => exact Except.ok.inj done ▸ ⟨_, rfl⟩
  case h_6 type variant info =>
    split at done
    case isTrue same =>
      obtain rfl := Except.ok.inj done
      exact ⟨variant, by rw [← same]; rfl⟩
    case isFalse => exact coerced_conforms sound asks done
  case h_7 ref type =>
    split at done
    case isTrue same =>
      obtain rfl := Except.ok.inj done
      exact ⟨ref, rfl, same⟩
    case isFalse => exact coerced_conforms sound asks done
  case h_8 => exact coerced_conforms sound asks done

/-- Whatever is attempted at a target leads to one of its values. -/
theorem attempt_reaches (sound : converter.Sound) (asks : Ask.Conforms ask)
    (target : DeclaredType) : Reaches (converter.attempt ask target) target := by
  induction target with
  | any => exact fun _ _ _ => trivial
  | optional content ih => exact intoOptional_reaches ih
  | list element ih => exact throughOptionals_reaches (intoList_reaches sound ih asks)
  | map element ih => exact throughOptionals_reaches (intoMap_reaches sound ih asks)
  | _ => exact throughOptionals_reaches (intoScalar_reaches sound asks _)

/-- However many questions are allowed, what is answered conforms. -/
theorem attemptWithin_conforms (sound : converter.Sound) (depth : Nat) :
    Ask.Conforms (converter.attemptWithin depth) := by
  induction depth with
  | zero =>
    have asks : Ask.Conforms fun _ _ => .error .endless := by
      intro raw target answer done
      simp at done
    exact fun raw target => attempt_reaches sound asks target raw
  | succ depth ih => exact fun raw target => attempt_reaches sound ih target raw

/-- A converted value is one of the values of the target. -/
theorem convert_conforms (sound : converter.Sound) {raw value : Value}
    (done : converter.convert raw target = .ok value) : target.Conforms value := by
  simp only [convert] at done
  split at done
  case h_1 answer converted =>
    obtain rfl := Except.ok.inj done
    exact attemptWithin_conforms sound depth raw target answer converted
  case h_2 => simp at done

end

/-! ## The standard coercions -/

section

variable {ask : Ask} {target : DeclaredType} {raw value : Value}

/-- A value that was asked for conforms, whether it was changed or kept. -/
theorem askOrKeep_conforms (asks : Ask.Conforms ask)
    (done : Coercion.askOrKeep ask raw target = .ok value) : target.Conforms value := by
  obtain ⟨answer, asked, rfl⟩ := map_eq_ok_iff.1 done
  exact asks raw target answer asked

/-- A number that fits the width conforms to it. -/
theorem fitInt_conforms {written : String} {width : IntWidth} {number : Int}
    (done : Coercion.fitInt written (.int width) number = .ok value) :
    (DeclaredType.int width).Conforms value := by
  simp only [Coercion.fitInt] at done
  split at done
  case isTrue inside => exact Except.ok.inj done ▸ ⟨number, rfl, inside⟩
  case isFalse => simp at done

/-- A text that is read as a truth value becomes one. -/
theorem textToBool_conforms {text : String} (done : Coercion.textToBool text = .ok value) :
    DeclaredType.bool.Conforms value := by
  simp only [Coercion.textToBool] at done
  split at done
  · exact ⟨_, (Except.ok.inj done).symm⟩
  · simp at done

/-- A text that is read as an integer becomes one of the width. -/
theorem textToInt_conforms {text : String} {width : IntWidth}
    (done : Coercion.textToInt text (.int width) = .ok value) :
    (DeclaredType.int width).Conforms value := by
  simp only [Coercion.textToInt] at done
  split at done
  · simp at done
  · simp at done
  · exact fitInt_conforms done

/-- A text that is read as a float becomes one. -/
theorem textToFloat_conforms {text : String} (done : Coercion.textToFloat text = .ok value) :
    DeclaredType.float.Conforms value := by
  simp only [Coercion.textToFloat] at done
  split at done
  · exact ⟨_, (Except.ok.inj done).symm⟩
  · simp at done

/-- A text that is read as a character becomes one. -/
theorem textToChar_conforms {text : String} (done : Coercion.textToChar text = .ok value) :
    DeclaredType.char.Conforms value := by
  simp only [Coercion.textToChar] at done
  split at done
  · exact ⟨_, (Except.ok.inj done).symm⟩
  · split at done
    · exact ⟨_, (Except.ok.inj done).symm⟩
    · simp at done

/-- A text that is read as a variant becomes one of the enum. -/
theorem textToEnum_conforms {text : String} {info : EnumInfo}
    (done : Coercion.textToEnum text (.enum info) = .ok value) :
    (DeclaredType.enum info).Conforms value := by
  simp only [Coercion.textToEnum] at done
  split at done
  · exact ⟨_, (Except.ok.inj done).symm⟩
  · simp at done

/-- A text that is split becomes a list of the element type. -/
theorem textToList_conforms {text : String} {element : DeclaredType} (asks : Ask.Conforms ask)
    (done : Coercion.textToList text (.list element) ask = .ok value) :
    (DeclaredType.list element).Conforms value := by
  simp only [Coercion.textToList] at done
  split at done
  · exact ⟨[], (Except.ok.inj done).symm, by simp⟩
  · obtain ⟨items, converted, rfl⟩ := map_eq_ok_iff.1 done
    refine ⟨items, rfl, fun item among => ?_⟩
    have each := (mapM_eq_ok_iff _ _ _).1 converted
    obtain ⟨index, bounded, rfl⟩ := List.getElem_of_mem among
    have bounded' : index < (Text.parts ',' text).length := each.length_eq ▸ bounded
    exact askOrKeep_conforms asks (each.get bounded' bounded)

/-- A float without a fraction becomes an integer of the width. -/
theorem floatToInt_conforms {number : Double} {width : IntWidth}
    (done : Coercion.floatToInt number (.int width) = .ok value) :
    (DeclaredType.int width).Conforms value := by
  simp only [Coercion.floatToInt] at done
  split at done
  · simp at done
  · split at done
    · simp at done
    · exact fitInt_conforms done

/-- A single value becomes a list of the element type. -/
theorem toSingleton_conforms {element : DeclaredType} (asks : Ask.Conforms ask)
    (done : Coercion.toSingleton raw (.list element) ask = .ok value) :
    (DeclaredType.list element).Conforms value := by
  obtain ⟨item, converted, rfl⟩ := map_eq_ok_iff.1 done
  refine ⟨[item], rfl, fun other among => ?_⟩
  obtain rfl := List.mem_singleton.1 among
  exact askOrKeep_conforms asks converted

/-- The coercions from texts are sound. -/
theorem textCoercions_sound {kind : ValueKind} {coercion : Coercion}
    (among : (kind, coercion) ∈ textCoercions) : coercion.Sound (.kind kind) := by
  simp only [textCoercions, List.mem_cons, Prod.mk.injEq, List.not_mem_nil, or_false] at among
  intro raw target ask value leads asks done
  rcases among with ⟨rfl, rfl⟩ | ⟨rfl, rfl⟩ | ⟨rfl, rfl⟩ | ⟨rfl, rfl⟩ | ⟨rfl, rfl⟩ | ⟨rfl, rfl⟩
  all_goals
    cases target <;> simp [CoercionKey.LeadsTo, DeclaredType.kind?] at leads
    simp only [Coercion.ofText] at done
  · exact textToBool_conforms done
  · exact textToInt_conforms done
  · exact textToFloat_conforms done
  · exact textToChar_conforms done
  · exact textToEnum_conforms done
  · exact textToList_conforms asks done

/-- The coercion from integers to floats is sound. -/
theorem intFloatCoercion_sound : intFloatCoercion.Sound (.kind .float) := by
  intro raw target ask value leads asks done
  cases target <;> simp [CoercionKey.LeadsTo, DeclaredType.kind?] at leads
  cases raw with
  | int number => exact ⟨_, (Except.ok.inj done).symm⟩
  | _ => simp [intFloatCoercion] at done

/-- The coercion from floats to integers is sound. -/
theorem floatIntCoercion_sound : floatIntCoercion.Sound (.kind .int) := by
  intro raw target ask value leads asks done
  cases target <;> simp [CoercionKey.LeadsTo, DeclaredType.kind?] at leads
  cases raw with
  | float number => exact floatToInt_conforms done
  | _ => simp [floatIntCoercion] at done

/-- The coercion to texts is sound. -/
theorem textCoercion_sound : textCoercion.Sound (.kind .text) := by
  intro raw target ask value leads asks done
  cases target <;> simp [CoercionKey.LeadsTo, DeclaredType.kind?] at leads
  exact ⟨_, (Except.ok.inj done).symm⟩

/-- The coercion to lists of one item is sound. -/
theorem toSingleton_sound : Coercion.Sound Coercion.toSingleton (.kind .list) := by
  intro raw target ask value leads asks done
  cases target <;> simp [CoercionKey.LeadsTo, DeclaredType.kind?] at leads
  exact toSingleton_conforms asks done

/-- The standard coercions are sound. -/
theorem standard_sound : standard.Sound := by
  intro entry among
  simp only [standard, List.mem_append, List.mem_map, List.mem_cons, List.not_mem_nil,
    or_false] at among
  rcases among with ((⟨entry, among, rfl⟩ | rfl | rfl) | ⟨kind, -, rfl⟩) | ⟨kind, -, rfl⟩
  · exact textCoercions_sound among
  · exact intFloatCoercion_sound
  · exact floatIntCoercion_sound
  · exact textCoercion_sound
  · exact toSingleton_sound

end

end Converter

end PropertyGraph
