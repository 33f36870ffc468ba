import PropertyGraph.Proofs.Field.Stores
import PropertyGraph.Proofs.Number.Exact
import PropertyGraph.Proofs.Value.Outside

/-!
# Fields that take what they show

A field of every type takes a value that it can show, and then shows it again. So the elements of a
collection that are handed back unchanged stay what they were, whatever became of the others.
-/
namespace PropertyGraph

namespace FieldType

variable {type element content : FieldType} {taken shown other : Value}

/-! ## Storing what is shown -/

/-- A field of the single width takes the number that it shows. -/
theorem narrow_convert (number : Single) : narrow number.convert = .ok number := by
  rw [narrow, Binary.convert_convert]
  refine if_neg fun beyond => ?_
  obtain ⟨infinite, finite⟩ := Bool.and_eq_true_iff.1 beyond
  rw [Binary.isFinite_convert infinite] at finite
  cases finite

/-- Lists are stored item by item. -/
theorem Stores.list {items shownItems : List Value}
    (each : List.Forall₂ element.Stores items shownItems) :
    (list element).Stores (.list items) (.list shownItems) := by
  obtain ⟨contents, took, shows⟩ : ∃ contents : List element.Carrier,
      List.Forall₂ (fun item content => element.ofValue item = .ok content) items contents ∧
        contents.map element.toValue = shownItems := by
    induction each with
    | nil => exact ⟨[], .nil, rfl⟩
    | cons stores _ ih =>
      obtain ⟨content, took, rfl⟩ := stores
      obtain ⟨contents, others, rfl⟩ := ih
      exact ⟨content :: contents, .cons took others, rfl⟩
  exact ⟨contents, (mapM_eq_ok_iff _ _ _).2 took, congrArg Value.list shows⟩

/-- Maps are stored entry by entry. -/
theorem Stores.map {entries shownEntries : List (String × Value)}
    (each : List.Forall₂ (fun entry shownEntry => entry.1 = shownEntry.1 ∧
      element.Stores entry.2 shownEntry.2) entries shownEntries) :
    (map element).Stores (.map entries) (.map shownEntries) := by
  obtain ⟨contents, took, shows⟩ : ∃ contents : List (String × element.Carrier),
      List.Forall₂ (fun entry content =>
        ((element.ofValue entry.2).map fun held => (entry.1, held)) = .ok content)
        entries contents ∧
        contents.map (fun content => (content.1, element.toValue content.2)) = shownEntries := by
    induction each with
    | nil => exact ⟨[], .nil, rfl⟩
    | cons stores _ ih =>
      obtain ⟨sameName, content, took, shows⟩ := stores
      obtain ⟨contents, others, rfl⟩ := ih
      refine ⟨(_, content) :: contents, .cons (map_eq_ok_iff.2 ⟨content, took, rfl⟩) others, ?_⟩
      rw [List.map_cons]
      exact congrArg (· :: _) (Prod.ext sameName shows)
  exact ⟨contents, (mapM_eq_ok_iff _ _ _).2 took, congrArg Value.map shows⟩

/-- A variant that is shown is stored at the first place with its name. -/
theorem stores_enum (info : EnumInfo) {variant : String} (among : variant ∈ info.variants) :
    (enum info).Stores (.enum info.type variant) (.enum info.type variant) := by
  cases found : info.variants.finIdxOf? variant with
  | none => exact absurd among (by simpa using found)
  | some place =>
    refine ⟨place, by simp [ofValue, ofEnum, found], ?_⟩
    exact congrArg (Value.enum info.type) (List.finIdxOf?_eq_some_iff.1 found).1

/-- What a field shows it takes and shows again. -/
theorem stores_toValue (type : FieldType) (content : type.Carrier) :
    type.Stores (type.toValue content) (type.toValue content) := by
  induction type with
  | int width =>
    obtain ⟨number, inside⟩ := content
    exact ⟨⟨number, inside⟩, by simp [ofValue, ofInt, toValue, inside], rfl⟩
  | single =>
    exact ⟨content, narrow_convert content, rfl⟩
  | bean owner =>
    exact ⟨content, ofValue_toValue rfl content, rfl⟩
  | enum info => exact stores_enum info (List.get_mem _ _)
  | option inner ih =>
    cases content with
    | none => exact ⟨none, rfl, rfl⟩
    | some held =>
      obtain ⟨again, took, shows⟩ := ih held
      refine ⟨some again, ?_, congrArg Value.optSome shows⟩
      simp [ofValue, toValue, ofOption, took, Except.map]
  | list element ih =>
    refine .list (List.forall₂_same.2 fun item among => ?_)
    obtain ⟨held, -, rfl⟩ := List.mem_map.1 among
    exact ih held
  | map element ih =>
    refine .map (List.forall₂_same.2 fun entry among => ?_)
    obtain ⟨held, -, rfl⟩ := List.mem_map.1 among
    exact ⟨rfl, ih held.2⟩
  | _ => exact ⟨content, rfl, rfl⟩

/-- What the field can show is stored as itself. -/
theorem Holds.stores {value : Value} (holds : type.Holds value) : type.Stores value value := by
  obtain ⟨content, rfl⟩ := holds
  exact type.stores_toValue content

/-- The variants of every enum in the type have names of their own. -/
def hasDistinctVariants : FieldType → Bool
  | enum info => info.variants.Nodup
  | option content | list content | map content => content.hasDistinctVariants
  | _ => true

/-- A field whose variants have names of their own holds again what it held. -/
theorem ofValue_toValue_of_distinct (distinct : type.hasDistinctVariants = true)
    (content : type.Carrier) : type.ofValue (type.toValue content) = .ok content := by
  induction type with
  | int width => simp [ofValue, ofInt, toValue, content.property]
  | single => exact narrow_convert content
  | enum info =>
    have apart : info.variants.Nodup := by simpa [hasDistinctVariants] using distinct
    obtain ⟨place, took, shows⟩ := stores_enum info (List.get_mem _ content)
    have same : place = content := by
      have names : info.variants.get place = info.variants.get content := by
        simpa [toValue] using shows
      exact List.nodup_iff_injective_get.1 apart names
    exact same ▸ took
  | option inner ih =>
    cases content with
    | none => rfl
    | some held => simp [ofValue, toValue, ofOption, ih distinct held, Except.map]
  | list element ih =>
    refine (mapM_eq_ok_iff _ _ _).2 (List.forall₂_map_left_iff.2 (List.forall₂_same.2 ?_))
    exact fun held _ => ih distinct held
  | map element ih =>
    refine (mapM_eq_ok_iff _ _ _).2 (List.forall₂_map_left_iff.2 (List.forall₂_same.2 ?_))
    intro entry _
    simp [ih distinct entry.2, Except.map]
  | bean owner => exact ofValue_toValue rfl content
  | _ => rfl

/-- A type that holds again whatever it held has names of its own for its variants: two places of
one name would be taken as one. -/
theorem hasDistinctVariants_of_restores
    (restores : ∀ content, type.ofValue (type.toValue content) = .ok content) :
    type.hasDistinctVariants = true := by
  induction type with
  | enum info =>
    have apart : info.variants.Nodup := by
      refine List.nodup_iff_injective_get.2 fun place other (sameName : _ = _) => ?_
      have shows : (enum info).toValue place = (enum info).toValue other :=
        congrArg (Value.enum info.type) sameName
      have took := restores place
      rw [shows, restores other, Except.ok.injEq] at took
      exact took.symm
    simpa [hasDistinctVariants] using apart
  | option inner ih =>
    refine ih fun held => ?_
    obtain ⟨kept, took, whole⟩ := map_eq_ok_iff.1 (restores (some held))
    exact Option.some.inj whole ▸ took
  | list element ih =>
    refine ih fun held => ?_
    have took := (mapM_eq_ok_iff _ _ _).1 (restores [held])
    exact (List.forall₂_cons.1 took).1
  | map element ih =>
    refine ih fun held => ?_
    have took := (mapM_eq_ok_iff _ _ _).1 (restores [("", held)])
    obtain ⟨kept, inside, whole⟩ := map_eq_ok_iff.1 (List.forall₂_cons.1 took).1
    exact (Prod.mk.inj whole).2 ▸ inside
  | _ => rfl

/-- Fields of a type hold again whatever they held, at any depth of optionals, lists and maps,
exactly if the variants of each enum in the type have names of their own. -/
theorem restores_iff_hasDistinctVariants (type : FieldType) :
    (∀ content, type.ofValue (type.toValue content) = .ok content) ↔
      type.hasDistinctVariants = true :=
  ⟨hasDistinctVariants_of_restores, ofValue_toValue_of_distinct⟩

/-- An optional that holds an empty one is not empty. -/
example : (option (option bool)).ofValue ((option (option bool)).toValue (some none)) =
    .ok (some none) := rfl

/-- A value that a field can show is stored as it is. -/
theorem Stores.eq_of_holds (stores : type.Stores taken shown) (holds : type.Holds taken) :
    shown = taken := by
  obtain ⟨again, took, shows⟩ := holds.stores
  obtain ⟨again', took', rfl⟩ := stores
  rw [took, Except.ok.injEq] at took'
  exact took' ▸ shows

/-! ## Storing a changed collection -/

/-- A filled optional is stored as one, with its content. -/
theorem Stores.of_optSome (stores : (option content).Stores (.optSome taken) shown) :
    ∃ inner, shown = .optSome inner ∧ content.Stores taken inner := by
  obtain ⟨held, took, rfl⟩ := stores
  obtain ⟨kept, inside, rfl⟩ := map_eq_ok_iff.1 took
  exact ⟨_, rfl, kept, inside, rfl⟩

/-- Where a list is one that the field could show, it is stored as it is. -/
theorem getElem?_of_stores {items others shownItems : List Value}
    (each : List.Forall₂ element.Stores others shownItems)
    (holds : ∀ item ∈ items, element.Holds item) {place : Nat}
    (same : others[place]? = items[place]?) : shownItems[place]? = items[place]? := by
  cases found : items[place]? with
  | none =>
    rw [found, List.getElem?_eq_none_iff] at same
    rwa [List.getElem?_eq_none_iff, ← each.length_eq]
  | some item =>
    obtain ⟨shownItem, foundShown, stores⟩ := getElem?_of_forall₂ each (same.trans found)
    rw [foundShown, stores.eq_of_holds (holds item (List.mem_of_getElem? found))]

/-- A key that leads nowhere leads nowhere in entries of the same names. -/
theorem find?_eq_none_of_forall₂ {α β : Type} {relation : α → β → Prop}
    {entries : List (String × α)} {others : List (String × β)}
    (each : List.Forall₂ (fun entry other => entry.1 = other.1 ∧ relation entry.2 other.2)
      entries others) {key : String} (missing : Entries.find? key entries = none) :
    Entries.find? key others = none := by
  induction each with
  | nil => rfl
  | @cons entry other _ _ related _ ih =>
    by_cases same : entry.1 = key
    · simp [Entries.find?, same] at missing
    · simp only [Entries.find?, same, ↓reduceIte] at missing
      simpa [Entries.find?, ← related.1, same] using ih missing

/-- Where two rows of entries agree on a name and one of them can be shown, the other is stored with
the same entry of that name. -/
theorem find?_of_stores {entries others shownEntries : List (String × Value)}
    (each : List.Forall₂ (fun entry shownEntry => entry.1 = shownEntry.1 ∧
      element.Stores entry.2 shownEntry.2) others shownEntries)
    (holds : ∀ entry ∈ entries, element.Holds entry.2) {name : String}
    (same : Entries.find? name others = Entries.find? name entries) :
    Entries.find? name shownEntries = Entries.find? name entries := by
  cases found : Entries.find? name others with
  | none => rw [← same, found, find?_eq_none_of_forall₂ each found]
  | some item =>
    obtain ⟨shownItem, foundShown, stores⟩ := find?_of_forall₂ each found
    have among := Entries.mem_of_find? (same.symm.trans found)
    rw [foundShown, stores.eq_of_holds (holds _ among), ← same, found]

/-- A collection that agrees with one that the field can show but for a key is stored as one that
does. -/
theorem Stores.agreesBut {value : Value} {segment : Segment} (stores : type.Stores taken shown)
    (agrees : Value.AgreesBut segment value taken) (holds : type.Holds value) :
    Value.AgreesBut segment value shown := by
  obtain ⟨content, rfl⟩ := holds
  induction type generalizing taken shown with
  | value =>
    obtain rfl := stores.of_value
    exact agrees
  | option inner ih =>
    cases content with
    | none => cases agrees
    | some held =>
      cases agrees with
      | optSome _ _ other within =>
        obtain ⟨shownInner, rfl, inside⟩ := stores.of_optSome
        exact .optSome segment _ shownInner (ih inside held within)
  | list element _ =>
    cases agrees with
    | list key quoted index _ others isIndex length same =>
      obtain ⟨_, shownItems, whole, rfl, each⟩ := stores.of_list
      obtain rfl := Value.list.inj whole
      refine .list key quoted index _ shownItems isIndex (each.length_eq.symm.trans length) ?_
      refine fun place different => getElem?_of_stores each (fun item among => ?_)
        (same place different)
      obtain ⟨held, -, rfl⟩ := List.mem_map.1 among
      exact ⟨held, rfl⟩
  | map element _ =>
    cases agrees with
    | map key quoted _ others same =>
      obtain ⟨_, shownEntries, whole, rfl, each⟩ := stores.of_map
      obtain rfl := Value.map.inj whole
      refine .map key quoted _ shownEntries fun name different => ?_
      refine find?_of_stores each (fun entry among => ?_) (same name different)
      obtain ⟨held, -, rfl⟩ := List.mem_map.1 among
      exact ⟨held.2, rfl⟩
  | _ => cases agrees

/-- What agrees off a row of keys with a value that the field can show is stored as a value that
does. -/
theorem Stores.agreesOff {value : Value} {keys : List Segment} (stores : type.Stores taken shown)
    (agrees : Value.AgreesOff keys value taken) (holds : type.Holds value) :
    Value.AgreesOff keys value shown := by
  induction keys generalizing type value taken shown with
  | nil => trivial
  | cons segment later ih =>
    obtain ⟨here, rfl | ⟨slot, slot', found, found', further⟩⟩ := agrees
    · exact ⟨stores.agreesBut here holds, .inl rfl⟩
    · obtain ⟨shownSlot, foundShown, inside⟩ := stores.entry found'
      exact ⟨stores.agreesBut here holds, .inr ⟨slot, shownSlot, found, foundShown,
        ih inside further (holds.entry found).1⟩⟩

end FieldType

end PropertyGraph
