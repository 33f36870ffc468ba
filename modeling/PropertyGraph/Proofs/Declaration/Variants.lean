import PropertyGraph.Declaration.Basic
import PropertyGraph.Proofs.Declaration.Attributes
import PropertyGraph.Proofs.Field.Shown
import PropertyGraph.Proofs.Graph.Cells

/-!
# Variants of accepted enums

A variant of an enum is called what the last of its attributes asks for, or by its identifier. No
variant is refused for a name that another has already, and a name is always read as the first
variant that is called so. So the variants come back from the values that show them exactly if
their names are different.
-/
namespace PropertyGraph

/-! ## Names of variants -/

namespace VariantDeclaration

/-- The name of the variant: the last one that is given in place of its identifier, if there is. -/
def variantName (variant : VariantDeclaration) : String :=
  (Attribute.given variant.attributes "rename").getLast?.getD variant.ident

/-- A variant that is read has the name that its attributes give it. -/
theorem name_of_read {variant : VariantDeclaration} {declared : DeclaredVariant}
    (done : variant.read = .ok declared) : declared.name.content = variant.variantName := by
  unfold read at done
  split at done
  · obtain ⟨asked?, read, rfl⟩ := map_eq_ok_iff.1 done
    rw [variantName, ← VariantAttributes.content_of_read read]
    cases asked? <;> rfl
  · cases done

end VariantDeclaration

namespace Declaration

variable {τ : Type} {declaration : Declaration τ} {declared : DeclaredEnum}

/-- The names of the variants of an enum, in order. -/
def variantNames (declaration : Declaration τ) : List String :=
  match declaration.body with
  | .enum variants => variants.map (·.variantName)
  | _ => []

/-- The variants of a declaration are those of an enum. -/
theorem enumVariants_eq_ok_iff {variants : List VariantDeclaration} :
    declaration.enumVariants = .ok variants ↔ declaration.body = .enum variants := by
  obtain ⟨ident, generics, attributes, body⟩ := declaration
  cases body <;> simp [enumVariants]

/-- What a declaration has passed that is accepted as one of an enum. -/
theorem enum_eq_ok_iff :
    declaration.enum = .ok declared ↔
      ∃ variants made, declaration.body = .enum variants ∧
        declaration.generics.isGeneric = false ∧
        List.Forall₂ (fun variant made => variant.read = .ok made) variants made ∧
        ⟨declaration.ident, made⟩ = declared := by
  have whole : declaration.enum = declaration.enumVariants.bind fun variants =>
      if declaration.generics.isGeneric then .error .genericEnum
      else (variants.mapM VariantDeclaration.read).map (⟨declaration.ident, ·⟩) := by
    unfold enum
    refine bind_congr fun variants => ?_
    cases declaration.generics.isGeneric <;> rfl
  simp only [whole, bind_eq_ok_iff, enumVariants_eq_ok_iff, ← mapM_eq_ok_iff]
  cases declaration.generics.isGeneric <;> simp [map_eq_ok_iff]

/-- The variants of an accepted enum have the names that their declarations give them. -/
theorem variants_of_enum (accepted : declaration.enum = .ok declared) (type : TypeRef) :
    (declared.info type).variants = declaration.variantNames := by
  obtain ⟨variants, made, isEnum, -, each, rfl⟩ := enum_eq_ok_iff.1 accepted
  rw [DeclaredEnum.info, variantNames, isEnum]
  change made.map (·.name.content) = variants.map (·.variantName)
  clear accepted isEnum
  induction each with
  | nil => rfl
  | cons read _ ih => rw [List.map_cons, List.map_cons, ih, VariantDeclaration.name_of_read read]

end Declaration

/-! ## Values of variants -/

/-- Gives a field of a bean the value that it shows. -/
def Bean.handBack (bean : Bean) (field : String) (type : FieldType) : Invocation Unit :=
  match (Getter.ofField bean.type field).invoke bean with
  | (.ok value, bean) => (Setter.ofField bean.type field type).invoke bean value
  | (.error cause, bean) => (.error cause, bean)

/-- A bean is left as it is by the value that a field of it shows, exactly if the field takes from
that value what it holds. -/
theorem Bean.handBack_eq_iff {bean : Bean} {field : String} {type : FieldType}
    {content : type.Carrier} (holds : bean.field? field = some ⟨type, content⟩) :
    bean.handBack field type = (.ok (), bean) ↔
      type.ofValue (type.toValue content) = .ok content := by
  have shows : bean.fieldValue field = type.toValue content := by
    rw [fieldValue, holds]
    rfl
  cases took : type.ofValue (type.toValue content) with
  | ok taken =>
    have handed : bean.handBack field type = (.ok (), bean.withField field ⟨type, taken⟩) := by
      simp only [handBack, Getter.invoke, Getter.ofField, Setter.invoke, Setter.ofField, shows,
        took, ↓reduceIte]
    rw [handed, Except.ok.injEq]
    constructor
    · intro same
      have kept := congrArg (fun outcome => outcome.2.field? field) same
      simpa [field?_withField, holds] using kept
    · rintro rfl
      rw [withField_eq_self holds]
  | error cause =>
    have handed : bean.handBack field type = (.error (.value cause), bean) := by
      simp only [handBack, Getter.invoke, Getter.ofField, Setter.invoke, Setter.ofField, shows,
        took, ↓reduceIte]
    simp [handed]

namespace FieldType

variable {info : EnumInfo}

/-- Variants come back from the values that show them exactly if their names are different. -/
theorem restores_enum_iff :
    (∀ place, (enum info).ofValue ((enum info).toValue place) = .ok place) ↔
      info.variants.Nodup := by
  have distinct : (enum info).hasDistinctVariants = true ↔ info.variants.Nodup := by
    simp [hasDistinctVariants]
  exact ⟨fun restores => distinct.1 (hasDistinctVariants_of_restores restores),
    fun apart => ofValue_toValue_of_distinct (distinct.2 apart)⟩

end FieldType

namespace Declaration

variable {τ : Type} {declaration : Declaration τ} {declared : DeclaredEnum}

/-- The variants of an accepted enum are called as their declarations ask. Each of them comes back
from the value that shows it, and no bean is changed by the value of a field of the enum that is
handed back to it, exactly if these names are different from each other. -/
theorem enum_restores_iff (accepted : declaration.enum = .ok declared) (type : TypeRef) :
    let kind : FieldType := .enum (declared.info type)
    (declared.info type).variants = declaration.variantNames ∧
    ((∀ variant, kind.ofValue (kind.toValue variant) = .ok variant) ↔
      declaration.variantNames.Nodup) ∧
    ((∀ (bean : Bean) (field : String) (variant : kind.Carrier),
      bean.field? field = some ⟨kind, variant⟩ → bean.handBack field kind = (.ok (), bean)) ↔
      declaration.variantNames.Nodup) := by
  intro kind
  have names := variants_of_enum accepted type
  have restores : (∀ variant, kind.ofValue (kind.toValue variant) = .ok variant) ↔
      declaration.variantNames.Nodup := names ▸ FieldType.restores_enum_iff
  refine ⟨names, restores, ?_⟩
  rw [← restores]
  constructor
  · intro kept variant
    let bean : Bean := ⟨type, [("variant", ⟨kind, variant⟩)]⟩
    have holds : bean.field? "variant" = some ⟨kind, variant⟩ := rfl
    exact (Bean.handBack_eq_iff holds).1 (kept bean "variant" variant holds)
  · intro each bean field variant holds
    exact (Bean.handBack_eq_iff holds).2 (each variant)

/-- The sides of a coin, one of them with another name. -/
def side : Declaration FieldType where
  ident := "Side"
  body := .enum [⟨"Heads", [], []⟩,
    ⟨"Tails", [], [⟨"bean", [.pair [.word "rename"] [.literal "r\"Number\""]]⟩]⟩]

/-- What the coin is accepted as. -/
def declaredSide : DeclaredEnum where
  ident := "Side"
  variants := [⟨"Heads", .ofContent "Heads"⟩, ⟨"Tails", "r\"Number\"", "Number"⟩]

/-- Each side of the coin comes back from the value that shows it. -/
theorem enum_restores_side :
    side.enum = .ok declaredSide ∧ ∀ type variant,
      (FieldType.enum (declaredSide.info type)).ofValue
        ((FieldType.enum (declaredSide.info type)).toValue variant) = .ok variant :=
  have accepted : side.enum = .ok declaredSide := rfl
  ⟨accepted, fun type => (enum_restores_iff accepted type).2.1.2 (by decide)⟩

/-- A switch with two variants of one name. -/
def switch : Declaration FieldType where
  ident := "Switch"
  body := .enum [⟨"A", [], []⟩, ⟨"B", [], [⟨"bean", [.pair [.word "rename"] [.literal "r\"A\""]]⟩]⟩]

/-- What the switch is accepted as. -/
def declaredSwitch : DeclaredEnum where
  ident := "Switch"
  variants := [⟨"A", .ofContent "A"⟩, ⟨"B", "r\"A\"", "A"⟩]

/-- A declaration with two variants of one name is accepted, and the second is read as the first. -/
theorem enum_confuses_switch :
    let kind : FieldType := .enum (declaredSwitch.info { path := "Switch" })
    let first : kind.Carrier := ⟨0, by decide⟩
    let second : kind.Carrier := ⟨1, by decide⟩
    switch.enum = .ok declaredSwitch ∧ kind.ofValue (kind.toValue second) = .ok first ∧
      first ≠ second := by
  exact ⟨rfl, rfl, by decide⟩

end Declaration

end PropertyGraph
