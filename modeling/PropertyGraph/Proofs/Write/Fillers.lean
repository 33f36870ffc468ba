import PropertyGraph.Access.Write
import PropertyGraph.Proofs.Access.Makes
import PropertyGraph.Proofs.Field.Shown

/-!
# What an extended list is filled with

A list that is extended to an index gets a new element at every place that is skipped: nothing,
zero, an empty text or collection, or a new bean, as the type of the elements has it. An element is
told by what a field shows of it after taking it. The beans among the new elements are all the beans
that the extension makes.
-/
namespace PropertyGraph

namespace FieldType

/-- The value is what an extended list shows at a place that was skipped. Beans of any type and
variants of enums are made from nothing in no list. -/
def IsFiller : FieldType → Value → Prop
  | bool, shown => shown = .bool false
  | char, shown => shown = .char '\x00'
  | text, shown => shown = .text ""
  | int _, shown => shown = .int 0
  | single, shown | double, shown => shown = .float Binary.zero
  | value, shown => shown = .null
  | option _, shown => shown = .optNone
  | list _, shown => shown = .list []
  | map _, shown => shown = .map []
  | bean type, shown => ∃ ref : BeanRef, ref.type = type ∧ shown = .bean ref
  | anyBean, _ | enum _, _ => False

/-- A field of the type that takes the element shows a filler, with the same bean in it, if any. -/
def Fills (type : FieldType) (element : Value) : Prop :=
  ∀ shown, type.Stores element shown → type.IsFiller shown ∧ shown.bean? = element.bean?

section

variable {type content : FieldType} {element : Value}

/-- An element that is stored as a filler with the same bean in it fills. -/
theorem fills_of_ofValue {held : type.Carrier} (took : type.ofValue element = .ok held)
    (filler : type.IsFiller (type.toValue held))
    (sameBean : (type.toValue held).bean? = element.bean?) : type.Fills element := by
  rintro shown ⟨held', took', rfl⟩
  obtain rfl : held = held' := Except.ok.inj (took.symm.trans took')
  exact ⟨filler, sameBean⟩

/-- Zero fills the fields of integers. -/
theorem fills_int (width : IntWidth) : (int width).Fills (.int 0) := by
  have took : (int width).ofValue (.int 0) = .ok ⟨0, width.contains_zero⟩ := by
    simp [ofValue, ofInt, width.contains_zero]
  exact fills_of_ofValue took rfl rfl

/-- Zero fills the fields of floats of the single width. -/
theorem fills_single : single.Fills (.float Binary.zero) := by
  have widened : (Binary.zero : Single).convert = (Binary.zero : Double) :=
    Binary.convert_zero (by decide) rfl
  have narrowed : narrow (Binary.zero : Single).convert = .ok Binary.zero :=
    narrow_convert Binary.zero
  rw [widened] at narrowed
  exact fills_of_ofValue narrowed (congrArg Value.float widened) rfl

/-- A new bean is shown as it is. -/
theorem fills_bean (owner : TypeRef) (ref : BeanRef) : (bean owner).Fills (.bean ref) := by
  rintro shown ⟨held, took, rfl⟩
  by_cases same : ref.type = owner
  · obtain rfl : ⟨ref, same⟩ = held := by simpa [ofValue, ofBean, same] using took
    exact ⟨⟨ref, same, rfl⟩, rfl⟩
  · simp [ofValue, ofBean, same] at took

/-- Nothing is no bean. -/
theorem fills_anyBean : anyBean.Fills .null := by
  rintro shown ⟨held, took, -⟩
  simp [ofValue, ofAnyBean] at took

end

end FieldType

namespace Accessor

open Access (Makes)

/-- Every constructor of the registry gives a new bean. -/
def ConstructsFresh (accessor : Accessor) : Prop :=
  ∀ type make, accessor.registry.constructor? type = .ok make →
    ∀ world : World, world.Gains [(make world).1] (make world).2

section

variable {accessor : Accessor} {request : WriteRequest} (walked before : List Segment)
  (owner : TypeRef)

/-- A constructor makes the bean that it gives, and no other. -/
theorem construct_makes (fresh : accessor.ConstructsFresh) (type : TypeRef) :
    Makes (accessor.construct walked owner type) fun value made =>
      ∃ ref, value = .bean ref ∧ made = [ref] := by
  unfold construct
  split
  case h_1 make found =>
    refine .bind (.ofWorld (fresh type make found)) ?_
    rintro ref _ rfl
    exact .pure ⟨ref, rfl, rfl⟩
  case h_2 => exact .throw _

/-- An element that is no optional is made, if it can be made, and shown as a filler. -/
theorem grow_makes (fresh : accessor.ConstructsFresh) (type : FieldType)
    (bare : type.declared.isOptional = false) :
    Makes (accessor.grow walked owner type.declared) fun value made =>
      made = value.bean?.toList ∧ type.Fills value := by
  have finish : ∀ value made, made = value.bean?.toList ∧ type.Fills value →
      Makes (do
        Access.record (.grown (Segment.render walked) type.declared.unwrapped)
        return if type.declared.isOptional then .optSome value else value)
        fun result more => made ++ more = result.bean?.toList ∧ type.Fills result := by
    rintro value _ ⟨rfl, fills⟩
    refine .bind (.record _) ?_
    rintro _ _ rfl
    rw [bare]
    exact .pure ⟨by simp, fills⟩
  cases type with
  | bean target =>
    refine .bind ((construct_makes walked owner fresh target).mono ?_) finish
    rintro _ _ ⟨ref, rfl, rfl⟩
    exact ⟨rfl, FieldType.fills_bean target ref⟩
  | list element => exact .bind (.pure ⟨rfl, FieldType.fills_of_ofValue rfl rfl rfl⟩) finish
  | map element => exact .bind (.pure ⟨rfl, FieldType.fills_of_ofValue rfl rfl rfl⟩) finish
  | option content => simp [FieldType.declared, DeclaredType.isOptional] at bare
  | _ => exact .bind (.throw _) finish

/-- A skipped element fills its field, and the only bean that is made is the one in it. -/
theorem filler_makes (fresh : accessor.ConstructsFresh) (type : FieldType) :
    Makes (accessor.filler walked owner type.declared) fun value made =>
      made = value.bean?.toList ∧ type.Fills value := by
  cases type with
  | int width => exact .pure ⟨rfl, FieldType.fills_int width⟩
  | single => exact .pure ⟨rfl, FieldType.fills_single⟩
  | anyBean => exact .pure ⟨rfl, FieldType.fills_anyBean⟩
  | enum info => exact grow_makes walked owner fresh (.enum info) rfl
  | bean target => exact grow_makes walked owner fresh (.bean target) rfl
  | list element => exact grow_makes walked owner fresh (.list element) rfl
  | map element => exact grow_makes walked owner fresh (.map element) rfl
  | option content => exact .pure ⟨rfl, FieldType.fills_of_ofValue rfl rfl rfl⟩
  | _ => exact .pure ⟨rfl, FieldType.fills_of_ofValue rfl rfl rfl⟩

/-- As many elements are made as are skipped, each with its own bean, if any. -/
theorem fillers_makes (fresh : accessor.ConstructsFresh) (type : FieldType) (count : Nat) :
    Makes (accessor.fillers walked owner type.declared count) fun skipped made =>
      skipped.length = count ∧ made = skipped.filterMap Value.bean? ∧
        ∀ element ∈ skipped, type.Fills element := by
  induction count with
  | zero => exact .pure ⟨rfl, rfl, nofun⟩
  | succ count ih =>
    refine .bind (filler_makes walked owner fresh type) ?_
    rintro first _ ⟨rfl, fills⟩
    refine .bind ih ?_
    rintro rest _ ⟨rfl, rfl, others⟩
    refine .pure ⟨rfl, ?_, List.forall_mem_cons.2 ⟨fills, others⟩⟩
    cases isBean : first.bean? <;> simp [isBean]

/-- What became of a list that a slot was wanted of, and the beans that were made for it: the list
has the slot, or it is extended by fillers and an absent slot. -/
inductive ExtendedTo (limit : Nat) (type : FieldType) (index : Nat) (items : List Value) :
    List Value → List BeanRef → Prop where
  | within (inside : index < items.length) : ExtendedTo limit type index items items []
  | beyond (skipped : List Value) (outside : items.length ≤ index) (below : index < limit)
      (length : skipped.length = index - items.length)
      (fills : ∀ element ∈ skipped, type.Fills element) :
    ExtendedTo limit type index items (items ++ skipped ++ [.null])
      (skipped.filterMap Value.bean?)

/-- The extension of a list makes just the beans of the skipped elements. -/
theorem extendTo_makes (fresh : accessor.ConstructsFresh) (type : FieldType) (segment : Segment)
    (index : Nat) (items : List Value) :
    Makes (accessor.extendTo request before segment owner type.declared index items)
      (ExtendedTo request.options.collectionLimit type index items) := by
  by_cases inside : index < items.length
  · simp only [extendTo, inside, if_true]
    exact .pure (.within inside)
  simp only [extendTo, inside, if_false]
  split
  · exact .throw _
  split
  · exact .throw _
  case isFalse grows below =>
    refine .bind (.record _) ?_
    rintro _ _ rfl
    refine .bind (fillers_makes _ owner fresh type _) ?_
    rintro skipped _ ⟨length, rfl, fills⟩
    refine .pure ?_
    simpa using ExtendedTo.beyond skipped (by omega) (by omega) length fills

end

end Accessor

end PropertyGraph
