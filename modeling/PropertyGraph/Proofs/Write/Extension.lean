import PropertyGraph.Proofs.Write.Foretold

/-!
# Growth only adds to what writes can do

Growth has a say in a write at two places: where a value on the way is absent, and where a list has
no element at an index. At both a write without growth fails, and says why. Wherever it does not
fail so, it takes the very steps of a write with growth, whatever the limit for lists is: both have
one outcome, and they leave one world behind.
-/
namespace PropertyGraph

/-- Something is not there that a write with growth would try to make. -/
def AccessError.isAbsence : AccessError → Bool
  | .growFailed _ _ .disabled | .invalidProperty _ _ (.outOfBounds _ _) => true
  | _ => false

/-- Unless the first access fails for something that is not there, the second runs just as it
does. -/
def Access.ExtendedBy {α : Type} (first second : Access α) : Prop :=
  ∀ world, (∃ error after, first.runOn world = (.error error, after) ∧ error.isAbsence = true) ∨
    second.runOn world = first.runOn world

namespace Access.ExtendedBy

variable {α β : Type} {first second : Access α}

/-- Every access extends itself. -/
theorem refl (access : Access α) : ExtendedBy access access :=
  fun _ => .inr rfl

/-- An access that fails for something that is not there is extended by every access. -/
theorem of_absence {error : AccessError} (absence : error.isAbsence = true) :
    ExtendedBy (throw error) second :=
  fun world => .inl ⟨error, world, rfl, absence⟩

/-- Sequences extend each other part by part. -/
theorem bind (extended : ExtendedBy first second) {next next' : α → Access β}
    (further : ∀ value, ExtendedBy (next value) (next' value)) :
    ExtendedBy (first >>= next) (second >>= next') := by
  intro world
  rcases extended world with ⟨error, after, failed, absence⟩ | same
  · exact .inl ⟨error, after, runOn_bind_of_error failed next, absence⟩
  rcases run : first.runOn world with ⟨(error | value), middle⟩
  · right
    rw [runOn_bind_of_error run, runOn_bind_of_error (same.trans run)]
  · rw [runOn_bind_of_ok run, runOn_bind_of_ok (same.trans run)]
    exact further value middle

/-- The extension succeeds where the first access does, with the same result. -/
theorem run_of_ok (extended : ExtendedBy first second) {world after : World} {value : α}
    (done : first.runOn world = (.ok value, after)) :
    second.runOn world = (.ok value, after) := by
  rcases extended world with ⟨error, left, failed, -⟩ | same
  · simp [failed] at done
  · exact same.trans done

/-- The extension fails as the first access does, where that misses nothing. -/
theorem run_of_error (extended : ExtendedBy first second) {world after : World}
    {error : AccessError} (failed : first.runOn world = (.error error, after))
    (present : error.isAbsence = false) : second.runOn world = (.error error, after) := by
  rcases extended world with ⟨other, left, failed', absence⟩ | same
  · obtain rfl : other = error := by simpa using (Prod.mk.inj (failed'.symm.trans failed)).1
    simp [present] at absence
  · exact same.trans failed

end Access.ExtendedBy

namespace Accessor

open Access (ExtendedBy)

/-- At every value the first walk is extended by the second. -/
def WalkExtendedBy (walk walk' : Walk) : Prop :=
  ∀ holder declared owner, ExtendedBy (walk holder declared owner) (walk' holder declared owner)

section

variable {accessor : Accessor} {quiet growing : WriteRequest} {walk walk' : Walk}
  {walk? walk'? : Option Walk} (off : quiet.options.growNested = false)

include off

/-! ## Steps -/

/-- An absent value is made where it could not be before, and nothing else is different. -/
theorem growIfAllowed_extended (walked : List Segment) (owner : TypeRef)
    (declared : DeclaredType) :
    ExtendedBy (accessor.growIfAllowed quiet walked owner declared)
      (accessor.growIfAllowed growing walked owner declared) := by
  have refuses : accessor.growIfAllowed quiet walked owner declared =
      throw (.growFailed (Segment.render walked) owner .disabled) := by
    simp [growIfAllowed, off]
  rw [refuses]
  exact .of_absence rfl

/-- A list is extended where it could not be before, and nothing else is different. -/
theorem extendTo_extended (before : List Segment) (segment : Segment) (owner : TypeRef)
    (element : DeclaredType) (index : Nat) (items : List Value) :
    ExtendedBy (accessor.extendTo quiet before segment owner element index items)
      (accessor.extendTo growing before segment owner element index items) := by
  by_cases inside : index < items.length
  · have keeps : ∀ request,
        accessor.extendTo request before segment owner element index items = pure items := by
      intro request
      simp [extendTo, inside]
    rw [keeps, keeps]
    exact .refl _
  · have refuses : accessor.extendTo quiet before segment owner element index items =
        throw (.invalidProperty (Segment.render (before ++ [segment])) owner
          (.outOfBounds index items.length)) := by
      simp [extendTo, inside, off]
    rw [refuses]
    exact .of_absence rfl

/-- A property that is present is entered alike. -/
theorem enter_extended (walked : List Segment) (ref : BeanRef) (info : PropertyInfo) :
    ExtendedBy (accessor.enter quiet walked ref info)
      (accessor.enter growing walked ref info) := by
  refine .bind (.refl _) fun child => ?_
  split
  · exact .bind (growIfAllowed_extended off walked ref.type info.type) fun _ => .refl _
  · exact .refl _

/-- A slot that is present is entered alike. -/
theorem enterSlot_extended (walked : List Segment) (owner : TypeRef) (element : DeclaredType)
    (slot : Value) :
    ExtendedBy (accessor.enterSlot quiet walked owner element slot)
      (accessor.enterSlot growing walked owner element slot) := by
  unfold enterSlot
  split
  · exact growIfAllowed_extended off walked owner element
  · exact .refl _

/-! ## Walks -/

/-- Below a name the walk is extended as what is behind the name is. -/
theorem planBelow_extended (extended : WalkExtendedBy walk walk') (walked : List Segment)
    (ref : BeanRef) (name : String) :
    ExtendedBy (accessor.planBelow quiet walked ref name walk)
      (accessor.planBelow growing walked ref name walk') := by
  unfold planBelow
  split
  · split
    · exact .bind (enter_extended off _ _ _) fun child =>
        .bind (extended _ _ _) fun _ => .refl _
    · exact .refl _
  · exact .bind (.refl _) fun handle => .bind (extended _ _ _) fun _ => .refl _
  · exact .refl _

/-- Below a slot the walk is extended as what is behind the slot is. -/
theorem planSlot_extended (extended : Option.Rel WalkExtendedBy walk? walk'?)
    (walked : List Segment) (owner : TypeRef) (element : DeclaredType) (slot : Value)
    (rebuild : Value → Value) :
    ExtendedBy (accessor.planSlot quiet walked owner element slot rebuild walk?)
      (accessor.planSlot growing walked owner element slot rebuild walk'?) := by
  cases extended with
  | none => exact .refl _
  | some extended =>
    exact .bind (enterSlot_extended off walked owner element slot) fun slot =>
      .bind (extended _ _ _) fun _ => .refl _

/-- One segment: a property or a handle on a bean, a slot of a collection, or a failure that has
nothing to do with growth. -/
theorem planStep_extended (extended : Option.Rel WalkExtendedBy walk? walk'?)
    (before : List Segment) (segment : Segment) :
    WalkExtendedBy (accessor.planStep quiet before segment walk?)
      (accessor.planStep growing before segment walk'?) := by
  intro holder declared owner
  unfold planStep
  dsimp only
  split
  · cases extended with
    | none => exact .refl _
    | some extended => exact planBelow_extended off extended _ _ _
  · exact .refl _
  · exact .bind (.refl _) fun index => .bind (extendTo_extended off _ _ _ _ _ _) fun items =>
      planSlot_extended off extended _ _ _ _ _
  · exact planSlot_extended off extended _ _ _ _ _
  · exact .refl _

/-- A row of segments, by induction on the segments behind the first. -/
theorem planInto_extended (later : List Segment) :
    ∀ before segment, WalkExtendedBy (accessor.planInto quiet before segment later)
      (accessor.planInto growing before segment later) := by
  induction later with
  | nil => exact fun before segment => planStep_extended off .none before segment
  | cons next later ih =>
    exact fun before segment => planStep_extended off (.some (ih _ next)) before segment

end

/-! ## Writes -/

/-- What follows the walk does not look at the options. -/
theorem writePath_extended {accessor : Accessor} {off on : AccessOptions}
    (isOff : off.growNested = false) (root : BeanRef) (path : PropertyPath) (raw : Value) :
    ExtendedBy (accessor.writePath off root path raw) (accessor.writePath on root path raw) := by
  have planned : ExtendedBy (accessor.planPath ⟨raw, off⟩ root path)
      (accessor.planPath ⟨raw, on⟩ root path) :=
    planInto_extended isOff path.later [] path.first _ _ _
  rw [writePath_eq_plan, writePath_eq_plan]
  exact .bind planned fun _ => .refl _

/-- With growth a write does what it does without, unless that fails for something that is not
there. -/
theorem setWith_extended {accessor : Accessor} {off on : AccessOptions}
    (isOff : off.growNested = false) (sameOld : off.extractOldValue = on.extractOldValue)
    (root : BeanRef) (path : PropertyPath) (raw : Value) :
    ExtendedBy (accessor.setWith off root path raw) (accessor.setWith on root path raw) := by
  have readsAlike : accessor.oldValue off root path = accessor.oldValue on root path := by
    rw [oldValue, oldValue, sameOld]
  rw [setWith_eq_bind, setWith_eq_bind, readsAlike]
  exact .bind (.refl _) fun _ => .bind (writePath_extended isOff root path raw) fun _ => .refl _

/-- Writes a raw value at the path of a text. -/
def setTextWith (accessor : Accessor) (options : AccessOptions) (root : BeanRef) (text : String)
    (raw : Value) : Access PropertyChange := do
  let path ← parsePath text
  accessor.setWith options root path raw

/-- What a write without growth does, a write with growth does too, whatever the limit for lists
is: every write that succeeds, and every failure but for something that is not there. Both report
the same and leave the same world behind. -/
theorem set_grows_conservatively (accessor : Accessor) (options : AccessOptions) (limit : Nat)
    (world : World) (root : BeanRef) (text : String) (raw : Value) :
    let off : AccessOptions := { options with growNested := false }
    let on : AccessOptions := { options with growNested := true, collectionLimit := limit }
    (∀ change after,
      (accessor.setTextWith off root text raw).runOn world = (.ok change, after) →
        (accessor.setTextWith on root text raw).runOn world = (.ok change, after)) ∧
    ∀ error after,
      (accessor.setTextWith off root text raw).runOn world = (.error error, after) →
        error.isAbsence = false →
          (accessor.setTextWith on root text raw).runOn world = (.error error, after) := by
  intro off on
  have isOff : off.growNested = false := rfl
  have sameOld : off.extractOldValue = on.extractOldValue := rfl
  have extended : ExtendedBy (accessor.setTextWith off root text raw)
      (accessor.setTextWith on root text raw) :=
    .bind (.refl _) fun path => setWith_extended isOff sameOld root path raw
  constructor
  · intro change after done
    exact extended.run_of_ok done
  · intro error after failed present
    exact extended.run_of_error failed present

open Household in
/-- Eve renames a friend with growth just as without it, and both refuse a list for a name. -/
theorem set_name_of_friend_with_growth :
    let write (options : AccessOptions) (raw : Value) : Access PropertyChange :=
      accessor.setTextWith options eve "friends[0].name" raw
    let off : AccessOptions := { extractOldValue := true }
    let on : AccessOptions := { growNested := true, collectionLimit := 4, extractOldValue := true }
    (∃ change after, (write off (.text "Anna")).runOn (world []) = (.ok change, after) ∧
      change.oldValue? = some (.text "Ann") ∧ after.shown ann "name" = .text "Anna" ∧
      (write on (.text "Anna")).runOn (world []) = (.ok change, after)) ∧
    ∃ error after, (write off (.list [])).runOn (world []) = (.error error, after) ∧
      error.isAbsence = false ∧ (write on (.list [])).runOn (world []) = (.error error, after) := by
  intro write off on
  have written : ∀ options raw, write options raw =
      accessor.setWith options eve ⟨.name "friends", [.key "0" false, .name "name"]⟩ raw := by
    intro options raw
    simp only [write, setTextWith, parsePath_of_parse parse_name_of_friend, pure_bind]
  have conservative := set_grows_conservatively accessor off 4 (world []) eve "friends[0].name"
  constructor
  · obtain ⟨change, after, done, old, shown⟩ : ∃ change after,
        (write off (.text "Anna")).runOn (world []) = (.ok change, after) ∧
          change.oldValue? = some (.text "Ann") ∧ after.shown ann "name" = .text "Anna" := by
      rw [written]
      refine ⟨_, _, rfl, ?_, ?_⟩
      · rfl
      · rfl
    exact ⟨change, after, done, old, shown, (conservative (.text "Anna")).1 change after done⟩
  · obtain ⟨error, after, refused, present⟩ : ∃ error after,
        (write off (.list [])).runOn (world []) = (.error error, after) ∧
          error.isAbsence = false := by
      rw [written]
      refine ⟨_, _, rfl, ?_⟩
      rfl
    exact ⟨error, after, refused, present, (conservative (.list [])).2 error after refused present⟩

end Accessor

end PropertyGraph
