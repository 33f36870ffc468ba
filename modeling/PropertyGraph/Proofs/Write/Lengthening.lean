import PropertyGraph.Proofs.Field.Exact
import PropertyGraph.Proofs.Graph.Layout
import PropertyGraph.Proofs.Read.Arrival
import PropertyGraph.Proofs.Write.Fillers
import PropertyGraph.Proofs.Write.Walk

/-!
# Lists that a write lengthens

A write at a row of indices goes into lists in lists, and each of them gets a slot at its index. A
list that has the slot keeps its length; any other is extended, below the limit, with fillers at the
places between its end and the slot. What was in a list stays where it was. The whole is put back
into the property at the end, so a write that fails on the way leaves the property as it was,
however much of the lists it has extended.
-/
namespace PropertyGraph

/-- Lists in lists, so many deep, of elements of the type. -/
def FieldType.nested (type : FieldType) : Nat → FieldType
  | 0 => type
  | depth + 1 => list (type.nested depth)

namespace Accessor

open Access (Makes)

/-- The segment is a key that stands for the index. -/
def IsIndex (segment : Segment) (index : Nat) : Prop :=
  ∃ key quoted, segment = .key key quoted ∧ listIndex? key = some index

/-- A list has got a slot at an index: it is as long as it was, or ends with the slot; every other
element is where it was; there are fillers at the places that were skipped; and if the list was
extended, the index is below the limit. -/
structure Lengthens (limit : Nat) (type : FieldType) (index : Nat) (items grown : List Value)
    (slot : Value) : Prop where
  length : grown.length = max items.length (index + 1)
  kept : ∀ place item, place ≠ index → items[place]? = some item → grown[place]? = some item
  skipped : ∀ place element, items.length ≤ place → place < index →
    grown[place]? = some element → type.IsFiller element
  limited : items.length ≤ index → index < limit
  found : grown[index]? = some slot

/-- The elements of a list from a place up to another. -/
def between (first last : Nat) (items : List Value) : List Value :=
  (items.take last).drop first

/-- A value has become another one by a write at a row of indices: each list on the way has got a
slot, a list that was not there being an empty one, and the leaf stands in the last slot. The beans
are those at the places that were skipped, in order. -/
inductive GrownTo (limit : Nat) (inner : FieldType) (leaf : Value) :
    List Nat → Value → Value → List BeanRef → Prop where
  | leaf (old : Value) : GrownTo limit inner leaf [] old leaf []
  | level {index : Nat} {later : List Nat} {items grown : List Value} {slot : Value}
      {made : List BeanRef}
      (lengthens : Lengthens limit (inner.nested later.length) index items grown slot)
      (inside : GrownTo limit inner leaf later (items[index]?.getD (.list [])) slot made) :
    GrownTo limit inner leaf (index :: later) (.list items) (.list grown)
      ((between items.length index grown).filterMap Value.bean? ++ made)

section

variable {limit index : Nat} {type : FieldType} {items others grown : List Value} {slot : Value}
  {made : List BeanRef}

/-! ## One list -/

/-- Between two places stand the elements that stood there. -/
theorem getElem?_between {first last place : Nat} (low : first ≤ place) (high : place < last) :
    (between first last items)[place - first]? = items[place]? := by
  rw [between, List.getElem?_drop, Nat.add_sub_cancel' low, List.getElem?_take_of_lt high]

/-- An extended list is long enough for the index, and no longer. -/
theorem ExtendedTo.length (extended : ExtendedTo limit type index items others made) :
    others.length = max items.length (index + 1) := by
  cases extended with
  | within inside => omega
  | beyond skipped outside below length fills =>
    rw [List.length_append, List.length_append, length, List.length_singleton]
    omega

/-- Every element stays where it was. -/
theorem ExtendedTo.kept (extended : ExtendedTo limit type index items others made) {place : Nat}
    {item : Value} (found : items[place]? = some item) : others[place]? = some item := by
  cases extended with
  | within inside => exact found
  | beyond skipped outside below length fills =>
    have inside : place < items.length := (List.getElem?_eq_some_iff.1 found).1
    rwa [List.append_assoc, List.getElem?_append_left inside]

/-- A list is extended only to an index below the limit. -/
theorem ExtendedTo.limited (extended : ExtendedTo limit type index items others made)
    (outside : items.length ≤ index) : index < limit := by
  cases extended with
  | within inside => omega
  | beyond skipped outside below length fills => exact below

/-- At the places that are skipped there are elements that fill them, with the beans that were
made. -/
theorem ExtendedTo.fills_between (extended : ExtendedTo limit type index items others made) :
    (∀ element ∈ between items.length index others, type.Fills element) ∧
      (between items.length index others).filterMap Value.bean? = made := by
  cases extended with
  | within inside =>
    have none : between items.length index items = [] := by
      rw [between, List.drop_eq_nil_iff, List.length_take]
      omega
    simp [none]
  | beyond skipped outside below length fills =>
    have whole : (items ++ skipped).length = index := by
      rw [List.length_append, length]
      omega
    have new : between items.length index (items ++ skipped ++ [.null]) = skipped := by
      rw [between, List.take_left' whole, List.drop_left]
    rw [new]
    exact ⟨fills, rfl⟩

/-- Elements that fill are shown as fillers, with the same beans among them. -/
theorem shown_of_fills {elements shown : List Value}
    (each : List.Forall₂ type.Stores elements shown)
    (fills : ∀ element ∈ elements, type.Fills element) :
    (∀ element ∈ shown, type.IsFiller element) ∧
      shown.filterMap Value.bean? = elements.filterMap Value.bean? := by
  induction each with
  | nil => exact ⟨nofun, rfl⟩
  | cons stores _ ih =>
    obtain ⟨first, others⟩ := List.forall_mem_cons.1 fills
    obtain ⟨filler, sameBean⟩ := first _ stores
    obtain ⟨fillers, sameBeans⟩ := ih others
    refine ⟨List.forall_mem_cons.2 ⟨filler, fillers⟩, ?_⟩
    rw [List.filterMap_cons, List.filterMap_cons, sameBean, sameBeans]

/-- A list of a field that was extended for a slot is stored as a list that has got the slot. -/
theorem ExtendedTo.lengthens (extended : ExtendedTo limit type index items others made)
    (holds : ∀ item ∈ items, type.Holds item)
    (each : List.Forall₂ type.Stores (others.set index slot) grown) :
    ∃ shownSlot, type.Stores slot shownSlot ∧ Lengthens limit type index items grown shownSlot ∧
      (between items.length index grown).filterMap Value.bean? = made := by
  have length : others.length = max items.length (index + 1) := extended.length
  have atIndex : (others.set index slot)[index]? = some slot := by
    rw [List.getElem?_set_self (by omega)]
  obtain ⟨shownSlot, found, stores⟩ := FieldType.getElem?_of_forall₂ each atIndex
  have skipped : List.Forall₂ type.Stores (between items.length index others)
      (between items.length index grown) := by
    have front := List.forall₂_drop items.length (List.forall₂_take index each)
    rwa [List.take_set_of_le (Nat.le_refl index)] at front
  obtain ⟨fills, beans⟩ := extended.fills_between
  obtain ⟨fillers, sameBeans⟩ := shown_of_fills skipped fills
  refine ⟨shownSlot, stores, ⟨?_, ?_, ?_, extended.limited, found⟩, sameBeans.trans beans⟩
  · rw [← each.length_eq, List.length_set, length]
  · intro place item different there
    have stays : (others.set index slot)[place]? = some item := by
      rw [List.getElem?_set_ne different.symm]
      exact extended.kept there
    obtain ⟨shown, foundShown, storesItem⟩ := FieldType.getElem?_of_forall₂ each stays
    rw [foundShown, storesItem.eq_of_holds (holds item (List.mem_of_getElem? there))]
  · intro place element low high there
    rw [← getElem?_between low high] at there
    exact fillers element (List.mem_of_getElem? there)

end

section

variable {accessor : Accessor} {request : WriteRequest} {limit index : Nat} {inner type : FieldType}
  {items others : List Value} {made further : List BeanRef} {leaf slot value shown : Value}
  {later : List Nat}

/-! ## Lists in lists -/

/-- If writing behind a slot lets the slot grow, the list with the slot has grown. -/
theorem ExtendedTo.grownTo
    (extended : ExtendedTo limit (inner.nested later.length) index items others made)
    (holds : ∀ item ∈ items, (inner.nested later.length).Holds item)
    (stores : (inner.nested (later.length + 1)).Stores (.list (others.set index slot)) shown)
    (behind : ∀ shownSlot, (inner.nested later.length).Stores slot shownSlot →
      ∃ leaf, inner.Stores value leaf ∧
        GrownTo limit inner leaf later (items[index]?.getD (.list [])) shownSlot further) :
    ∃ leaf, inner.Stores value leaf ∧
      GrownTo limit inner leaf (index :: later) (.list items) shown (made ++ further) := by
  obtain ⟨_, grown, same, rfl, each⟩ := stores.of_list
  obtain rfl := Value.list.inj same
  obtain ⟨shownSlot, storesSlot, lengthens, beans⟩ := extended.lengthens holds each
  obtain ⟨leaf, storesLeaf, inside⟩ := behind shownSlot storesSlot
  exact ⟨leaf, storesLeaf, beans ▸ .level lengthens inside⟩

/-- An empty list is made of what is absent at the type of a list. -/
theorem growIfAllowed_list (walked : List Segment) (owner : TypeRef) (element : DeclaredType) :
    Makes (accessor.growIfAllowed request walked owner (.list element)) fun value made =>
      value = .list [] ∧ made = [] := by
  unfold growIfAllowed
  split
  · have grown : accessor.grow walked owner (.list element) =
        (do Access.record (.grown (Segment.render walked) (.list element)); return .list []) := rfl
    rw [grown]
    refine .bind (.record _) ?_
    rintro _ _ rfl
    exact .pure ⟨rfl, rfl⟩
  · exact .throw _

/-- The list in a slot is entered as it was, or it is a new and empty one. -/
theorem enterSlot_makes (walked : List Segment) (owner : TypeRef)
    (extended : ExtendedTo limit (.list type) index items others made)
    (holds : ∀ item ∈ items, (FieldType.list type).Holds item) :
    Makes (accessor.enterSlot request walked owner (FieldType.list type).declared
      (others[index]?.getD .null)) fun child further => further = [] ∧
        ∃ inside, child = .list inside ∧ items[index]?.getD (.list []) = .list inside ∧
          (FieldType.list type).Holds (.list inside) := by
  cases extended with
  | within inside =>
    have there : items[index]? = some items[index] := List.getElem?_eq_getElem inside
    obtain ⟨contents, shows⟩ := holds items[index] (List.getElem_mem inside)
    rw [there, ← shows]
    exact .pure ⟨rfl, _, rfl, rfl, contents, rfl⟩
  | beyond skipped outside below length fills =>
    have missing : items[index]? = none := List.getElem?_eq_none outside
    have absent : (items ++ skipped ++ [.null])[index]?.getD .null = .null := by
      have last : (items ++ skipped).length = index := by
        rw [List.length_append, length]
        omega
      rw [← last, List.getElem?_concat_length]
      rfl
    rw [missing, absent]
    refine (growIfAllowed_list walked owner type.declared).mono ?_
    rintro _ _ ⟨rfl, rfl⟩
    exact ⟨rfl, [], rfl, rfl, [], rfl⟩

/-- What a plan for a row of indices leaves to do: the copy that is put back for a converted value
is stored as lists that have grown around it. -/
structure PlansGrowth (limit : Nat) (inner : FieldType) (indices : List Nat) (old : Value)
    (plan : Plan) (made : List BeanRef) : Prop where
  target : plan.target = inner.declared
  puts : ∀ value, plan.puts value = []
  copies : ∃ copy, plan.copy? = some copy ∧ ∀ value shown,
    (inner.nested indices.length).Stores (copy value) shown →
      ∃ leaf, inner.Stores value leaf ∧ GrownTo limit inner leaf indices old shown made

/-- A walk goes into a list that has the slot of its index, or is extended to have it. -/
theorem planStep_makes (fresh : accessor.ConstructsFresh) (owner : TypeRef) (before : List Segment)
    (segment : Segment) (isIndex : IsIndex segment index) (type : FieldType) (walk? : Option Walk)
    {told : Plan → List BeanRef → Prop}
    (further : ∀ others made,
      ExtendedTo request.options.collectionLimit type index items others made →
      Makes (accessor.planSlot request (before ++ [segment]) owner type.declared
        (others[index]?.getD .null) (fun slot => .list (others.set index slot)) walk?)
        fun plan more => told plan (made ++ more)) :
    Makes (accessor.planStep request before segment walk? (.list items)
      (FieldType.list type).declared owner) told := by
  obtain ⟨key, quoted, rfl, reads⟩ := isIndex
  have found : listIndex (before ++ [.key key quoted]) owner key = pure index := by
    rw [listIndex, reads]
  have step : accessor.planStep request before (.key key quoted) walk? (.list items)
      (FieldType.list type).declared owner = (do
        let index ← listIndex (before ++ [.key key quoted]) owner key
        let others ← accessor.extendTo request before (.key key quoted) owner type.declared index
          items
        accessor.planSlot request (before ++ [.key key quoted]) owner type.declared
          (others[index]?.getD .null) (fun slot => .list (others.set index slot)) walk?) := rfl
  rw [step, found, pure_bind]
  exact .bind (extendTo_makes before owner fresh type (.key key quoted) index items) further

/-- A walk over a row of indices makes fillers in every list that is too short. By induction on the
keys behind the first, which is the slot that is entered. -/
theorem planInto_makes (fresh : accessor.ConstructsFresh) (owner : TypeRef) (keys : List Segment) :
    ∀ (before : List Segment) (segment : Segment) (indices : List Nat) (items : List Value),
      List.Forall₂ IsIndex (segment :: keys) indices →
      (inner.nested indices.length).Holds (.list items) →
      Makes (accessor.planInto request before segment keys (.list items)
        (inner.nested indices.length).declared owner)
        (PlansGrowth request.options.collectionLimit inner indices (.list items)) := by
  induction keys with
  | nil =>
    intro before segment indices items leads holds
    obtain ⟨index, _, isIndex, behind, rfl⟩ := List.forall₂_cons_left_iff.1 leads
    obtain rfl := List.forall₂_nil_left_iff.1 behind
    refine planStep_makes fresh owner before segment isIndex inner none ?_
    intro others made extended
    refine .pure ⟨rfl, fun _ => rfl, _, rfl, fun value shown stores => ?_⟩
    refine extended.grownTo (fun item among => holds.item among) stores ?_
    exact fun shownSlot storesSlot => ⟨shownSlot, storesSlot, .leaf _⟩
  | cons next keys ih =>
    intro before segment indices items leads holds
    obtain ⟨index, _, isIndex, behind, rfl⟩ := List.forall₂_cons_left_iff.1 leads
    -- There is an index behind the first one, so the list holds lists, which can be entered.
    obtain ⟨index', deeper, -, -, rfl⟩ := List.forall₂_cons_left_iff.1 behind
    have each : ∀ item ∈ items, (inner.nested (index' :: deeper).length).Holds item :=
      fun item among => holds.item among
    refine planStep_makes fresh owner before segment isIndex _ (some _) ?_
    intro others made extended
    refine .bind (enterSlot_makes _ owner extended each) ?_
    rintro _ _ ⟨rfl, inside, rfl, old, holdsInside⟩
    refine .bind (ih _ next (index' :: deeper) inside behind holdsInside) ?_
    intro plan further plans
    obtain ⟨copy, copies, grows⟩ := plans.copies
    refine .pure ⟨plans.target, plans.puts, _, rfl, fun value shown stores => ?_⟩
    simp only [List.nil_append, List.append_nil]
    refine extended.grownTo each stores fun shownSlot storesSlot => ?_
    rw [old]
    refine grows value shownSlot ?_
    simpa [copies] using storesSlot

/-! ## Lists in a property -/

/-- No index is a name. -/
theorem isName_of_isIndex {keys : List Segment} {indices : List Nat}
    (leads : List.Forall₂ IsIndex keys indices) : ∀ segment ∈ keys, segment.isName = false := by
  induction leads with
  | nil => exact nofun
  | cons isIndex _ ih =>
    obtain ⟨key, quoted, rfl, -⟩ := isIndex
    exact List.forall_mem_cons.2 ⟨rfl, ih⟩

/-- The leaf is found behind the keys of its indices. -/
theorem GrownTo.follow? {keys : List Segment} {indices : List Nat} {old grown : Value}
    (grows : GrownTo limit inner leaf indices old grown made)
    (leads : List.Forall₂ IsIndex keys indices) : grown.follow? keys = some leaf := by
  induction grows generalizing keys with
  | leaf old =>
    cases leads
    rfl
  | level lengthens inside ih =>
    obtain ⟨segment, keys', isIndex, later, rfl⟩ := List.forall₂_cons_right_iff.1 leads
    obtain ⟨key, quoted, rfl, reads⟩ := isIndex
    simp only [Value.follow?, Value.slot?, Value.core, reads, Option.bind_some, lengthens.found]
    exact ih later

/-- Behind a property, the plan puts the lists back into it. -/
theorem PlansGrowth.puts_behindProperty {indices : List Nat} {old : Value} {plan : Plan}
    (plans : PlansGrowth limit inner indices old plan made) (walked : List Segment) (ref : BeanRef)
    (info : PropertyInfo) :
    ∃ copy : Value → Value, (∀ value, (plan.behindProperty walked ref info).puts value =
        [⟨walked, ref, info, copy value⟩]) ∧
      ∀ value shown, (inner.nested indices.length).Stores (copy value) shown →
        ∃ leaf, inner.Stores value leaf ∧ GrownTo limit inner leaf indices old shown made := by
  obtain ⟨copy, copies, grows⟩ := plans.copies
  refine ⟨copy, fun value => ?_, grows⟩
  simp [Plan.behindProperty, plans.puts, copies]

end

section

variable {accessor : Accessor} {request : WriteRequest} {world start right after : World}
  {root : BeanRef} {label field : String} {info : PropertyInfo} {inner type : FieldType}
  {key : Segment} {keys : List Segment} {indices : List Nat}

/-- A property whose value is present is entered as it is, or not at all. -/
theorem enter_present (shows : info.ShowsField root.type field type)
    (readable : info.isReadable = true) (has : world.Has root)
    (present : (world.shown root field).isAbsent = false) (walked : List Segment) :
    (accessor.enter request walked root info).runOn world = (.ok (world.shown root field), world) ∨
      (accessor.enter request walked root info).FailsOn world := by
  have read := runOn_read shows readable has walked
  by_cases held : world.isHeldExclusively root
  · rw [if_pos held] at read
    exact .inr (.bind ⟨_, _, read, .refl _ _⟩ _)
  · rw [if_neg held] at read
    exact .inl (runOn_enter_of_read read present)

/-- A walk over a row of indices behind a property leaves everything as it was. If it succeeds, it
has planned to put the lists back into the property. -/
theorem planPath_makes (fresh : accessor.ConstructsFresh)
    (names : accessor.capability? root.type label = some (.property info))
    (shows : info.ShowsField root.type field (inner.nested indices.length))
    (has : world.Has root) (holds : (inner.nested indices.length).Holds (world.shown root field))
    (leads : List.Forall₂ IsIndex (key :: keys) indices)
    {outcome : Except AccessError Plan}
    (run : (accessor.planPath request root ⟨.name label, key :: keys⟩).runOn world =
      (outcome, right)) :
    world.EvolvesTo [] right ∧ ∀ plan, outcome = .ok plan → info.isReadable = true ∧
      ∃ sub made, plan = sub.behindProperty [.name label] root info ∧ world.Gains made right ∧
        PlansGrowth request.options.collectionLimit inner indices (world.shown root field) sub
          made := by
  obtain ⟨index, later, -, -, rfl⟩ := List.forall₂_cons_left_iff.1 leads
  obtain ⟨items, isList⟩ : ∃ items, world.shown root field = .list items := by
    obtain ⟨contents, same⟩ := holds
    exact ⟨_, same.symm⟩
  have present : (world.shown root field).isAbsent = false := by
    rw [isList]
    rfl
  have path : accessor.planPath request root ⟨.name label, key :: keys⟩ =
      accessor.planBelow request [.name label] root label
        (accessor.planInto request [.name label] key keys) := rfl
  rw [path, planBelow, names] at run
  by_cases readable : info.isReadable
  case neg =>
    obtain ⟨rfl, rfl⟩ : .error _ = outcome ∧ world = right := by simpa [readable] using run
    exact ⟨.refl _ _, fun plan done => by cases done⟩
  simp only [readable, ↓reduceIte] at run
  rcases enter_present shows readable has present [.name label] with entered | fails
  case inr =>
    obtain ⟨error, reached, failed, evolves⟩ := Access.FailsOn.bind fails _
    obtain ⟨rfl, rfl⟩ := Prod.mk.inj (failed.symm.trans run)
    exact ⟨evolves, fun plan done => by cases done⟩
  rw [Access.runOn_bind_of_ok entered, isList, shows.declared] at run
  have makes : Makes (do
      let sub ← accessor.planInto request [.name label] key keys (.list items)
        (inner.nested (index :: later).length).declared root.type
      return sub.behindProperty [.name label] root info) fun plan made =>
      ∃ sub, plan = sub.behindProperty [.name label] root info ∧
        PlansGrowth request.options.collectionLimit inner (index :: later) (.list items) sub
          made :=
    (planInto_makes fresh root.type keys [.name label] key (index :: later) items leads
      (isList ▸ holds)).bind fun sub made plans => .pure ⟨sub, rfl, by simpa using plans⟩
  obtain ⟨evolves, tells⟩ := makes world
  rw [run] at evolves tells
  refine ⟨evolves, fun plan done => ?_⟩
  obtain ⟨made, ⟨sub, same, plans⟩, gains⟩ := tells plan done
  exact ⟨readable, sub, made, same, gains, isList ▸ plans⟩

/-- Once a path is planned that puts one value into a property, a write converts the raw value and
the property stores what is put, or the write fails and changes nothing more. -/
theorem setWith_puts {options : AccessOptions} {path : PropertyPath} {raw : Value}
    {oldValue? : Option Value} {plan : Plan} {walked : List Segment} {copy : Value → Value}
    {outcome : Except AccessError PropertyChange}
    (read : (accessor.oldValue options root path).runOn world = (.ok oldValue?, start))
    (planned : (accessor.planPath ⟨raw, options⟩ root path).runOn start = (.ok plan, right))
    (puts : ∀ value, plan.puts value = [⟨walked, root, info, copy value⟩])
    (shows : info.ShowsField root.type field type) (has : right.Has root)
    (run : (accessor.setWith options root path raw).runOn world = (outcome, after)) :
    (∃ error, outcome = .error error ∧ after = right) ∨
      ∃ value, outcome = .ok ⟨path.text, oldValue?, value⟩ ∧
        convertTo accessor.converter raw plan.target = .ok value ∧
        right.EvolvesTo [root] after ∧ right.isHeld root = false ∧
        type.Stores (copy value) (after.shown root field) := by
  rw [runOn_setWith_of_plan read planned] at run
  rcases converted : convertTo accessor.converter raw plan.target with cause | value
  · rw [converted] at run
    obtain ⟨rfl, rfl⟩ := Prod.mk.inj run
    exact .inl ⟨_, rfl, rfl⟩
  · simp only [converted, puts, putAll] at run
    rcases runOn_putBack shows has walked (copy value) with
      ⟨content, -, -, stored⟩ | ⟨error, -, refused⟩
    · rw [Access.runOn_bind_of_ok stored] at run
      obtain ⟨rfl, rfl⟩ := Prod.mk.inj run
      exact .inr ⟨value, rfl, rfl, stores_of_putBack has shows stored⟩
    · rw [Access.runOn_bind_of_error refused] at run
      obtain ⟨rfl, rfl⟩ := Prod.mk.inj run
      exact .inl ⟨_, rfl, rfl⟩

/-- What is behind the keys of indices in a list that has grown is read through its property. -/
theorem GrownTo.get {limit : Nat} {leaf old : Value} {made : List BeanRef}
    (grows : GrownTo limit inner leaf indices old (world.shown root field) made)
    (leads : List.Forall₂ IsIndex keys indices)
    (names : accessor.capability? root.type label = some (.property info))
    (shows : info.ShowsField root.type field type) (readable : info.isReadable = true)
    (has : world.Has root) (free : world.isHeldExclusively root = false) :
    (accessor.get root ⟨.name label, keys⟩).runOn world = (.ok leaf.unwrapped, world) := by
  have read : (Access.invoke [.name label] root (·.read root info)).runOn world =
      (.ok (world.shown root field), world) := by
    rw [runOn_read shows readable has]
    simp [free]
  have arrives : accessor.Arrives world root ([] ++ [.name label]) (world.shown root field) :=
    Arrives.at_root.name rfl names readable read
  exact (arrives.follow (grows.follow? leads)).get

/-- A write at a row of indices behind a property of lists in lists. If it succeeds, each list on
the way has got its slot, and the leaf in the last slot is what the field makes of the converted raw
value; it is read back at the same path. The beans in the places that were skipped are new, each of
them another one. If the write fails, the property is as it was. -/
theorem setWith_lengthens_lists (fresh : accessor.ConstructsFresh) (exact : inner.isExact = true)
    (names : accessor.capability? root.type label = some (.property info))
    (shows : info.ShowsField root.type field (inner.nested indices.length))
    (has : world.Has root) (holds : (inner.nested indices.length).Holds (world.shown root field))
    (leads : List.Forall₂ IsIndex (key :: keys) indices) {options : AccessOptions} {raw : Value}
    {outcome : Except AccessError PropertyChange}
    (run : (accessor.setWith options root ⟨.name label, key :: keys⟩ raw).runOn world =
      (outcome, after)) :
    (∀ change, outcome = .ok change → ∃ leaf made,
      convertTo accessor.converter raw inner.declared = .ok change.newValue ∧
      inner.Stores change.newValue leaf ∧
      (accessor.converter.Sound → leaf = change.newValue) ∧
      (accessor.get root ⟨.name label, key :: keys⟩).runOn after = (.ok leaf.unwrapped, after) ∧
      GrownTo options.collectionLimit inner leaf indices (world.shown root field)
        (after.shown root field) made ∧
      made.Nodup ∧ ∀ ref ∈ made, world.beans.size ≤ ref.index ∧ after.Has ref) ∧
    ∀ error, outcome = .error error → after.cell? root field = world.cell? root field := by
  have showsAny : ∀ other, accessor.capability? root.type label = some (.property other) →
      ∃ field type, other.ShowsField root.type field type := by
    intro other named
    obtain rfl : info = other := by simpa [names] using named
    exact ⟨field, _, shows⟩
  obtain ⟨start, read, starts⟩ :=
    oldValue_runs_of_evolves (get_keeps_of_keys (isName_of_isIndex leads) showsAny world) options
  have shownStart : start.shown root field = world.shown root field :=
    starts.shown has List.not_mem_nil field
  have hasStart : start.Has root := starts.has root has
  rcases planned : (accessor.planPath ⟨raw, options⟩ root ⟨.name label, key :: keys⟩).runOn start
    with ⟨plan?, right⟩
  obtain ⟨walks, tells⟩ :=
    planPath_makes fresh names shows hasStart (shownStart ▸ holds) leads planned
  -- The property is written at the very end, so a write that fails before has not changed it.
  have unchanged : right.cell? root field = world.cell? root field :=
    (starts.trans walks).cell? has List.not_mem_nil field
  have hasRight : right.Has root := walks.has root hasStart
  rcases plan? with error | plan
  · rw [runOn_setWith_of_unplanned read planned] at run
    obtain ⟨rfl, rfl⟩ := Prod.mk.inj run
    exact ⟨nofun, fun _ _ => unchanged⟩
  obtain ⟨readable, sub, made, rfl, gains, plans⟩ := tells plan rfl
  obtain ⟨copy, puts, grows⟩ := plans.puts_behindProperty [.name label] root info
  rcases setWith_puts read planned puts shows hasRight run with
    ⟨error, rfl, rfl⟩ | ⟨value, rfl, converted, evolves, free, stored⟩
  · exact ⟨nofun, fun _ _ => unchanged⟩
  refine ⟨?_, nofun⟩
  rintro _ ⟨⟩
  have converts : convertTo accessor.converter raw inner.declared = .ok value :=
    plans.target ▸ converted
  have freeAfter : after.isHeldExclusively root = false :=
    (World.isHeldExclusively_of_guards evolves.guards root).trans (World.not_isHeldExclusively free)
  obtain ⟨leaf, stores, grown⟩ := grows value _ stored
  rw [shownStart] at grown
  refine ⟨leaf, made, converts, stores, fun sound => ?_, ?_, grown, gains.distinct, ?_⟩
  · obtain ⟨held, took, rfl⟩ := stores
    exact FieldType.keeps_of_convertTo exact sound converts held took
  · exact grown.get leads names shows readable (evolves.has root hasRight) freeAfter
  · intro ref among
    obtain ⟨isNew, there⟩ := gains.isNew ref among
    exact ⟨Nat.le_trans starts.size_le isNew, evolves.has ref there⟩

/-- The constructors of a layout add a bean each. -/
theorem constructsFresh_of_layout {layout : Layout} (laid : accessor.registry = layout.registry) :
    accessor.ConstructsFresh := by
  intro type make found world
  rw [laid] at found
  obtain ⟨-, fields, -, -, rfl⟩ := Layout.constructor?_registry found
  exact .of_add world _

end

end Accessor

namespace Orchard

/-- The type of trees. -/
def tree : TypeRef := { path := "orchard::Tree" }

/-- Around a tree there are rows of trees. -/
def layout : Layout where
  classes := [(tree, [("rows", .list (.list (.bean tree)))])]

/-- Accesses to orchards. -/
def accessor : Accessor where
  registry := layout.registry

/-- The first tree of the orchard. -/
def oak : BeanRef := ⟨0, tree⟩

/-- A tree without rows around it. -/
def world : World where
  beans := #[⟨tree, [("rows", ⟨.list (.list (.bean tree)), []⟩)]⟩]

/-- The oak becomes the third tree of a second row around it. The first row is empty, and the first
two trees of the second row are new. -/
theorem set_third_tree_of_second_row :
    let path : PropertyPath := ⟨.name "rows", [.key "1" false, .key "2" false]⟩
    let row : List Value := [.bean ⟨1, tree⟩, .bean ⟨2, tree⟩, .bean oak]
    ∃ change after,
      (accessor.setWith { growNested := true } oak path (.bean oak)).runOn world =
        (.ok change, after) ∧
      after.shown oak "rows" = .list [.list [], .list row] ∧
      ∃ leaf made,
        Accessor.convertTo accessor.converter (.bean oak) (.bean tree) = .ok change.newValue ∧
        (FieldType.bean tree).Stores change.newValue leaf ∧
        (accessor.converter.Sound → leaf = change.newValue) ∧
        (accessor.get oak path).runOn after = (.ok leaf.unwrapped, after) ∧
        Accessor.GrownTo 256 (.bean tree) leaf [1, 2] (world.shown oak "rows")
          (after.shown oak "rows") made ∧
        made.Nodup ∧ ∀ ref ∈ made, world.beans.size ≤ ref.index ∧ after.Has ref := by
  intro path row
  obtain ⟨change, after, done, shown⟩ : ∃ change after,
      (accessor.setWith { growNested := true } oak path (.bean oak)).runOn world =
        (.ok change, after) ∧ after.shown oak "rows" = .list [.list [], .list row] :=
    ⟨_, _, rfl, rfl⟩
  have names : accessor.capability? oak.type "rows" =
      some (.property (Layout.property tree "rows" (.list (.list (.bean tree))))) := rfl
  have shows : (Layout.property tree "rows" (.list (.list (.bean tree)))).ShowsField oak.type "rows"
      (FieldType.nested (.bean tree) [1, 2].length) :=
    (Layout.isField_property _ _ _).toShowsField
  have leads : List.Forall₂ Accessor.IsIndex [.key "1" false, .key "2" false] [1, 2] :=
    .cons ⟨_, _, rfl, rfl⟩ (.cons ⟨_, _, rfl, rfl⟩ .nil)
  have holds : (FieldType.nested (.bean tree) 2).Holds (world.shown oak "rows") := ⟨[], rfl⟩
  have lengthened := Accessor.setWith_lengthens_lists (Accessor.constructsFresh_of_layout rfl) rfl
    names shows ⟨_, rfl, rfl⟩ holds leads done
  exact ⟨change, after, done, shown, lengthened.1 change rfl⟩

end Orchard

end PropertyGraph
