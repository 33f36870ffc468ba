import Mathlib.Logic.Relation
import PropertyGraph.Proofs.Write.Grow

/-!
# Growth

All that a walk of a write does to the world. Records, type handles and what constructors make come
in beside what is there; and where a property on the way is absent, what was made for it is put into
it. `GrowsTo` tells of such a row of changes. After it a bean that was there is as it was, but for
absent properties that now hold something new; and the same holds of every bean that came in on the
way, from the moment at which it came in.
-/
namespace PropertyGraph

namespace FieldType

/-- An empty list or map is shown where it was taken. -/
theorem Stores.core_empty {type : FieldType} {taken shown : Value}
    (stores : type.Stores taken shown) (empty : taken.core = .list [] ∨ taken.core = .map []) :
    shown.core = taken.core := by
  induction type generalizing taken shown with
  | value => rw [stores.of_value]
  | option content ih =>
    rcases stores.of_option with ⟨absent, -⟩ | ⟨inner, shownInner, same, rfl, inside⟩
    · cases taken <;> simp_all [Value.core, Value.isAbsent]
    · change shownInner.core = taken.core
      rw [ih inside (same ▸ empty), same]
  | list element =>
    obtain ⟨items, shownItems, rfl, rfl, each⟩ := stores.of_list
    obtain rfl : items = [] := by simpa [Value.core] using empty
    cases each
    rfl
  | map element =>
    obtain ⟨entries, shownEntries, rfl, rfl, each⟩ := stores.of_map
    obtain rfl : entries = [] := by simpa [Value.core] using empty
    cases each
    rfl
  | _ =>
    obtain ⟨content, took, -⟩ := stores
    cases taken <;>
      simp_all [ofValue, ofFlag, ofChar, ofText, ofInt, ofFloat, ofAnyBean, ofBean, ofEnum,
        Except.bind, Value.core]

end FieldType

namespace Accessor

/-- What is made from nothing in a world, and the world then: a bean that a constructor gives, an
empty list or an empty map. -/
inductive Produces (accessor : Accessor) (world : World) : Value → World → Prop
  | list : Produces accessor world (.list []) world
  | map : Produces accessor world (.map []) world
  | bean (type : TypeRef) (make : Constructor) : accessor.registry.constructor? type = .ok make →
    Produces accessor world (.bean (make world).1) (make world).2

/-- Something comes in beside what is there. -/
inductive Brings (accessor : Accessor) (world : World) : World → Prop
  | record (entry : LogRecord) : Brings accessor world (world.record entry)
  | handle (described : TypeRef) : Brings accessor world (world.add (TypeHandle.bean described)).2
  | made (value : Value) (after : World) : accessor.Produces world value after →
    Brings accessor world after

/-- One change of growth: something comes in, or a property that was absent, one of the sites, holds
what was made for it. -/
inductive Growth (accessor : Accessor) (schema : Schema) (sites : BeanRef → PropertyInfo → Prop) :
    World → World → Prop
  | brings (world after : World) : accessor.Brings world after →
    Growth accessor schema sites world after
  | filled (world produced : World) (value : Value) (entry : LogRecord) (ref : BeanRef)
      (info : PropertyInfo) (field : String) (type : FieldType) (content : type.Carrier) :
    sites ref info → world.Has ref → schema.field? ref.type field = some type →
    info.ShowsField ref.type field type → (world.shown ref field).isAbsent = true →
    accessor.Produces world value produced → (type.toValue content).core = value →
    Growth accessor schema sites world ((produced.record entry).store ref field ⟨type, content⟩)

/-- A row of changes of growth. -/
def GrowsTo (accessor : Accessor) (schema : Schema) (sites : BeanRef → PropertyInfo → Prop) :
    World → World → Prop :=
  Relation.ReflTransGen (accessor.Growth schema sites)

/-- The cell was absent and holds something that was made since the start; the property that shows
it is one of the sites. -/
structure Grown (accessor : Accessor) (schema : Schema) (sites : BeanRef → PropertyInfo → Prop)
    (start world after : World) (ref : BeanRef) (field : String) : Prop where
  absent : (world.shown ref field).isAbsent = true
  site : ∃ info type, sites ref info ∧ info.ShowsField ref.type field type
  isNew : ∃ between produced, accessor.GrowsTo schema sites start between ∧
    accessor.Produces between (after.shown ref field).core produced

/-- Every bean that there was is as it was, but for cells that have grown. -/
structure OnlyGrows (accessor : Accessor) (schema : Schema)
    (sites : BeanRef → PropertyInfo → Prop) (start world after : World) : Prop where
  guards : after.guards = world.guards
  has : ∀ ref, world.Has ref → after.Has ref
  cell : ∀ ref field, world.Has ref → after.cell? ref field = world.cell? ref field ∨
    accessor.Grown schema sites start world after ref field

section

variable {accessor : Accessor} {schema : Schema} {sites sites' : BeanRef → PropertyInfo → Prop}
  {start world middle after : World} {value : Value} {ref : BeanRef}

/-! ## Each change -/

/-- What is made from nothing is there. -/
theorem Produces.present (produces : accessor.Produces world value after) :
    value.isAbsent = false := by
  cases produces <;> rfl

/-- What is produced is good, and changes no bean. -/
theorem Produces.evolves (makes : accessor.Constructs schema) (fits : schema.Fits world)
    (produces : accessor.Produces world value after) :
    world.EvolvesTo [] after ∧ schema.Fits after ∧ after.Admits value := by
  cases produces with
  | list => exact ⟨.refl _ _, fits, .list [] (by simp)⟩
  | map => exact ⟨.refl _ _, fits, .map [] .nil (by simp)⟩
  | bean type make found =>
    obtain ⟨evolves, has, fits⟩ := makes type make found world fits
    exact ⟨evolves, fits, .bean _ has⟩

/-- What comes in changes no bean. -/
theorem Brings.evolves (makes : accessor.Constructs schema) (fits : schema.Fits world)
    (brings : accessor.Brings world after) : world.EvolvesTo [] after ∧ schema.Fits after := by
  cases brings with
  | record entry => exact ⟨.of_record world entry, fits.of_record entry⟩
  | handle described => exact ⟨.of_add world _, fits.of_handle described⟩
  | made value after produces =>
    obtain ⟨evolves, fits, -⟩ := produces.evolves makes fits
    exact ⟨evolves, fits⟩

/-! ## Rows of changes -/

/-- No change is growth. -/
theorem GrowsTo.refl (world : World) : accessor.GrowsTo schema sites world world :=
  Relation.ReflTransGen.refl

/-- Growth after growth is growth. -/
theorem GrowsTo.trans (first : accessor.GrowsTo schema sites world middle)
    (second : accessor.GrowsTo schema sites middle after) :
    accessor.GrowsTo schema sites world after :=
  Relation.ReflTransGen.trans first second

/-- What comes in is growth. -/
theorem Brings.growsTo (brings : accessor.Brings world after) :
    accessor.GrowsTo schema sites world after :=
  Relation.ReflTransGen.single (.brings world after brings)

/-- More sites allow more growth. -/
theorem GrowsTo.mono (grows : accessor.GrowsTo schema sites world after)
    (within : ∀ ref info, sites ref info → sites' ref info) :
    accessor.GrowsTo schema sites' world after := by
  refine Relation.ReflTransGen.mono (fun before later growth => ?_) _ _ grows
  cases growth with
  | brings _ brings => exact .brings _ _ brings
  | filled produced value entry ref info field type content site has typed shows absent produces
      core =>
    exact .filled _ produced value entry ref info field type content (within ref info site) has
      typed shows absent produces core

/-! ## What has grown -/

/-- A world that stays has only grown. -/
theorem OnlyGrows.refl (world : World) : accessor.OnlyGrows schema sites start world world :=
  ⟨rfl, fun _ has => has, fun _ _ _ => .inl rfl⟩

/-- What comes in changes nothing. -/
theorem OnlyGrows.evolves (grows : accessor.OnlyGrows schema sites start world middle)
    (evolves : middle.EvolvesTo [] after) :
    accessor.OnlyGrows schema sites start world after where
  guards := evolves.guards.trans grows.guards
  has ref had := evolves.has ref (grows.has ref had)
  cell ref field had := by
    have has := grows.has ref had
    have kept : after.cell? ref field = middle.cell? ref field := evolves.cell? has (by simp) field
    have shown : after.shown ref field = middle.shown ref field := evolves.shown has (by simp) field
    rcases grows.cell ref field had with same | grown
    · exact .inl (kept.trans same)
    · obtain ⟨between, produced, during, produces⟩ := grown.isNew
      exact .inr ⟨grown.absent, grown.site, between, produced, during, shown ▸ produces⟩

/-- An absent cell takes what was made for it. It has not been filled before, since what was made is
not absent. -/
theorem OnlyGrows.store (grows : accessor.OnlyGrows schema sites start world middle)
    {info : PropertyInfo} {field : String} {type : FieldType} {content : type.Carrier}
    (site : sites ref info) (has : middle.Has ref) (shows : info.ShowsField ref.type field type)
    (absent : (middle.shown ref field).isAbsent = true)
    (isNew : ∃ between produced, accessor.GrowsTo schema sites start between ∧
      accessor.Produces between (type.toValue content).core produced) :
    accessor.OnlyGrows schema sites start world (middle.store ref field ⟨type, content⟩) where
  guards := (World.EvolvesTo.of_store has field ⟨type, content⟩).guards.trans grows.guards
  has other had := (World.EvolvesTo.of_store has field ⟨type, content⟩).has _ (grows.has other had)
  cell other name had := by
    have hasOther := grows.has other had
    have shown := World.shown_store has hasOther field ⟨type, content⟩ name
    rw [World.cell?_store has hasOther]
    by_cases same : other = ref ∧ name = field
    · obtain ⟨rfl, rfl⟩ := same
      rw [if_pos ⟨rfl, rfl⟩] at shown
      refine .inr ⟨?_, ⟨info, type, site, shows⟩, shown ▸ isNew⟩
      rcases grows.cell other name had with kept | grown
      · have before : world.shown other name = middle.shown other name := by
          rw [World.shown_eq, World.shown_eq, kept]
        exact before ▸ absent
      · obtain ⟨between, produced, -, produces⟩ := grown.isNew
        have present := Value.isAbsent_of_core produces.present
        simp [absent] at present
    · rw [if_neg same] at shown ⊢
      rcases grows.cell other name had with kept | grown
      · exact .inl kept
      · obtain ⟨between, produced, during, produces⟩ := grown.isNew
        exact .inr ⟨grown.absent, grown.site, between, produced, during, shown ▸ produces⟩

/-- What is known after a row of changes: the world fits, the beans that there were have only
grown, and so has every other bean since it came in. -/
structure Account (accessor : Accessor) (schema : Schema)
    (sites : BeanRef → PropertyInfo → Prop) (start after : World) : Prop where
  fits : schema.Fits after
  grows : accessor.OnlyGrows schema sites start start after
  born : ∀ ref, after.Has ref → ¬ start.Has ref → ∃ earlier born,
    accessor.GrowsTo schema sites start earlier ∧ accessor.Brings earlier born ∧
      ¬ earlier.Has ref ∧ born.Has ref ∧ accessor.OnlyGrows schema sites start born after

/-- At the start nothing has to be accounted for. -/
theorem Account.refl (fits : schema.Fits world) : accessor.Account schema sites world world :=
  ⟨fits, .refl world, fun _ has new => absurd has new⟩

/-- What comes in is accounted for. -/
theorem Account.brings (makes : accessor.Constructs schema)
    (account : accessor.Account schema sites start middle)
    (during : accessor.GrowsTo schema sites start middle)
    (brings : accessor.Brings middle after) : accessor.Account schema sites start after where
  fits := (brings.evolves makes account.fits).2
  grows := account.grows.evolves (brings.evolves makes account.fits).1
  born ref has new := by
    have evolves := (brings.evolves makes account.fits).1
    by_cases had : middle.Has ref
    · obtain ⟨earlier, born, toEarlier, came, before, since, grows⟩ := account.born ref had new
      exact ⟨earlier, born, toEarlier, came, before, since, grows.evolves evolves⟩
    · exact ⟨middle, after, during, brings, had, has, .refl after⟩

/-- Where a property is filled, what is put into it is made first, and recorded. -/
theorem Account.filled (makes : accessor.Constructs schema)
    (account : accessor.Account schema sites start world)
    (during : accessor.GrowsTo schema sites start world) {produced : World} {entry : LogRecord}
    {info : PropertyInfo} {field : String} {type : FieldType} {content : type.Carrier}
    (site : sites ref info) (has : world.Has ref)
    (typed : schema.field? ref.type field = some type)
    (shows : info.ShowsField ref.type field type)
    (absent : (world.shown ref field).isAbsent = true)
    (produces : accessor.Produces world value produced)
    (core : (type.toValue content).core = value) :
    accessor.Account schema sites start
      ((produced.record entry).store ref field ⟨type, content⟩) := by
  have made : accessor.Brings world produced := .made value produced produces
  have recorded : accessor.Brings produced (produced.record entry) := .record entry
  have between := account.brings makes during made
  have account' := between.brings makes (during.trans made.growsTo) recorded
  obtain ⟨evolves, -, admitted⟩ := produces.evolves makes account.fits
  have toMiddle : world.EvolvesTo [] (produced.record entry) :=
    evolves.trans (.of_record produced entry)
  have hasMiddle : (produced.record entry).Has ref := toMiddle.has ref has
  have absentMiddle : ((produced.record entry).shown ref field).isAbsent = true := by
    rw [toMiddle.shown has (by simp)]
    exact absent
  have isNew : ∃ between produced, accessor.GrowsTo schema sites start between ∧
      accessor.Produces between (type.toValue content).core produced :=
    ⟨world, produced, during, core ▸ produces⟩
  refine ⟨?_, ?_, fun other hasOther new => ?_⟩
  · refine account'.fits.of_store hasMiddle typed content (.of_core ?_)
    rw [core]
    exact admitted.mono fun _ has => has
  · exact account'.grows.store site hasMiddle shows absentMiddle isNew
  · have had := (World.has_store_iff hasMiddle field ⟨type, content⟩ other).1 hasOther
    obtain ⟨earlier, born, toEarlier, came, before, since, grows⟩ := account'.born other had new
    exact ⟨earlier, born, toEarlier, came, before, since,
      grows.store site hasMiddle shows absentMiddle isNew⟩

/-- Growth can be accounted for, by induction on the row of changes. -/
theorem GrowsTo.account (makes : accessor.Constructs schema) (fits : schema.Fits world)
    (grows : accessor.GrowsTo schema sites world after) :
    accessor.Account schema sites world after := by
  induction grows with
  | refl => exact .refl fits
  | tail during growth ih =>
    cases growth with
    | brings _ brings => exact ih.brings makes during brings
    | filled produced value entry ref info field type content site has typed shows absent produces
        core =>
      exact ih.filled makes during site has typed shows absent produces core

end

end Accessor

/-! ## Accesses that grow -/

/-- The access does nothing but growth, and it fails only in a way that is told. -/
def Access.GrowsOn {α : Type} (accessor : Accessor) (schema : Schema)
    (sites : BeanRef → PropertyInfo → Prop) (fault : AccessError → Prop) (access : Access α)
    (world : World) : Prop :=
  accessor.GrowsTo schema sites world (access.runOn world).2 ∧
    ∀ error, (access.runOn world).1 = .error error → fault error

/-- The error names the property at the end of a row of segments. -/
def AccessError.Blames (walked : List Segment) (error : AccessError) : Prop :=
  error.property? = some (Segment.render walked)

namespace Access.GrowsOn

variable {α β : Type} {accessor : Accessor} {schema : Schema}
  {sites : BeanRef → PropertyInfo → Prop} {fault : AccessError → Prop} {world : World}

/-- Giving a value is growth. -/
theorem pure (value : α) (world : World) :
    GrowsOn accessor schema sites fault (pure value) world :=
  ⟨.refl world, fun _ failed => nomatch failed⟩

/-- An access fails in a way that is told. -/
theorem refuse {error : AccessError} (told : fault error) (world : World) :
    GrowsOn accessor schema sites fault (throw error : Access α) world := by
  refine ⟨.refl world, fun other failed => ?_⟩
  obtain rfl : error = other := by simpa using failed
  exact told

/-- An access fails with what names the segments. -/
theorem blame {walked : List Segment} {error : AccessError}
    (named : error.property? = some (Segment.render walked)) (world : World) :
    GrowsOn accessor schema sites (AccessError.Blames walked)
      (throw error : Access α) world :=
  refuse named world

/-- A record comes in. -/
theorem record (entry : LogRecord) (world : World) :
    GrowsOn accessor schema sites fault (Access.record entry) world :=
  ⟨(Accessor.Brings.record entry).growsTo, fun _ failed => nomatch failed⟩

/-- A sequence grows if its first part does, and its second part after it. -/
theorem bind {first : Access α} {next : α → Access β}
    (grows : GrowsOn accessor schema sites fault first world)
    (further : ∀ value middle, first.runOn world = (.ok value, middle) →
      GrowsOn accessor schema sites fault (next value) middle) :
    GrowsOn accessor schema sites fault (first >>= next) world := by
  obtain ⟨during, told⟩ := grows
  unfold GrowsOn
  rcases run : first.runOn world with ⟨(error | value), middle⟩
  · rw [run] at during told
    rw [runOn_bind_of_error run]
    refine ⟨during, fun other failed => ?_⟩
    obtain rfl := Except.error.inj failed
    exact told error rfl
  · rw [run] at during
    rw [runOn_bind_of_ok run]
    obtain ⟨onward, told'⟩ := further value middle run
    exact ⟨during.trans onward, told'⟩

/-- Growth may be told of with more sites and more faults. -/
theorem mono {access : Access α} {sites' : BeanRef → PropertyInfo → Prop}
    {fault' : AccessError → Prop} (grows : GrowsOn accessor schema sites fault access world)
    (within : ∀ ref info, sites ref info → sites' ref info)
    (told : ∀ error, fault error → fault' error) :
    GrowsOn accessor schema sites' fault' access world :=
  ⟨grows.1.mono within, fun error failed => told error (grows.2 error failed)⟩

/-- What is told of an access can be told of a run of it. -/
theorem of_run {access : Access α} (grows : GrowsOn accessor schema sites fault access world)
    {outcome : Except AccessError α} {after : World}
    (run : access.runOn world = (outcome, after)) :
    accessor.GrowsTo schema sites world after ∧
      ∀ error, outcome = .error error → fault error := by
  unfold GrowsOn at grows
  rwa [run] at grows

end Access.GrowsOn

namespace Accessor

open Access (GrowsOn)

section

variable {accessor : Accessor} {schema : Schema} {sites : BeanRef → PropertyInfo → Prop}
  {request : WriteRequest} {world after : World}

/-- Making a bean does nothing but growth. -/
theorem construct_grows (walked : List Segment) (owner type : TypeRef) (world : World) :
    GrowsOn accessor schema sites (AccessError.Blames walked)
      (accessor.construct walked owner type) world := by
  unfold construct
  split
  · next make found =>
    have brings : accessor.Brings world (make world).2 := .made _ _ (.bean type make found)
    exact .bind ⟨brings.growsTo, fun _ failed => nomatch failed⟩ fun _ _ _ => .pure _ _
  · exact .blame rfl world

/-- Making an absent value does nothing but growth. -/
theorem grow_grows (walked : List Segment) (owner : TypeRef) (declared : DeclaredType)
    (world : World) :
    GrowsOn accessor schema sites (AccessError.Blames walked)
      (accessor.grow walked owner declared) world := by
  have finish : ∀ value middle, GrowsOn accessor schema sites (AccessError.Blames walked) (do
      Access.record (.grown (Segment.render walked) declared.unwrapped)
      return if declared.isOptional then Value.optSome value else value) middle := by
    intro value middle
    exact .bind (.record _ middle) fun _ after _ => .pure _ after
  unfold grow
  dsimp only
  split
  · exact .bind (construct_grows walked owner _ world) fun value middle _ => finish value middle
  · exact finish _ world
  · exact finish _ world
  · exact .bind (.blame rfl world) fun value middle _ => finish value middle

/-- Making an absent value, where that is allowed, does nothing but growth. -/
theorem growIfAllowed_grows (walked : List Segment) (owner : TypeRef) (declared : DeclaredType)
    (world : World) :
    GrowsOn accessor schema sites (AccessError.Blames walked)
      (accessor.growIfAllowed request walked owner declared) world := by
  unfold growIfAllowed
  split
  · exact grow_grows walked owner declared world
  · exact .blame rfl world

/-- Making a skipped element does nothing but growth. -/
theorem filler_grows (walked : List Segment) (owner : TypeRef) (element : DeclaredType)
    (world : World) :
    GrowsOn accessor schema sites (AccessError.Blames walked)
      (accessor.filler walked owner element) world := by
  unfold filler
  split
  case h_8 => exact grow_grows walked owner element world
  all_goals exact .pure _ world

/-- Making the skipped elements does nothing but growth. -/
theorem fillers_grows (walked : List Segment) (owner : TypeRef) (element : DeclaredType)
    (count : Nat) (world : World) :
    GrowsOn accessor schema sites (AccessError.Blames walked)
      (accessor.fillers walked owner element count) world := by
  induction count generalizing world with
  | zero => exact .pure _ world
  | succ count ih =>
    exact .bind (filler_grows walked owner element world) fun first middle _ =>
      .bind (ih middle) fun rest after _ => .pure _ after

/-- Reading an index does nothing. -/
theorem listIndex_grows (walked : List Segment) (owner : TypeRef) (key : String) (world : World) :
    GrowsOn accessor schema sites (AccessError.Blames walked)
      (listIndex walked owner key) world := by
  unfold listIndex
  split
  · exact .pure _ world
  · exact .blame rfl world

/-- A list is extended as a copy. -/
theorem extendTo_grows (before : List Segment) (segment : Segment) (owner : TypeRef)
    (element : DeclaredType) (index : Nat) (items : List Value) (world : World) :
    GrowsOn accessor schema sites (AccessError.Blames (before ++ [segment]))
      (accessor.extendTo request before segment owner element index items) world := by
  unfold extendTo
  dsimp only
  split
  · exact .pure _ world
  split
  · exact .blame rfl world
  split
  · exact .blame rfl world
  · exact .bind (.record _ world) fun _ middle _ =>
      .bind (fillers_grows _ _ _ _ middle) fun skipped after _ => .pure _ after

/-- A slot is opened in a copy of the collection. -/
theorem Opens.growsTo {before : List Segment} {segment : Segment} {holder slot : Value}
    {rebuild : Value → Value} {declared : DeclaredType} {owner : TypeRef}
    (opens : accessor.Opens request before holder declared owner world segment slot rebuild
      after) : accessor.GrowsTo schema sites world after := by
  cases opens with
  | list key quoted items extended index after core isIndex lengthens =>
    have grows : GrowsOn accessor schema sites (AccessError.Blames (before ++ [.key key quoted]))
        (accessor.extendTo request before (.key key quoted) owner declared.element index items)
        world :=
      extendTo_grows before (.key key quoted) owner declared.element index items world
    exact (grows.of_run lengthens).1
  | map key quoted entries core => exact .refl world

/-- Entering a slot does nothing but growth. -/
theorem enterSlot_grows (walked : List Segment) (owner : TypeRef) (element : DeclaredType)
    (slot : Value) (world : World) :
    GrowsOn accessor schema sites (AccessError.Blames walked)
      (accessor.enterSlot request walked owner element slot) world := by
  unfold enterSlot
  split
  · exact growIfAllowed_grows walked owner element world
  · exact .pure slot world

/-- Making a type handle is growth. -/
theorem handleCursor_grows (owner : TypeRef) (world : World) {fault : AccessError → Prop} :
    GrowsOn accessor schema sites fault (handleCursor owner) world := by
  unfold GrowsOn
  rw [runOn_handleCursor]
  exact ⟨(Brings.handle owner).growsTo, fun _ failed => nomatch failed⟩

/-! ## Properties -/

/-- What was made for a slot is the result of a production, inside an optional or not, and a record
of it. -/
theorem produces_of_growIfAllowed {walked : List Segment} {owner : TypeRef}
    {declared : DeclaredType} {grown : Value}
    (grew : (accessor.growIfAllowed request walked owner declared).runOn world =
      (.ok grown, after)) :
    ∃ made produced entry, accessor.Produces world made produced ∧
      after = produced.record entry ∧ grown.core = made := by
  unfold growIfAllowed at grew
  split at grew
  case isFalse => simp at grew
  have finish : ∀ made produced, made.core = made → accessor.Produces world made produced →
      (do
        Access.record (.grown (Segment.render walked) declared.unwrapped)
        return if declared.isOptional then Value.optSome made else made :
          Access Value).runOn produced = (.ok grown, after) →
      ∃ made produced entry, accessor.Produces world made produced ∧
        after = produced.record entry ∧ grown.core = made := by
    intro made produced bare produces done
    obtain ⟨_, middle, recorded, done⟩ := Access.runOn_bind_eq_ok_iff.1 done
    obtain ⟨same, rfl⟩ : _ = grown ∧ middle = after := by simpa using done
    have toMiddle : produced.record (.grown (Segment.render walked) declared.unwrapped) = middle :=
      (Prod.mk.inj recorded).2
    refine ⟨made, produced, _, produces, toMiddle.symm, ?_⟩
    rw [← same]
    split
    · exact bare
    · exact bare
  unfold grow at grew
  dsimp only at grew
  split at grew
  case h_1 type _ =>
    obtain ⟨made, middle, constructed, done⟩ := Access.runOn_bind_eq_ok_iff.1 grew
    unfold construct at constructed
    split at constructed
    case h_1 make found =>
      rw [Access.runOn_bind_of_ok (Access.runOn_ofWorld make world)] at constructed
      obtain ⟨rfl, rfl⟩ : _ = made ∧ (make world).2 = middle := by simpa using constructed
      exact finish _ _ rfl (.bean type make found) done
    case h_2 => simp at constructed
  case h_2 => exact finish _ _ rfl .list grew
  case h_3 => exact finish _ _ rfl .map grew
  case h_4 =>
    rw [Access.throw_bind] at grew
    simp at grew

/-- What was made for a slot is shown, inside all optionals, by a field that stores it. -/
theorem Produces.core_of_stores {type : FieldType} {grown made shown : Value} {produced : World}
    (stores : type.Stores grown shown) (produces : accessor.Produces world made produced)
    (core : grown.core = made) : shown.core = made := by
  cases produces with
  | list => exact (stores.core_empty (.inl core)).trans core
  | map => exact (stores.core_empty (.inr core)).trans core
  | bean type make found => exact stores.core_bean core

/-- A property that refuses a value is the one that is named. -/
theorem PutRefused.blames {walked : List Segment} {owner : TypeRef} {info : PropertyInfo}
    {error : AccessError} (refused : PutRefused walked owner info error) :
    error.Blames walked := by
  rcases refused with ⟨-, rfl⟩ | ⟨cause, rfl⟩ <;> rfl

/-- Where a property is entered, nothing changes but the property itself, if it is absent. -/
theorem enter_grows (makes : accessor.Constructs schema) (fits : schema.Fits world)
    {ref : BeanRef} {info : PropertyInfo} {field : String} {type : FieldType} (has : world.Has ref)
    (typed : schema.field? ref.type field = some type)
    (shows : info.ShowsField ref.type field type) (readable : info.isReadable = true)
    (site : sites ref info) (walked : List Segment) :
    GrowsOn accessor schema sites (AccessError.Blames walked)
      (accessor.enter request walked ref info) world := by
  have read := runOn_read shows readable has walked
  by_cases held : world.isHeldExclusively ref
  · rw [if_pos held] at read
    unfold GrowsOn enter
    rw [Access.runOn_bind_of_error read]
    refine ⟨.refl world, fun error failed => ?_⟩
    obtain rfl := Except.error.inj failed
    rfl
  rw [if_neg held] at read
  unfold GrowsOn enter
  rw [Access.runOn_bind_of_ok read]
  by_cases absent : (world.shown ref field).isAbsent
  case neg =>
    simp only [absent, Bool.false_eq_true, ↓reduceIte]
    exact Access.GrowsOn.pure _ world
  simp only [absent, ↓reduceIte]
  obtain ⟨during, told⟩ : GrowsOn accessor schema sites (AccessError.Blames walked)
    (accessor.growIfAllowed request walked ref.type info.type) world :=
    growIfAllowed_grows walked ref.type info.type world
  rcases grew : (accessor.growIfAllowed request walked ref.type info.type).runOn world with
    ⟨(error | grown), middle⟩
  · rw [grew] at during told
    rw [Access.runOn_bind_of_error grew]
    exact ⟨during, told⟩
  rw [grew] at during
  rw [Access.runOn_bind_of_ok grew]
  obtain ⟨made, produced, entry, produces, rfl, core⟩ := produces_of_growIfAllowed grew
  have evolves : world.EvolvesTo [] (produced.record entry) :=
    (produces.evolves makes fits).1.trans (.of_record produced entry)
  rcases runOn_putBack shows (evolves.has ref has) walked grown with
    ⟨content, took, -, stored⟩ | ⟨error, refused, failed⟩
  · rw [Access.runOn_bind_of_ok stored, Access.runOn_pure]
    have shown : (type.toValue content).core = made :=
      produces.core_of_stores ⟨content, took, rfl⟩ core
    refine ⟨Relation.ReflTransGen.single ?_, fun _ failed => nomatch failed⟩
    exact .filled world produced made entry ref info field type content site has typed shows absent
      produces shown
  · rw [Access.runOn_bind_of_error failed]
    refine ⟨during, fun other same => ?_⟩
    obtain rfl := Except.error.inj same
    exact refused.blames

/-! ## Reading the old value -/

/-- A read grows, though nothing but type handles comes in. -/
theorem step_grows (plain : accessor.registry.Plain schema) {cursor : Cursor}
    (admitted : world.Admits cursor.value) (before : List Segment) (segment : Segment) :
    GrowsOn accessor schema sites (fun _ => True) (accessor.step cursor before segment) world := by
  have inside := admitted.unwrapped
  unfold step
  dsimp only
  split
  case h_1 ref label isBean =>
    have has : world.Has ref := (isBean ▸ inside).has
    unfold readName
    split
    case h_1 info names =>
      split
      case isTrue readable =>
        obtain ⟨field, type, -, shows⟩ := shows_of_capability? plain names
        have read := runOn_read shows readable has (before ++ [.name label])
        refine .bind ?_ fun value middle _ => .pure _ middle
        unfold GrowsOn
        rw [read]
        exact ⟨.refl world, fun _ _ => trivial⟩
      case isFalse => exact .refuse trivial world
    case h_2 => exact handleCursor_grows ref.type world
    case h_3 => exact .refuse trivial world
  case h_2 =>
    refine .bind ?_ fun index middle _ => ?_
    · exact (listIndex_grows _ _ _ world).mono (fun _ _ site => site) fun _ _ => trivial
    · split
      · exact .pure _ middle
      · exact .refuse trivial middle
  case h_3 => exact .pure _ world
  case h_4 => exact .refuse trivial world

/-- Navigation does nothing but growth. -/
theorem navigate_grows (plain : accessor.registry.Plain schema) (later : List Segment) :
    ∀ (world : World) (cursor : Cursor) (before : List Segment) (segment : Segment),
      schema.Fits world → world.Admits cursor.value →
      GrowsOn accessor schema sites (fun _ => True)
        (accessor.navigate cursor before segment later) world := by
  induction later with
  | nil =>
    intro world cursor before segment fits admitted
    exact .pure _ world
  | cons next later ih =>
    intro world cursor before segment fits admitted
    refine .bind (step_grows plain admitted before segment) fun cursor' middle stepped => ?_
    obtain ⟨-, fitsMiddle, told⟩ := (step_adds plain fits cursor before segment admitted).of_run
      stepped
    split
    · exact .refuse trivial middle
    · exact ih middle cursor' _ next fitsMiddle (told cursor' rfl)

/-- Reading the old value does nothing but growth. -/
theorem oldValue_grows (plain : accessor.registry.Plain schema) (fits : schema.Fits world)
    {root : BeanRef} (has : world.Has root) (options : AccessOptions) (path : PropertyPath) :
    accessor.GrowsTo schema sites world ((accessor.oldValue options root path).runOn world).2 := by
  have reads : GrowsOn accessor schema sites (fun _ => True) (accessor.get root path) world := by
    refine .bind (navigate_grows plain path.later world (.root root) [] path.first fits
      (.bean root has)) fun parent middle walked => ?_
    obtain ⟨-, -, told⟩ := (navigate_adds plain path.later world (.root root) [] path.first fits
      (.bean root has)).of_run walked
    exact .bind (step_grows plain (told parent rfl) _ _) fun cursor after _ => .pure _ after
  unfold oldValue
  split
  · unfold readOld
    rw [Access.runOn_tryCatch, Access.runOn_map]
    obtain ⟨during, -⟩ := reads
    rcases run : (accessor.get root path).runOn world with ⟨(error | value), middle⟩
    · rw [run] at during
      exact during.trans (Brings.record _).growsTo
    · rw [run] at during
      exact during
  · exact .refl world

end

end Accessor

end PropertyGraph
