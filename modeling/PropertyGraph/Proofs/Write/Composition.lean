import PropertyGraph.Proofs.Access.Mirror
import PropertyGraph.Proofs.Path.Grammar
import PropertyGraph.Proofs.Read.Declared
import PropertyGraph.Proofs.Write.Foretold

/-!
# Paths compose

Where a path leads to a bean, a longer path does from the root what the rest of it does from that
bean. All that the walk keeps besides the value, which is the declared type, the owner and whether
there is an optional around, is forgotten at a bean, since a name is resolved on the bean alone. A
write has besides to put back the collections that it has gone into; over names alone there are
none.
-/
namespace PropertyGraph

/-- A segment that is a name has a label. -/
theorem Segment.exists_name {segment : Segment} (isName : segment.isName = true) :
    ∃ label, segment = .name label := by
  cases segment with
  | name label => exact ⟨label, rfl⟩
  | key label quoted => simp [Segment.isName] at isName

namespace PropertyPath

/-- The path goes on with another one. -/
def followedBy (path rest : PropertyPath) : PropertyPath :=
  ⟨path.first, path.later ++ rest.segments⟩

/-- A path that goes on has the segments of both parts. -/
theorem segments_followedBy (path rest : PropertyPath) :
    (path.followedBy rest).segments = path.segments ++ rest.segments :=
  rfl

/-- The rest is written behind a point. -/
theorem text_followedBy {path rest : PropertyPath} (starts : rest.first.isName = true) :
    (path.followedBy rest).text = path.text ++ "." ++ rest.text := by
  have nonempty : path.segments ≠ [] := List.cons_ne_nil _ _
  have named : Segment.startsWithName rest.segments = true := starts
  rw [text, segments_followedBy, Segment.render_append nonempty named]
  rfl

/-- Texts of paths with a point between them are the text of a path that goes on. -/
theorem parse_followedBy {front back : String} {path rest : PropertyPath}
    (readFront : parse front = .ok path) (readBack : parse back = .ok rest)
    (starts : rest.first.isName = true) :
    parse (front ++ "." ++ back) = .ok (path.followedBy rest) := by
  obtain ⟨written, rfl⟩ := Derivation.exists_of_parse readFront
  obtain ⟨behind, rfl⟩ := Derivation.exists_of_parse readBack
  have isName : behind.first.segment.isName = true := starts
  have point : behind.first.laterChars = '.' :: behind.first.chars := by
    rw [Spelling.laterChars_eq, if_pos isName]
    rfl
  have yields : written.first.chars ++
      (written.later ++ behind.first :: behind.later).flatMap Spelling.laterChars =
        (front ++ "." ++ back).toList := by
    rw [String.toList_append, String.toList_append, ← written.yields, ← behind.yields,
      List.flatMap_append, List.flatMap_cons, point]
    simp
  let whole : Derivation (front ++ "." ++ back) :=
    ⟨written.first, written.later ++ behind.first :: behind.later, yields⟩
  have same : whole.path = written.path.followedBy behind.path := by
    simp [whole, Derivation.path, followedBy, segments]
  rw [whole.parse_eq, same]

end PropertyPath

/-- The change with a front before its property. -/
def PropertyChange.under (front : String) (change : PropertyChange) : PropertyChange :=
  { change with property := front ++ "." ++ change.property }

/-- A value that shows a bean is present. -/
theorem Value.isAbsent_of_unwrapped {value : Value} {ref : BeanRef}
    (isBean : value.unwrapped = .bean ref) : value.isAbsent = false :=
  isAbsent_of_core (by rw [unwrapped_eq_bean_iff.1 isBean]; rfl)

namespace Accessor

section

variable {accessor : Accessor} {request : WriteRequest} {world start after : World}
  {root ref : BeanRef} {segments before later rest : List Segment} {first segment : Segment}
  {cursor : Cursor} {info : PropertyInfo} {value : Value} {path : PropertyPath}

/-! ## Up to the bean -/

/-- Only the segment for metadata leads to a type handle. -/
theorem eq_segment_of_capability? {owner : TypeRef} {name : String}
    (names : accessor.capability? owner name = some .handle) : name = accessor.policy.segment := by
  unfold capability? at names
  split at names
  · simp at names
  · split at names
    · simp at names
    · split at names
      · assumption
      · simp at names

/-- A getter that only looks gives the same wherever nothing has changed. -/
theorem Observes.read_again (observes : accessor.Observes world)
    (toStart : world.EvolvesTo [] start) (has : world.Has ref) {label : String}
    (described : accessor.registry.describe? ref.type label = some info)
    (read : world.read ref info = (.ok value, after)) (walked : List Segment) :
    after = world ∧ world.Admits value ∧
      (Access.invoke walked ref (·.read ref info)).runOn start = (.ok value, start) := by
  have here := observes.runOn_read has described walked
  have there := observes.runOn_read (toStart.has ref has) described walked
  rw [Access.runOn_invoke, read] at here
  obtain ⟨outcome, same⟩ := Prod.mk.inj here
  have given := ok_of_readOutcome outcome.symm
  rw [World.isHeldExclusively_of_guards toStart.guards, toStart.bean ref has (by simp), ← outcome]
    at there
  exact ⟨same, observes.admits ref label info value has described given, there⟩

/-- A row of segments without metadata changes nothing, and comes to a value of the world. -/
theorem ComesTo.stays (observes : accessor.Observes world) (has : world.Has root)
    (comes : accessor.ComesTo world root segments cursor after)
    (plain : ∀ segment ∈ segments, segment ≠ .name accessor.policy.segment) :
    after = world ∧ world.Admits cursor.value := by
  induction comes with
  | root => exact ⟨rfl, .bean root has⟩
  | step before segment cursor next middle after _ _ stepped ih =>
    obtain ⟨rfl, admitted⟩ := ih fun segment among => plain segment (List.mem_append_left _ among)
    have inside := admitted.unwrapped
    cases takes_of_step stepped with
    | property ref label info value _ isBean names readable read =>
      have hasRef : middle.Has ref := (isBean ▸ inside).has
      obtain ⟨same, admits, -⟩ := observes.read_again (.refl _ _) hasRef
        (describe?_of_capability? names) read []
      exact ⟨same, admits⟩
    | handle ref label isBean names =>
      have among : Segment.name label ∈ before ++ [.name label] := by simp
      exact absurd (congrArg Segment.name (eq_segment_of_capability? names)) (plain _ among)
    | item items key quoted index value isList isIndex found =>
      exact ⟨rfl, (isList ▸ inside).item (List.mem_of_getElem? found)⟩
    | entry entries key quoted isMap =>
      refine ⟨rfl, ?_⟩
      cases found : Entries.find? key entries with
      | none => exact .atomic _ rfl
      | some value => exact (isMap ▸ inside).entry (Entries.mem_of_find? found)

/-! ## Reads -/

/-- A name is read on a bean, whatever else is known of its slot. -/
theorem readFrom_bean (isBean : cursor.value.unwrapped = .bean ref) (label : String) :
    accessor.readFrom cursor before (.name label) later =
      accessor.readFrom (.root ref) before (.name label) later := by
  have steps : accessor.step cursor before (.name label) =
      accessor.step (.root ref) before (.name label) := by
    simp only [step, isBean]
    rfl
  cases later with
  | nil => simp only [readFrom, navigate, pure_bind, steps]
  | cons next later => simp only [readFrom, navigate, steps]

/-- Behind a path that leads to a bean, the rest is read from the bean. -/
theorem runOn_get_followedBy {path rest : PropertyPath} {label : String}
    (comes : accessor.ComesTo world root path.segments cursor after)
    (isBean : cursor.value.unwrapped = .bean ref) (named : rest.first = .name label) :
    (accessor.get root (path.followedBy rest)).runOn world =
      (accessor.readFrom (.root ref) path.segments rest.first rest.later).runOn after := by
  have split : path.first :: (path.followedBy rest).later =
      path.segments ++ rest.first :: rest.later := rfl
  have walked := comes.navigate (Value.isAbsent_of_unwrapped isBean) split
  have parent : (accessor.parent root (path.followedBy rest)).runOn world =
      (accessor.navigate cursor path.segments rest.first rest.later).runOn after := walked
  have reads : (accessor.get root (path.followedBy rest)).runOn world =
      (accessor.readFrom cursor path.segments rest.first rest.later).runOn after := by
    rw [get, readFrom, Access.runOn_bind, parent, ← Access.runOn_bind]
  rw [reads, named, readFrom_bean isBean]

/-- Reading behind a path that leads to a bean is reading from the bean. -/
theorem get_under {path rest : PropertyPath}
    (comes : accessor.ComesTo world root path.segments cursor world)
    (isBean : cursor.value.unwrapped = .bean ref) (starts : rest.first.isName = true) :
    RunsUnder path.segments ((accessor.get root (path.followedBy rest)).runOn world)
      ((accessor.get ref rest).runOn world) := by
  obtain ⟨label, named⟩ := Segment.exists_name starts
  have nonempty : path.segments ≠ [] := List.cons_ne_nil _ _
  have mirrors := accessor.readFrom_mirrors nonempty rest.later (.root ref) [] rest.first starts
  rw [List.append_nil] at mirrors
  rw [runOn_get_followedBy comes isBean named]
  exact mirrors world world (.refl world)

/-- The old value is reported alike where it is read alike. -/
theorem oldValue_under {options : AccessOptions} {front : List Segment} {path rest : PropertyPath}
    (reads : RunsUnder front ((accessor.get root path).runOn world)
      ((accessor.get ref rest).runOn world)) :
    RunsUnder front ((accessor.oldValue options root path).runOn world)
      ((accessor.oldValue options ref rest).runOn world) := by
  obtain ⟨outcome, graph⟩ := reads
  unfold oldValue
  split
  · rw [readOld, readOld, Access.runOn_tryCatch, Access.runOn_tryCatch, Access.runOn_map,
      Access.runOn_map]
    rw [outcome]
    cases ((accessor.get ref rest).runOn world).1 with
    | ok value => exact ⟨rfl, graph⟩
    | error error => exact ⟨rfl, graph.record _ _⟩
  · exact ⟨rfl, .refl world⟩

/-! ## Writes -/

/-- Nothing has to be put back where the value came from. -/
def Bare (access : Access Written) : Prop :=
  ∀ start written after, access.runOn start = (.ok written, after) → written.copy? = none

/-- A value without a copy leaves nothing to put back. -/
theorem Bare.pure (value : Value) : Bare (pure ⟨value, none⟩) := by
  intro start written after done
  obtain ⟨rfl, -⟩ : _ = written ∧ start = after := by simpa using done
  rfl

/-- A failure leaves nothing to put back. -/
theorem Bare.throw (error : AccessError) : Bare (throw error) := by
  intro start written after done
  simp at done

/-- A sequence leaves to put back what its last part does. -/
theorem Bare.bind {α : Type} (access : Access α) {next : α → Access Written}
    (bare : ∀ value, Bare (next value)) : Bare (access >>= next) := by
  intro start written after done
  obtain ⟨value, middle, -, done⟩ := Access.runOn_bind_eq_ok_iff.1 done
  exact bare value middle written after done

/-- A bean is changed in place. -/
theorem bare_writeStep (core : value.core = .bean ref) (descend? : Option Descent)
    (declared : DeclaredType) (owner : TypeRef) :
    Bare (accessor.writeStep request before segment descend? value declared owner) := by
  cases segment with
  | key key quoted =>
    simp only [writeStep, core]
    exact .throw _
  | name label =>
    cases descend? with
    | none =>
      simp only [writeStep, core, writeLast]
      split
      · split
        · exact .bind _ fun _ => .bind _ fun _ => .pure _
        · exact .throw _
      · exact .throw _
    | some descend =>
      simp only [writeStep, core, writeBelow, writeThrough]
      split
      · split
        · refine .bind _ fun child => .bind _ fun written => ?_
          split
          · exact .bind _ fun _ => .pure _
          · exact .pure _
        · exact .throw _
      · exact .bind _ fun _ => .bind _ fun _ => .pure _
      · exact .throw _

/-- A bean is changed in place, so that nothing of it has to be put back. -/
theorem bare_writeInto (core : value.core = .bean ref) (declared : DeclaredType)
    (owner : TypeRef) :
    Bare (accessor.writeInto request before segment later value declared owner) := by
  cases later with
  | nil => exact bare_writeStep core none declared owner
  | cons next later => exact bare_writeStep core (some _) declared owner

/-- A name is written on a bean, whatever else is known of its slot. -/
theorem writeInto_bean (core : value.core = .bean ref) (label : String) (declared : DeclaredType)
    (owner : TypeRef) :
    accessor.writeInto request before (.name label) later value declared owner =
      accessor.writeInto request before (.name label) later (.bean ref) (.bean ref.type)
        ref.type := by
  cases later with
  | nil => simp only [writeInto, writeStep, core]; rfl
  | cons next later => simp only [writeInto, writeStep, core]; rfl

/-- A write goes through a property that shows a bean, and has nothing to put back there. -/
theorem runOn_writeBelow {label : String} {child : Value} {descend : Descent}
    (names : accessor.capability? ref.type label = some (.property info))
    (readable : info.isReadable = true)
    (read : (Access.invoke before ref (·.read ref info)).runOn start = (.ok child, start))
    (present : child.isAbsent = false)
    (bare : Bare (descend child info.type ref.type)) :
    (accessor.writeBelow request before ref label descend).runOn start =
      (descend child info.type ref.type).runOn start := by
  have entered : (accessor.enter request before ref info).runOn start = (.ok child, start) :=
    runOn_enter_of_read read present
  simp only [writeBelow, names, readable, ↓reduceIte, writeThrough]
  rw [Access.runOn_bind_of_ok entered, Access.runOn_bind]
  rcases run : (descend child info.type ref.type).runOn start with
    ⟨(error | ⟨result, copy?⟩), after⟩
  · rfl
  · obtain rfl : copy? = none := bare _ _ _ run
    rfl

variable (request) in
/-- Over names that come to a bean, a write comes to the bean, by induction on the walk. -/
theorem ComesTo.runOn_writeInto (observes : accessor.Observes world) (has : world.Has root)
    (toStart : world.EvolvesTo [] start)
    (comes : accessor.ComesTo world root before cursor after)
    (plain : ∀ segment ∈ before, segment ≠ .name accessor.policy.segment)
    (names : ∀ segment ∈ before, segment.isName = true) (core : cursor.value.core = .bean ref)
    (split : first :: rest = before ++ segment :: later) :
    (accessor.writeInto request [] first rest (.bean root) (.bean root.type)
        root.type).runOn start =
      (accessor.writeInto request before segment later cursor.value cursor.declared
        cursor.owner).runOn start := by
  induction comes generalizing segment later ref with
  | root =>
    obtain ⟨rfl, rfl⟩ := List.cons.inj split
    rfl
  | step before earlier cursor next middle after comes _ stepped ih =>
    have plainBefore := fun segment among => plain segment (List.mem_append_left [earlier] among)
    have namesBefore := fun segment among => names segment (List.mem_append_left [earlier] among)
    have whole : first :: rest = before ++ earlier :: segment :: later := by simpa using split
    have among : earlier ∈ before ++ [earlier] := by simp
    obtain ⟨rfl, admitted⟩ := comes.stays observes has plainBefore
    cases takes_of_step stepped with
    | property inner label info child _ isBean property readable read =>
      have outer := Value.unwrapped_eq_bean_iff.1 isBean
      have hasInner : middle.Has inner := (outer ▸ admitted.core).has
      obtain ⟨-, -, again⟩ := observes.read_again toStart hasInner
        (describe?_of_capability? property) read (before ++ [.name label])
      have present : child.isAbsent = false := Value.isAbsent_of_core (by rw [core]; rfl)
      rw [ih plainBefore namesBefore outer whole]
      simp only [writeInto, writeStep, outer]
      exact runOn_writeBelow property readable again present (bare_writeInto core _ _)
    | handle inner label isBean property =>
      exact absurd (congrArg Segment.name (eq_segment_of_capability? property)) (plain _ among)
    | item _ key quoted => exact absurd (names _ among) (by simp [Segment.isName])
    | entry _ key quoted => exact absurd (names _ among) (by simp [Segment.isName])

/-- Writing behind names that come to a bean is writing at the bean. -/
theorem writePath_under (observes : accessor.Observes world) (has : world.Has root)
    (alike : accessor.ConstructsAlike) {path rest : PropertyPath} {other : World}
    (comes : accessor.ComesTo world root path.segments cursor after)
    (isBean : cursor.value.unwrapped = .bean ref)
    (plain : ∀ segment ∈ path.segments, segment ≠ .name accessor.policy.segment)
    (names : ∀ segment ∈ path.segments, segment.isName = true)
    (starts : rest.first.isName = true) (toStart : world.EvolvesTo [] start)
    (same : start.SameGraph other) (options : AccessOptions) (raw : Value) :
    RunsUnder path.segments
      ((accessor.writePath options root (path.followedBy rest) raw).runOn start)
      ((accessor.writePath options ref rest raw).runOn other) := by
  obtain ⟨label, named⟩ := Segment.exists_name starts
  have nonempty : path.segments ≠ [] := List.cons_ne_nil _ _
  have core := Value.unwrapped_eq_bean_iff.1 isBean
  have split : path.first :: (path.followedBy rest).later =
      path.segments ++ rest.first :: rest.later := rfl
  have comesThere := comes.runOn_writeInto ⟨raw, options⟩ observes has toStart plain names core
    split
  rw [named, writeInto_bean core, ← named] at comesThere
  have mirrors := accessor.writeInto_mirrors ⟨raw, options⟩ nonempty alike rest.later [] rest.first
    starts (.bean ref) (.bean ref.type) ref.type
  rw [List.append_nil] at mirrors
  have under := mirrors start other same
  rw [← comesThere] at under
  apply RunsUnder.bind under
  intro written left right _ _ graph
  exact ⟨rfl, graph⟩

/-! ## Reads and writes -/

/-- Paths compose. Where a path without metadata leads to a bean, a longer path that goes on with
a name is read as the rest of it is from the bean, but that errors tell the whole path. Where the
path is one of names, the same holds of a write with whatever options. -/
theorem access_followedBy (observes : accessor.Observes world) (has : world.Has root)
    {path rest : PropertyPath} {seen : World}
    (plain : ∀ segment ∈ path.segments, segment ≠ .name accessor.policy.segment)
    (starts : rest.first.isName = true)
    (leads : (accessor.get root path).runOn world = (.ok (.bean ref), seen)) :
    RunsUnder path.segments ((accessor.get root (path.followedBy rest)).runOn world)
      ((accessor.get ref rest).runOn world) ∧
    (accessor.ConstructsAlike → (∀ segment ∈ path.segments, segment.isName = true) →
      ∀ options raw, RunsUnder path.segments
        ((accessor.setWith options root (path.followedBy rest) raw).runOn world)
        ((PropertyChange.under path.text <$> accessor.setWith options ref rest raw).runOn
          world)) := by
  obtain ⟨cursor, comes, isBean⟩ := get_eq_ok_iff.1 leads
  obtain ⟨rfl, -⟩ := comes.stays observes has plain
  have reads := get_under comes isBean starts
  refine ⟨reads, fun alike names options raw => ?_⟩
  have written : PropertyChange.under path.text <$> accessor.setWith options ref rest raw =
      accessor.oldValue options ref rest >>= fun oldValue? =>
        accessor.writePath options ref rest raw >>= fun newValue =>
          pure (.under path.text ⟨rest.text, oldValue?, newValue⟩) := by
    rw [setWith_eq_bind]
    simp only [map_bind, map_pure]
  rw [setWith_eq_bind, written]
  apply RunsUnder.bind (oldValue_under reads)
  intro oldValue? start other readHere _ same
  obtain ⟨_, start', readStart, toStart⟩ :=
    runOn_oldValue observes has options (path.followedBy rest)
  obtain ⟨-, rfl⟩ : _ ∧ start = start' := Prod.mk.inj (readHere.symm.trans readStart)
  have puts := writePath_under observes has alike comes isBean plain names starts toStart same
    options raw
  apply RunsUnder.bind puts
  intro newValue left right _ _ graph
  have told : (path.followedBy rest).text = path.text ++ "." ++ rest.text :=
    PropertyPath.text_followedBy starts
  refine ⟨?_, graph⟩
  rw [told]
  rfl

end

open Household in
/-- The second friend of the owner of Rex is the second friend of Eve, who gets one that way. -/
theorem friend_of_owner_of_rex :
    let path : PropertyPath := ⟨.name "owner", []⟩
    let rest : PropertyPath := ⟨.name "friends", [.key "1" false, .name "name"]⟩
    let options : AccessOptions := { growNested := true, extractOldValue := true }
    let renamed := accessor.setWith options eve rest (.text "Ida")
    (accessor.get rex path).runOn (world []) = (.ok (.bean eve), world []) ∧
      (renamed.runOn (world [])).1 = .ok ⟨rest.text, none, .text "Ida"⟩ ∧
      RunsUnder path.segments ((accessor.get rex (path.followedBy rest)).runOn (world []))
        ((accessor.get eve rest).runOn (world [])) ∧
      RunsUnder path.segments
        ((accessor.setWith options rex (path.followedBy rest) (.text "Ida")).runOn (world []))
        ((PropertyChange.under path.text <$> renamed).runOn (world [])) := by
  intro path rest options renamed
  have has : (world []).Has rex := ⟨_, rfl, rfl⟩
  have leads : (accessor.get rex path).runOn (world []) = (.ok (.bean eve), world []) := rfl
  have plain : ∀ segment ∈ path.segments, segment ≠ .name accessor.policy.segment := by decide
  have starts : rest.first.isName = true := rfl
  obtain ⟨reads, writes⟩ := access_followedBy observes_household has plain starts leads
  have grows := writes (constructsAlike_of_layout rfl) (by decide) options (.text "Ida")
  exact ⟨leads, rfl, reads, grows⟩

end Accessor

end PropertyGraph
