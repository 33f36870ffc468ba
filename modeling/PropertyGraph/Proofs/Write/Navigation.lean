import PropertyGraph.Proofs.Write.Foretold

/-!
# Reads and writes navigate alike

A read and a write resolve the segments before the last one alike. If the read fails there, the
write fails at the same segment and for the same reason; an absent value is what the write may not
make. If the read comes to the last segment, so does the write. All that fails then is the last
segment itself, the conversion, or a property whose list or map is put back.
-/
namespace PropertyGraph

/-- The value is a list or a map. -/
def Value.isCollection : Value → Bool
  | list _ | map _ => true
  | _ => false

namespace Accessor

/-- The path goes through the property of a name into its list or map. -/
structure EntersCollection (accessor : Accessor) (world : World) (root : BeanRef)
    (path : PropertyPath) (front : List Segment) (label : String) (ref : BeanRef)
    (info : PropertyInfo) : Prop where
  split : ∃ key quoted rest, path.segments = front ++ .name label :: .key key quoted :: rest
  reaches : accessor.Reaches world root front ref
  names : accessor.capability? ref.type label = some (.property info)
  collection : ∃ value after,
    (accessor.get root (path.upTo (front.length + 1))).runOn world = (.ok value, after) ∧
      value.isCollection = true

section

variable {accessor : Accessor} {request : WriteRequest}
  {world start middle after left right : World} {root : BeanRef} {before later : List Segment}
  {last : Segment} {cursor next : Cursor} {path : PropertyPath} {key : String} {quoted : Bool}
  {holder : Value} {error : AccessError} {declared : DeclaredType} {owner : TypeRef}

/-! ## Keys lead into collections -/

/-- Only a list or a map has an element for a key. -/
theorem isCollection_of_step
    (stepped : (accessor.step cursor before (.key key quoted)).runOn middle = (.ok next, after)) :
    cursor.value.unwrapped.isCollection = true := by
  cases unwrapped : cursor.value.unwrapped <;> simp [step, unwrapped] at stepped <;> rfl

/-- Only a list or a map has a description for a key. -/
theorem isCollection_of_describeStep {descriptor : PropertyDescriptor}
    (described : (accessor.describeStep cursor before (.key key quoted)).runOn middle =
      (.ok descriptor, after)) :
    cursor.value.unwrapped.isCollection = true := by
  cases unwrapped : cursor.value.unwrapped <;> simp [describeStep, unwrapped] at described <;> rfl

/-- A row of segments that goes on with a key comes to a list or a map before it. -/
theorem ComesTo.exists_collection
    (comes : accessor.ComesTo world root (before ++ .key key quoted :: later) cursor after) :
    ∃ between middle, accessor.ComesTo world root before between middle ∧
      between.value.unwrapped.isCollection = true := by
  obtain ⟨_, _, reached, -⟩ := comes.of_append (List.append_cons before (.key key quoted) later)
  obtain ⟨between, middle, comesBefore, -, stepped⟩ := reached.of_concat
  exact ⟨between, middle, comesBefore, isCollection_of_step stepped⟩

/-! ## The last segment -/

/-- What cannot be planned for the last segment names the whole row of segments. -/
theorem property?_of_planStep (off : request.options.growNested = false)
    (failed : (accessor.planStep request before last none holder declared owner).runOn world =
      (.error error, after)) :
    error.property? = some (Segment.render (before ++ [last])) := by
  simp only [planStep] at failed
  split at failed
  case h_1 ref label core =>
    simp only [planLast] at failed
    split at failed
    · split at failed
      · simp at failed
      · obtain ⟨rfl, -⟩ : _ = error ∧ _ := by simpa using failed
        rfl
    · obtain ⟨rfl, -⟩ : _ = error ∧ _ := by simpa using failed
      rfl
  case h_2 =>
    obtain ⟨rfl, -⟩ : _ = error ∧ _ := by simpa using failed
    rfl
  case h_3 items key quoted core =>
    cases isIndex : listIndex? key with
    | none =>
      obtain ⟨rfl, -⟩ : _ = error ∧ _ := by simpa [listIndex, isIndex] using failed
      rfl
    | some index =>
      simp only [listIndex, isIndex, pure_bind, extendTo_quiet off] at failed
      split at failed
      · simp [planSlot] at failed
      · obtain ⟨rfl, -⟩ : _ = error ∧ _ := by simpa using failed
        rfl
  case h_4 => simp [planSlot] at failed
  case h_5 =>
    obtain ⟨rfl, -⟩ : _ = error ∧ _ := by simpa using failed
    rfl

/-- A refusal names the property that refuses. -/
theorem PutRefused.property?_eq {walked : List Segment} {info : PropertyInfo}
    (refused : PutRefused walked owner info error) :
    error.property? = some (Segment.render walked) := by
  rcases refused with ⟨-, rfl⟩ | ⟨cause, rfl⟩ <;> rfl

/-- What a plan puts goes into the property at the end of the path, or into one whose list or map
the path enters. -/
theorem Abreast.entersCollection_of_mem_puts {wrap : Plan → Plan} {descriptor : PropertyDescriptor}
    {plan : Plan}
    (abreast : accessor.Abreast request world root start before cursor left holder right wrap)
    (segments : path.segments = before ++ [last])
    (described : (accessor.describe root path).runOn world = (.ok descriptor, after))
    (ends : accessor.Ends before cursor last descriptor plan) {value : Value} {put : Put}
    (among : put ∈ (wrap plan).puts value) :
    put.walked = path.segments ∨
      ∃ front label ref, accessor.EntersCollection world root path front label ref put.info ∧
        put.walked = front ++ [.name label] ∧ put.ref.type = ref.type := by
  rcases abreast.of_mem_puts among with
    among | ⟨front, label, rest, ref, names, walked, sameType, returns, -⟩
  · cases ends with
    | property label ref holder info core names =>
      obtain rfl := List.mem_singleton.1 among
      exact .inl segments.symm
    | slot => simp at among
  · obtain ⟨key, quoted, rest', split, between, middle, comes, collection⟩ :
        ∃ key quoted rest', rest ++ [last] = .key key quoted :: rest' ∧ ∃ between middle,
          accessor.ComesTo world root (front ++ [.name label]) between middle ∧
            between.value.unwrapped.isCollection = true := by
      rcases returns with starts | ⟨rfl, copies⟩
      · obtain ⟨key, quoted, rest', rfl⟩ := exists_key_of_startsWithKey starts
        have comes := names.split ▸ abreast.comesTo
        rw [List.append_cons] at comes
        exact ⟨key, quoted, rest' ++ [last], rfl, comes.exists_collection⟩
      · cases ends with
        | property => simp at copies
        | slot key quoted rebuild noBean =>
          rw [describe, Access.runOn_bind_of_ok (abreast.parent segments)] at described
          exact ⟨key, quoted, [], rfl, cursor, left, names.split ▸ abreast.comesTo,
            isCollection_of_describeStep described⟩
    have whole : path.segments = (front ++ [.name label]) ++ .key key quoted :: rest' := by
      rw [← split, segments, names.split]
      simp
    have read := comes.get_upTo whole (by simp)
    rw [List.length_append] at read
    exact .inr ⟨front, label, ref, ⟨⟨key, quoted, rest', by simpa using whole⟩, names.reaches,
      names.names, _, middle, read, collection⟩, walked, sameType⟩

/-! ## Failures before the last segment and behind it -/

/-- Where the segments before the last are read, what cannot be planned names the whole path. -/
theorem property?_of_planPath (observes : accessor.Observes world) (has : world.Has root)
    (off : request.options.growNested = false) (toStart : world.EvolvesTo [] start)
    {parent : Parent} (walked : (accessor.parent root path).runOn world = (.ok parent, middle))
    (failed : (accessor.planPath request root path).runOn start = (.error error, after)) :
    error.property? = some path.text := by
  rcases exists_abreast request observes off has toStart path with
    ⟨_, _, _, _, fails⟩ | ⟨before, last, cursor, left, holder, right, wrap, segments, abreast⟩
  · obtain ⟨_, unread, -⟩ := fails.reads
    simp [walked] at unread
  · rw [abreast.planPath segments, Access.runOn_map] at failed
    rcases ended : (accessor.planStep request before last none holder cursor.declared
      cursor.owner).runOn right with ⟨(fault | plan), right'⟩
    · obtain ⟨rfl, rfl⟩ : fault = error ∧ right' = after := by
        simpa [ended, Except.map] using failed
      rw [property?_of_planStep off ended, PropertyPath.text, segments]
    · simp [ended, Except.map] at failed

variable {options : AccessOptions} {raw : Value}

/-- A write whose path is planned fails for the whole path, or where a list or a map is put back. -/
theorem property?_of_planned (observes : accessor.Observes world) (has : world.Has root)
    (off : options.growNested = false) {oldValue? : Option Value} {plan : Plan}
    (read : (accessor.oldValue options root path).runOn world = (.ok oldValue?, start))
    (toStart : world.EvolvesTo [] start)
    (planned : (accessor.planPath ⟨raw, options⟩ root path).runOn start = (.ok plan, right))
    (failed : (accessor.setWith options root path raw).runOn world = (.error error, after)) :
    error.property? = some path.text ∨
      ∃ front label ref info, accessor.EntersCollection world root path front label ref info ∧
        PutRefused (front ++ [.name label]) ref.type info error := by
  obtain ⟨before, last, cursor, left, holder, wrap, plan, descriptor, segments, abreast, ends, rfl,
    described⟩ := exists_ends_of_planPath observes has off toStart planned
  have walked : (wrap plan).walked = path.segments := by
    rw [(abreast.wrap_walked plan).1, ends.property_eq.2.2, segments]
  rw [runOn_setWith_of_plan read planned] at failed
  cases converted : convertTo accessor.converter raw (wrap plan).target with
  | error cause =>
    simp only [converted, Prod.mk.injEq, Except.error.injEq] at failed
    left
    rw [← failed.1, AccessError.property?, walked, PropertyPath.text]
  | ok value =>
    rcases carried : (putAll ((wrap plan).puts value)).runOn right with ⟨(fault | _), last'⟩
    · obtain rfl : fault = error := by
        simpa [converted, carried, Except.map] using congrArg Prod.fst failed
      obtain ⟨put, among, refused⟩ := putRefused_of_putAll carried
      rcases abreast.entersCollection_of_mem_puts segments described ends among with
        whole | ⟨front, label, ref, enters, walked, sameType⟩
      · left
        rw [refused.property?_eq, whole, PropertyPath.text]
      · exact .inr ⟨front, label, ref, put.info, enters, walked ▸ sameType ▸ refused⟩
    · simp [converted, carried, Except.map] at failed

/-- If a read fails before the last segment, a write without growth fails at the same segment and
for the same reason, and leaves all that was there. If the read comes to the last segment, what
fails in the write is the whole path or a property whose list or map is put back. -/
theorem set_navigates_as_get (observes : accessor.Observes world) (has : world.Has root)
    (off : options.growNested = false) :
    (∀ error seen, (accessor.parent root path).runOn world = (.error error, seen) →
      (accessor.get root path).runOn world = (.error error, seen) ∧
      ∃ count fault after, 0 < count ∧ count < path.length ∧
        AccessError.Alike (path.front count) error fault ∧
        (accessor.setWith options root path raw).runOn world = (.error fault, after) ∧
        world.EvolvesTo [] after) ∧
    ∀ parent seen, (accessor.parent root path).runOn world = (.ok parent, seen) →
      ∀ fault after, (accessor.setWith options root path raw).runOn world = (.error fault, after) →
        fault.property? = some path.text ∨
          ∃ front label ref info, accessor.EntersCollection world root path front label ref info ∧
            fault.property? = some (path.front (front.length + 1)) ∧
            PutRefused (front ++ [.name label]) ref.type info fault := by
  obtain ⟨oldValue?, start, read, toStart⟩ := runOn_oldValue observes has options path
  constructor
  · intro error seen failed
    refine ⟨Access.runOn_bind_of_error failed _, ?_⟩
    rcases exists_abreast ⟨raw, options⟩ observes off has toStart path with
      ⟨count, error', fault, after, fails⟩ | ⟨before, last, cursor, left, holder, right, wrap,
        segments, abreast⟩
    · obtain ⟨_, failed', -⟩ := fails.reads
      obtain rfl : error' = error := by simpa using (Prod.mk.inj (failed'.symm.trans failed)).1
      exact ⟨count, fault, after, fails.positive, fails.within, fails.alike,
        runOn_setWith_of_unplanned read fails.walks, fails.evolves⟩
    · simp [abreast.parent segments] at failed
  · intro parent seen walked fault after failed
    rcases planned : (accessor.planPath ⟨raw, options⟩ root path).runOn start with
      ⟨(error | plan), right⟩
    · rw [runOn_setWith_of_unplanned read planned] at failed
      obtain ⟨rfl, rfl⟩ : error = fault ∧ right = after := by simpa using failed
      exact .inl (property?_of_planPath observes has off toStart walked planned)
    · rcases property?_of_planned observes has off read toStart planned failed with
        whole | ⟨front, label, ref, info, enters, refused⟩
      · exact .inl whole
      · obtain ⟨key, quoted, rest, split⟩ := enters.split
        refine .inr ⟨front, label, ref, info, enters, ?_, refused⟩
        rw [refused.property?_eq, PropertyPath.front_of_split split]

end

open Household in
/-- The name of a pet that is not there is neither read nor written, for the same entry of the map.
The name of a friend is come to, and the write fails for the friends, which have no setter. -/
theorem set_name_navigates_as_get :
    let reader := accessor.reading person "friends"
    let missing : PropertyPath := ⟨.name "pets", [.key "tom" false, .name "name"]⟩
    let friend : PropertyPath := ⟨.name "friends", [.key "0" false, .name "name"]⟩
    reader.Observes (world []) ∧ (world []).Has eve ∧
    (∃ error seen, (reader.parent eve missing).runOn (world []) = (.error error, seen) ∧
      (reader.get eve missing).runOn (world []) = (.error error, seen) ∧
      ∃ count fault after, 0 < count ∧ count < missing.length ∧
        AccessError.Alike (missing.front count) error fault ∧
        (reader.setWith {} eve missing (.text "Tim")).runOn (world []) = (.error fault, after) ∧
        (world []).EvolvesTo [] after) ∧
    ∃ parent seen fault after,
      (reader.parent eve friend).runOn (world []) = (.ok parent, seen) ∧
      (reader.setWith {} eve friend (.text "Anna")).runOn (world []) = (.error fault, after) ∧
      ∃ front label ref info, reader.EntersCollection (world []) eve friend front label ref info ∧
        fault.property? = some (friend.front (front.length + 1)) ∧
        PutRefused (front ++ [.name label]) ref.type info fault := by
  intro reader missing friend
  have observes : reader.Observes (world []) := observes_household.reading person "friends"
  have off : ({} : AccessOptions).growNested = false := rfl
  obtain ⟨seen, unread⟩ : ∃ seen, (reader.parent eve missing).runOn (world []) =
      (.error (.nullValue "pets[tom]" person), seen) := ⟨_, rfl⟩
  obtain ⟨parent, seen', walked⟩ : ∃ parent seen,
      (reader.parent eve friend).runOn (world []) = (.ok parent, seen) := ⟨_, _, rfl⟩
  obtain ⟨after, refused⟩ : ∃ after,
      (reader.setWith {} eve friend (.text "Anna")).runOn (world []) =
        (.error (.notWritable "friends" person []), after) := ⟨_, rfl⟩
  have short : some "friends" ≠ some friend.text := by decide +kernel
  refine ⟨observes, has_eve [], ⟨_, seen, unread, ?_⟩, parent, seen', _, after, walked, refused, ?_⟩
  · exact (set_navigates_as_get observes (has_eve []) off).1 _ _ unread
  · exact ((set_navigates_as_get observes (has_eve []) off).2 _ _ walked _ _ refused).resolve_left
      short

end Accessor

end PropertyGraph
