import Mathlib.Data.List.Forall2
import PropertyGraph.Proofs.Graph.Layout
import PropertyGraph.Proofs.Read.Trail
import PropertyGraph.Proofs.Write.Alike

/-!
# Aliases are transparent

A property that has several names is the same property by each of them. Where a path has a name that
is resolved on a bean, any other name of that property on the type of the bean may stand in its
place: the path is read, described and written as before, and only errors tell of it differently,
by the name and by the names that they suggest. On type handles a name is more than the property
that it finds, since the policy is asked about the name; there names are not exchanged.

Which bean a name is resolved on depends on the way there, and this may be another one for a read
than for a write, which makes what is absent. `ReadAt` and `WrittenAt` tell of the two ways.
-/
namespace PropertyGraph

/-- Names stand for each other, whatever they are. -/
def Likeness.aliases : Likeness where
  texts _ _ := True
  hints _ _ := True
  segments := Segment.Twin
  rows _ _ := True
  told _ := trivial
  onward _ _ := trivial
  twins twin := twin
  hinted _ _ _ := trivial
  unhinted := trivial

namespace Accessor

open Access (Alike)

/-- The names are one, or they are names of one property of a type other than that of type
handles. -/
def NamesAlike (accessor : Accessor) (owner : TypeRef) (label label' : String) : Prop :=
  label = label' ∨ owner ≠ TypeHandle.type ∧ ∃ info,
    accessor.registry.describe? owner label = some info ∧
      accessor.registry.describe? owner label' = some info

/-- A write goes down a row of segments from a root, and comes to a stage and a world. -/
inductive DescendsTo (accessor : Accessor) (request : WriteRequest) (world : World)
    (root : BeanRef) : List Segment → Stage → World → Prop
  | root : DescendsTo accessor request world root [] (.root root) world
  | step (before : List Segment) (segment : Segment) (stage next : Stage) (middle after : World) :
    DescendsTo accessor request world root before stage middle →
    (accessor.advance request before segment stage).runOn middle = (.ok next, after) →
    DescendsTo accessor request world root (before ++ [segment]) next after

/-- At first, a write is at the root. -/
theorem DescendsTo.eq_root {accessor : Accessor} {request : WriteRequest} {world after : World}
    {root : BeanRef} {stage : Stage}
    (descends : accessor.DescendsTo request world root [] stage after) : stage = .root root := by
  generalize none : ([] : List Segment) = segments at descends
  cases descends with
  | root => rfl
  | step => simp at none

/-- Behind a row of segments, a read has come to a bean. -/
def ReadAt (accessor : Accessor) (world : World) (root : BeanRef) (before : List Segment)
    (ref : BeanRef) : Prop :=
  ∃ cursor middle, accessor.ComesTo world root before cursor middle ∧
    cursor.value.unwrapped = .bean ref

/-- Behind a row of segments, a write has come to a bean. -/
def WrittenAt (accessor : Accessor) (request : WriteRequest) (world : World) (root : BeanRef)
    (before : List Segment) (ref : BeanRef) : Prop :=
  ∃ stage middle, accessor.DescendsTo request world root before stage middle ∧
    stage.value.core = .bean ref

/-- The paths have the same keys at the same places, and at the other places names, which stand for
each other on the bean on which the first of them is resolved. -/
structure Exchanged (accessor : Accessor) (resolvedOn : List Segment → BeanRef → Prop)
    (path path' : PropertyPath) : Prop where
  twins : List.Forall₂ Segment.Twin path.segments path'.segments
  names : ∀ before label later before' label' later' ref,
    path.segments = before ++ .name label :: later →
    path'.segments = before' ++ .name label' :: later' → before.length = before'.length →
    resolvedOn before ref → accessor.NamesAlike ref.type label label'

section

variable {accessor : Accessor} {request : WriteRequest} {world : World} {root : BeanRef}
  {path path' : PropertyPath}

/-- Names of one property are one capability. -/
theorem NamesAlike.capability? {owner : TypeRef} {label label' : String}
    (names : accessor.NamesAlike owner label label') :
    accessor.capability? owner label = accessor.capability? owner label' := by
  rcases names with rfl | ⟨isPlain, info, described, described'⟩
  · rfl
  · simp [Accessor.capability?, isPlain, described, described']

/-- One name may be exchanged if the other one is a name of the same property where it is
resolved. -/
theorem exchanged_of_name {resolvedOn : List Segment → BeanRef → Prop} (front : List Segment)
    {later : List Segment} {label label' : String}
    (split : path.segments = front ++ .name label :: later)
    (split' : path'.segments = front ++ .name label' :: later)
    (names : ∀ ref, resolvedOn front ref → accessor.NamesAlike ref.type label label') :
    accessor.Exchanged resolvedOn path path' where
  twins := by
    have same (segments : List Segment) : List.Forall₂ Segment.Twin segments segments :=
      List.forall₂_same.2 fun segment _ => .refl segment
    rw [split, split']
    exact List.rel_append (same front) (.cons (.name label label') (same later))
  names := by
    intro before first rest before' first' rest' ref whole whole' length resolved
    by_cases place : before.length = front.length
    · obtain ⟨rfl, tail⟩ := List.append_inj (whole.symm.trans split) place
      obtain ⟨-, tail'⟩ := List.append_inj (whole'.symm.trans split') length.symm
      rw [Segment.name.inj (List.cons.inj tail).1, Segment.name.inj (List.cons.inj tail').1]
      exact names ref resolved
    · have here : path.segments[before.length]? = some (.name first) := by simp [whole]
      have there : path'.segments[before.length]? = some (.name first') := by simp [whole', length]
      have same : path.segments[before.length]? = path'.segments[before.length]? := by
        rw [split, split']
        rcases Nat.lt_or_gt_of_ne place with inFront | behind
        · rw [List.getElem?_append_left inFront, List.getElem?_append_left inFront]
        · have notBefore : front.length ≤ before.length := Nat.le_of_lt behind
          obtain ⟨count, place⟩ : ∃ count, before.length - front.length = count + 1 :=
            ⟨before.length - front.length - 1, by omega⟩
          rw [List.getElem?_append_right notBefore, List.getElem?_append_right notBefore, place,
            List.getElem?_cons_succ, List.getElem?_cons_succ]
      rw [here, there] at same
      exact .inl (Segment.name.inj (Option.some.inj same))

/-- Names that stand for each other where they are resolved are the same there. -/
theorem Exchanged.sameOn {resolvedOn : List Segment → BeanRef → Prop}
    (exchanged : accessor.Exchanged resolvedOn path path')
    {before before' later later' : List Segment} {segment segment' : Segment}
    (split : path.segments = before ++ segment :: later)
    (split' : path'.segments = before' ++ segment' :: later')
    (length : before.length = before'.length) {value : Value}
    (resolved : ∀ ref, value.core = .bean ref → resolvedOn before ref) :
    accessor.SameOn value segment segment' := by
  rintro ref label label' core rfl rfl
  have names := exchanged.names before label later before' label' later' ref split split' length
  exact (names (resolved ref core)).capability?

/-- Paths with names exchanged where a read resolves them are read in step. -/
theorem Exchanged.readsTwins
    (exchanged : accessor.Exchanged (accessor.ReadAt world root) path path')
    (later : List Segment) :
    ∀ (later' before before' : List Segment) (segment segment' : Segment) (cursor : Cursor)
      (middle : World), path.segments = before ++ segment :: later →
      path'.segments = before' ++ segment' :: later' → before.length = before'.length →
      List.Forall₂ Segment.Twin (segment :: later) (segment' :: later') →
      accessor.ComesTo world root before cursor middle → cursor.value.isAbsent = false →
      accessor.ReadsTwins .aliases middle cursor before segment later segment' later' := by
  induction later with
  | nil =>
    intro later' before before' segment segment' cursor middle split split' length twins comes _
    obtain ⟨twin, rest⟩ := List.forall₂_cons.1 twins
    cases rest
    exact .last twin (exchanged.sameOn split split' length fun ref core =>
      ⟨cursor, middle, comes, Value.unwrapped_eq_bean_iff.2 core⟩)
  | cons next later ih =>
    intro later' before before' segment segment' cursor middle split split' length twins comes
      present
    obtain ⟨twin, rest⟩ := List.forall₂_cons.1 twins
    obtain _ | ⟨nextTwin, further⟩ := rest
    refine .step twin (exchanged.sameOn split split' length fun ref core =>
      ⟨cursor, middle, comes, Value.unwrapped_eq_bean_iff.2 core⟩)
      fun cursor' after stepped found => ?_
    exact ih _ (before ++ [segment]) (before' ++ [segment']) next _ cursor' after (by simp [split])
      (by simp [split']) (by simp [length]) (.cons nextTwin further)
      (.step before segment cursor cursor' middle after comes present stepped) found

/-- Paths with names exchanged where a write resolves them are written in step. -/
theorem Exchanged.writesTwins
    (exchanged : accessor.Exchanged (accessor.WrittenAt request world root) path path')
    (later : List Segment) :
    ∀ (later' before before' : List Segment) (segment segment' : Segment) (stage : Stage)
      (middle : World), path.segments = before ++ segment :: later →
      path'.segments = before' ++ segment' :: later' → before.length = before'.length →
      List.Forall₂ Segment.Twin (segment :: later) (segment' :: later') →
      accessor.DescendsTo request world root before stage middle →
      accessor.WritesTwins .aliases request middle stage before segment later segment' later' := by
  induction later with
  | nil =>
    intro later' before before' segment segment' stage middle split split' length twins descends
    obtain ⟨twin, rest⟩ := List.forall₂_cons.1 twins
    cases rest
    exact .last twin (exchanged.sameOn split split' length fun ref core =>
      ⟨stage, middle, descends, core⟩)
  | cons next later ih =>
    intro later' before before' segment segment' stage middle split split' length twins descends
    obtain ⟨twin, rest⟩ := List.forall₂_cons.1 twins
    obtain _ | ⟨nextTwin, further⟩ := rest
    refine .step twin (exchanged.sameOn split split' length fun ref core =>
      ⟨stage, middle, descends, core⟩) fun stage' after advanced => ?_
    exact ih _ (before ++ [segment]) (before' ++ [segment']) next _ stage' after (by simp [split])
      (by simp [split']) (by simp [length]) (.cons nextTwin further)
      (.step before segment stage stage' middle after descends advanced)

/-- Aliases are transparent. Where names of a path are exchanged for other names of the properties
that a read finds under them, the path is read and described alike. Where this holds for the write
and, if the old value is asked for, for the read before it, the path is set alike, with whatever raw
value and options. -/
theorem access_exchanged (alike : accessor.ConstructsAlike) (world : World) (root : BeanRef)
    (path path' : PropertyPath) :
    (accessor.Exchanged (accessor.ReadAt world root) path path' →
      RunsAlike .aliases Eq ((accessor.get root path).runOn world)
          ((accessor.get root path').runOn world) ∧
        RunsAlike .aliases (DescribesAlike .aliases) ((accessor.describe root path).runOn world)
          ((accessor.describe root path').runOn world)) ∧
    ∀ options raw,
      (options.extractOldValue = true →
        accessor.Exchanged (accessor.ReadAt world root) path path') →
      (∀ oldValue? start,
        (accessor.oldValue options root path).runOn world = (.ok oldValue?, start) →
        accessor.Exchanged (accessor.WrittenAt ⟨raw, options⟩ start root) path path') →
      RunsAlike .aliases (ChangesAlike .aliases)
        ((accessor.setWith options root path raw).runOn world)
        ((accessor.setWith options root path' raw).runOn world) := by
  have readInStep (exchanged : accessor.Exchanged (accessor.ReadAt world root) path path') :
      accessor.ReadsTwins .aliases world (.root root) [] path.first path.later path'.first
        path'.later :=
    exchanged.readsTwins path.later path'.later [] [] path.first path'.first _ _ rfl rfl rfl
      exchanged.twins .root rfl
  refine ⟨fun exchanged => ?_, fun options raw reads writes => ?_⟩
  · have twins := readInStep exchanged
    have rows : Likeness.aliases.rows ([] ++ [path.first]) ([] ++ [path'.first]) := trivial
    exact ⟨twins.readFrom rows (.refl world), twins.describe rows (.refl world)⟩
  · refine setWith_alike alike options raw trivial trivial (.refl world)
      (fun extracts => readInStep (reads extracts)) fun oldValue? start began => ?_
    have exchanged := writes oldValue? start began
    exact exchanged.writesTwins path.later path'.later [] [] path.first path'.first _ _ rfl rfl rfl
      exchanged.twins .root

end

end Accessor

namespace Household

open Accessor

/-- The household in which friends are called pals as well. Pets have no friends, and nothing stands
behind the name on them. -/
def withPals : Accessor where
  registry := {
    tables := TypeHandle.typeMeta :: layout.classes.map fun (owner, fields) =>
      (Layout.table owner fields).insertAlias "pals" "friends" }

/-- Making persons and pets does not depend on records. -/
theorem constructsAlike_withPals : withPals.ConstructsAlike := by
  refine constructsAlike_of_tables fun table among make isMade left right same => ?_
  rcases List.mem_cons.1 among with rfl | among
  · cases isMade
  · obtain ⟨⟨owner, fields⟩, -, rfl⟩ := List.mem_map.1 among
    have made : Layout.make? owner fields = some make := isMade
    unfold Layout.make? at made
    split at made
    · obtain rfl := Option.some.inj made
      exact same.add _
    · cases made

/-- A new friend may be named as a new pal. -/
theorem setWith_pals :
    let path : PropertyPath := ⟨.name "friends", [.key "1" false, .name "name"]⟩
    let path' : PropertyPath := ⟨.name "pals", [.key "1" false, .name "name"]⟩
    let options : AccessOptions := { growNested := true, extractOldValue := true }
    let named := (withPals.setWith options eve path (.text "Ida")).runOn (world [])
    named.1 = .ok ⟨"friends[1].name", none, .text "Ida"⟩ ∧
      RunsAlike .aliases Eq ((withPals.get eve path).runOn (world []))
        ((withPals.get eve path').runOn (world [])) ∧
      RunsAlike .aliases (ChangesAlike .aliases) named
        ((withPals.setWith options eve path' (.text "Ida")).runOn (world [])) := by
  intro path path' options named
  have names : withPals.NamesAlike eve.type "friends" "pals" :=
    .inr ⟨person_ne_handle, _, rfl, rfl⟩
  have reads : withPals.Exchanged (withPals.ReadAt (world []) eve) path path' :=
    exchanged_of_name [] rfl rfl fun ref ⟨cursor, middle, comes, isBean⟩ => by
      obtain ⟨rfl, -⟩ := comes.unique .root
      exact Value.bean.inj isBean ▸ names
  have writes (start : World) :
      withPals.Exchanged (withPals.WrittenAt ⟨.text "Ida", options⟩ start eve) path path' :=
    exchanged_of_name [] rfl rfl fun ref ⟨stage, middle, descends, core⟩ => by
      obtain rfl := descends.eq_root
      exact Value.bean.inj core ▸ names
  obtain ⟨readAlike, setAlike⟩ :=
    access_exchanged constructsAlike_withPals (world []) eve path path'
  exact ⟨rfl, (readAlike reads).1,
    setAlike options (.text "Ida") (fun _ => reads) fun _ start _ => writes start⟩

end Household

end PropertyGraph
