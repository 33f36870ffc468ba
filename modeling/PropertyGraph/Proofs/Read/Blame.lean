import Mathlib.Data.List.Basic
import PropertyGraph.Proofs.Graph.Layout
import PropertyGraph.Proofs.Read.Trail
import PropertyGraph.Proofs.Value.Keys

/-!
# The front that a failed read blames

A read that fails names the first segments of its path. They should be the first ones that cannot
be read: each shorter front is read and gives a value, and the error tells of an absent value
exactly if the front itself is read and gives nothing. A step asks whether a value is absent as it
stands, but an optional inside an optional can be empty. So this holds exactly of the paths on which
no value hides its absence in an optional.
-/
namespace PropertyGraph

/-- Optionals are seen through to nothing exactly if the core is absent. -/
theorem Value.unwrapped_eq_null_iff {value : Value} :
    value.unwrapped = .null ↔ value.core.isAbsent = true := by
  rw [Value.unwrapped_eq_core]
  by_cases absent : value.core.isAbsent
  · simp [absent]
  · simp only [absent, Bool.false_eq_true, ↓reduceIte, iff_false]
    intro isNull
    simp [isNull, Value.isAbsent] at absent

/-- An absent value shows nothing. -/
theorem Value.unwrapped_of_isAbsent {value : Value} (absent : value.isAbsent = true) :
    value.unwrapped = .null := by
  cases value <;> simp_all [isAbsent, unwrapped, present?]

namespace Accessor

/-- The error of a failed read blames the first front of the path that gives no value. -/
structure BlamesFirst (accessor : Accessor) (world : World) (root : BeanRef) (path : PropertyPath)
    (error : AccessError) (count : Nat) : Prop where
  before : ∀ shorter, 0 < shorter → shorter < count → ∃ value after,
    (accessor.get root (path.upTo shorter)).runOn world = (.ok value, after) ∧ value ≠ .null
  absent_iff : (∃ property owner, error = .nullValue property owner) ↔
    count < path.length ∧
      ∃ after, (accessor.get root (path.upTo count)).runOn world = (.ok .null, after)

/-- No value on the way of a path is absent inside an optional. -/
def ShowsAbsence (accessor : Accessor) (world : World) (root : BeanRef) (path : PropertyPath) :
    Prop :=
  ∀ before later cursor after, path.segments = before ++ later → later ≠ [] →
    accessor.ComesTo world root before cursor after → cursor.value.core.isAbsent = true →
    cursor.value.isAbsent = true

section

variable {accessor : Accessor} {world after : World} {root : BeanRef} {path : PropertyPath}
  {before later : List Segment} {segment : Segment} {cursor : Cursor} {error : AccessError}

/-- Every failed read names a front of its path. -/
theorem exists_front_of_get
    (failed : (accessor.get root path).runOn world = (.error error, after)) :
    ∃ count, 0 < count ∧ count ≤ path.length ∧ error.property? = some (path.front count) := by
  obtain ⟨before, segment, later, split, stops⟩ := stopsAt_of_get failed
  refine ⟨before.length + 1, by omega, (PropertyPath.length_of_split split).1, ?_⟩
  rw [stops.property?_eq, PropertyPath.front_of_split split]

/-- The fronts before the segment that a read stops at are read, and none of them gives nothing. -/
theorem ShowsAbsence.get_upTo_ne_null (shows : accessor.ShowsAbsence world root path)
    (split : path.segments = before ++ segment :: later)
    (comes : accessor.ComesTo world root before cursor after)
    (present : cursor.value.isAbsent = false) {shorter : Nat} (positive : 0 < shorter)
    (within : shorter ≤ before.length) :
    ∃ value after, (accessor.get root (path.upTo shorter)).runOn world = (.ok value, after) ∧
      value ≠ .null := by
  have cut : before = before.take shorter ++ before.drop shorter :=
    (List.take_append_drop shorter before).symm
  have split' : path.segments =
      before.take shorter ++ (before.drop shorter ++ segment :: later) := by
    rw [split, ← List.append_assoc, ← cut]
  obtain ⟨between, middle, comes', presentBetween⟩ := comes.of_append cut
  have nonempty : before.take shorter ≠ [] := by
    intro empty
    have counted := congrArg List.length empty
    simp only [List.length_take, List.length_nil] at counted
    omega
  have read := comes'.get_upTo split' nonempty
  rw [List.length_take, Nat.min_eq_left within] at read
  refine ⟨_, _, read, fun isNull => ?_⟩
  have absent := shows _ _ between middle split' (by simp) comes'
    (Value.unwrapped_eq_null_iff.1 isNull)
  cases rest : before.drop shorter with
  | nil =>
    rw [rest, List.append_nil] at cut
    obtain ⟨rfl, -⟩ := comes'.unique (cut ▸ comes)
    simp [present] at absent
  | cons next rest' => simp [presentBetween (by simp [rest])] at absent

/-- Where no value hides its absence, a read that stops blames the segments up to there. -/
theorem StopsAt.blamesFirst (shows : accessor.ShowsAbsence world root path)
    (split : path.segments = before ++ segment :: later)
    (stops : accessor.StopsAt world root before segment later error after) :
    accessor.BlamesFirst world root path error (before.length + 1) := by
  have whole : path.segments = (before ++ [segment]) ++ later := by simp [split]
  cases stops with
  | refused cursor middle _ _ comes present refused =>
    refine ⟨fun shorter positive within => ?_, ?_, ?_⟩
    · exact shows.get_upTo_ne_null split comes present positive (Nat.le_of_lt_succ within)
    · rintro ⟨property, owner, rfl⟩
      exact absurd rfl ((property?_of_step refused).2 property owner)
    · rintro ⟨-, seen, read⟩
      obtain ⟨next, comes', -⟩ := exists_comesTo_of_get_upTo (by omega) read
      rw [whole, List.take_left' (by simp)] at comes'
      obtain ⟨cursor', middle', comes', -, stepped⟩ := comes'.of_concat
      obtain ⟨rfl, rfl⟩ := comes.unique comes'
      simp [refused] at stepped
  | absent cursor next middle _ comes present stepped absent more =>
    have further := ComesTo.step before segment cursor next middle after comes present stepped
    have isNull := Value.unwrapped_of_isAbsent absent
    refine ⟨fun shorter positive within => ?_, fun _ => ?_, fun _ => ⟨_, _, rfl⟩⟩
    · exact shows.get_upTo_ne_null split comes present positive (Nat.le_of_lt_succ within)
    · have read := further.get_upTo whole (by simp)
      rw [isNull, List.length_append] at read
      exact ⟨(PropertyPath.length_of_split split).2.2 more, after, read⟩

variable (accessor world root path) in
/-- Failed reads of a path blame the first front that gives no value exactly if no value on the way
hides its absence in an optional. -/
theorem get_blames_first_iff :
    (∀ error seen count, 0 < count → count ≤ path.length →
      (accessor.get root path).runOn world = (.error error, seen) →
      error.property? = some (path.front count) →
      accessor.BlamesFirst world root path error count) ↔
    accessor.ShowsAbsence world root path := by
  constructor
  · intro blames before later cursor after split more comes absent
    by_contra hidden
    have present : cursor.value.isAbsent = false := by simpa using hidden
    obtain ⟨segment, later, rfl⟩ := List.exists_cons_of_ne_nil more
    have isNull := Value.unwrapped_eq_null_iff.2 absent
    have refused : (accessor.step cursor before segment).runOn after =
        (.error (unsupported (before ++ [segment]) cursor.owner .null segment), after) := by
      simp [step, isNull]
    have stops : accessor.StopsAt world root before segment later _ after :=
      .refused cursor after _ after comes present refused
    have nonempty : before ≠ [] := by
      rintro rfl
      obtain ⟨rfl, -⟩ := comes.unique .root
      simp [Cursor.root, Value.core, Value.isAbsent] at absent
    have named : _ = some (path.front (before.length + 1)) :=
      PropertyPath.front_of_split split ▸ stops.property?_eq
    have blamed := blames _ after (before.length + 1) (by omega)
      (PropertyPath.length_of_split split).1 (stops.get split) named
    obtain ⟨value, _, read, isSome⟩ :=
      blamed.before before.length (List.length_pos_of_ne_nil nonempty) (by omega)
    rw [comes.get_upTo split nonempty, isNull] at read
    simp_all
  · intro shows error seen count positive within failed named
    obtain ⟨before, segment, later, split, stops⟩ := stopsAt_of_get failed
    have named' : error.property? = some (path.front (before.length + 1)) :=
      PropertyPath.front_of_split split ▸ stops.property?_eq
    obtain rfl : count = before.length + 1 :=
      PropertyPath.front_injective positive within (by omega)
        (PropertyPath.length_of_split split).1 (by simpa [named] using named')
    exact stops.blamesFirst shows split

end

end Accessor

/-! ## An empty optional in an optional -/

namespace Parcel

/-- The type of parcels. -/
def parcel : TypeRef := { path := "post::Parcel" }

/-- What is inside a parcel may be unknown, and it may be known to be nothing. -/
def layout : Layout where
  classes := [(parcel, [("inside", .option (.option (.bean parcel)))])]

/-- Accesses to parcels. -/
def accessor : Accessor where
  registry := layout.registry

/-- A parcel. -/
def box : BeanRef := ⟨0, parcel⟩

/-- The parcel is known to be empty. -/
def world : World where
  beans := #[⟨parcel, [("inside", ⟨.option (.option (.bean parcel)), some none⟩)]⟩]

/-- The parcel fits its layout. -/
theorem fits_world : layout.schema.Fits world := by
  refine Layout.fits_of_fills fun bean among => ?_
  obtain rfl : bean = ⟨parcel, [("inside", ⟨.option (.option (.bean parcel)), some none⟩)]⟩ := by
    simpa [world] using among
  refine ⟨by decide, fun entry listed => ?_⟩
  obtain rfl : entry = ("inside", .option (.option (.bean parcel))) := List.mem_singleton.1 listed
  exact ⟨some none, rfl, .optSome _ (.atomic _ rfl)⟩

/-- What is inside the parcel reads as nothing, but reading further blames the second segment, and
not for a value that is absent. -/
theorem get_inside_blames_second :
    let path : PropertyPath := ⟨.name "inside", [.name "inside"]⟩
    accessor.registry.Derived layout.schema ∧ layout.schema.Fits world ∧ world.Has box ∧
      PropertyPath.parse "inside.inside" = .ok path ∧
      (accessor.get box (path.upTo 1)).runOn world = (.ok .null, world) ∧
      ∃ error seen, (accessor.get box path).runOn world = (.error error, seen) ∧
        error.property? = some (path.front 2) ∧
        ¬ accessor.BlamesFirst world box path error 2 := by
  intro path
  have isParsed : PropertyPath.parse "inside.inside" = .ok path := by decide +kernel
  have first : (accessor.get box (path.upTo 1)).runOn world = (.ok .null, world) := rfl
  refine ⟨layout.registry_derived, fits_world, ⟨_, rfl, rfl⟩, isParsed, first,
    .invalidProperty "inside.inside" parcel (.noNamedProperty .null), world, rfl,
    by decide +kernel, fun blames => ?_⟩
  obtain ⟨value, after, read, isSome⟩ := blames.before 1 (by decide) (by decide)
  simp_all

end Parcel

end PropertyGraph
