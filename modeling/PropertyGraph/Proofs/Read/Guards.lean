import Mathlib.Data.Nat.Find
import PropertyGraph.Proofs.Access.Fields
import PropertyGraph.Proofs.Access.Guards
import PropertyGraph.Proofs.Read.Trail

/-!
# Reads under guards

A read meets the guards of callers where it invokes a getter, and nowhere else. Up to the first
bean that it finds under an exclusive guard it goes on just as it does without any guards, and there
it stops; if it finds none, it gives what it gives without guards, and leaves the same beans.
-/
namespace PropertyGraph

/-- On the world, the access is the same under the guards as without any. -/
def Access.PassesUnder {α : Type} (guards : List Guard) (access : Access α) (world : World) :
    Prop :=
  access.runOn (world.withGuards guards) =
    ((access.runOn world).1, (access.runOn world).2.withGuards guards)

namespace Access.PassesUnder

variable {α β : Type} {guards : List Guard} {world : World}

/-- A value is given under any guards. -/
theorem pure (value : α) : PassesUnder guards (pure value) world :=
  rfl

/-- A failure at once is the same under any guards. -/
theorem throw (error : AccessError) : PassesUnder guards (throw error : Access α) world :=
  rfl

/-- A sequence of parts that pass under the guards passes under them. -/
theorem bind {first : Access α} {next : α → Access β} (passes : PassesUnder guards first world)
    (further : ∀ value middle, first.runOn world = (.ok value, middle) →
      PassesUnder guards (next value) middle) :
    PassesUnder guards (first >>= next) world := by
  unfold PassesUnder at passes ⊢
  rw [runOn_bind, runOn_bind, passes]
  rcases run : first.runOn world with ⟨(error | value), middle⟩
  · rfl
  · exact further value middle run

/-- Where there are no guards, an access that is the same without any leaves none. -/
theorem guards_eq_nil {access : Access α} (passes : PassesUnder [] access world)
    (none : world.guards = []) : (access.runOn world).2.guards = [] := by
  have same : world.withGuards [] = world := by rw [World.withGuards, ← none]
  rw [PassesUnder, same] at passes
  rw [passes]
  rfl

/-- A getter runs under guards that do not exclude it. -/
theorem read (walked : List Segment) (ref : BeanRef) (info : PropertyInfo)
    (none : world.guards = [])
    (unheld : (world.withGuards guards).isHeldExclusively ref = false) :
    PassesUnder guards (Access.invoke walked ref (·.read ref info)) world := by
  have free : world.isHeldExclusively ref = false := by simp [World.isHeldExclusively, none]
  rw [PassesUnder, runOn_invoke, runOn_invoke, World.read, World.read, unheld, free]
  rfl

end Access.PassesUnder

namespace Accessor

open Access (PassesUnder)

/-! ## Meeting a guard -/

/-- Reading the segment from the value under the cursor invokes a getter on the bean. -/
def InvokesOn (accessor : Accessor) (cursor : Cursor) (segment : Segment) (ref : BeanRef) : Prop :=
  cursor.value.unwrapped = .bean ref ∧ ∃ label info, segment = .name label ∧
    accessor.capability? ref.type label = some (.property info) ∧ info.isReadable = true

/-- Reading comes to the segment behind the row and invokes a getter on the bean there. -/
def Invokes (accessor : Accessor) (world : World) (root : BeanRef) (before : List Segment)
    (segment : Segment) (ref : BeanRef) : Prop :=
  ∃ cursor middle, accessor.ComesTo world root before cursor middle ∧
    cursor.value.isAbsent = false ∧ accessor.InvokesOn cursor segment ref

/-- Without the guards of the world, reading the path invokes a getter on the bean at the segment
behind the row; and one of the guards is an exclusive one on that bean. -/
structure MeetsGuard (accessor : Accessor) (world : World) (root : BeanRef) (path : PropertyPath)
    (before : List Segment) (segment : Segment) (ref : BeanRef) : Prop where
  onPath : ∃ later, path.segments = before ++ segment :: later
  invokes : accessor.Invokes (world.withGuards []) root before segment ref
  held : world.isHeldExclusively ref = true

section

variable {accessor : Accessor} {world middle after : World} {root ref : BeanRef}
  {before later segments : List Segment} {segment : Segment} {cursor next : Cursor}
  {error : AccessError} {path : PropertyPath} {guards : List Guard}

/-- A getter is refused on a bean that is under an exclusive guard. -/
theorem InvokesOn.runOn_step (invokes : accessor.InvokesOn cursor segment ref)
    (before : List Segment) (held : middle.isHeldExclusively ref = true) :
    (accessor.step cursor before segment).runOn middle =
      (.error (.invocationFailed (Segment.render (before ++ [segment])) ref.type
        (.borrowed ref.type.path)), middle) := by
  obtain ⟨isBean, label, info, rfl, names, readable⟩ := invokes
  simp only [step, isBean, readName, names, readable, ↓reduceIte]
  refine Access.runOn_bind_of_error ?_ _
  rw [Access.runOn_invoke, World.read, held]
  rfl

/-- A step passes guards if it invokes no getter on a bean under an exclusive one. -/
theorem step_passesUnder (cursor : Cursor) (before : List Segment) (segment : Segment)
    (none : middle.guards = [])
    (unheld : ∀ ref, accessor.InvokesOn cursor segment ref →
      (middle.withGuards guards).isHeldExclusively ref = false) :
    PassesUnder guards (accessor.step cursor before segment) middle := by
  unfold step
  dsimp only
  split
  · next ref label isBean =>
    unfold readName
    split
    · next info names =>
      split
      · next readable =>
        have free := unheld ref ⟨isBean, label, info, rfl, names, readable⟩
        exact .bind (.read _ ref info none free) fun _ _ _ => .pure _
      · exact .throw _
    · exact .bind rfl fun _ _ _ => .pure _
    · exact .throw _
  · refine .bind ?_ fun _ _ _ => ?_
    · unfold listIndex
      split
      · exact .pure _
      · exact .throw _
    · split
      · exact .pure _
      · exact .throw _
  · exact .pure _
  · exact .throw _

/-- No getter on the way of a row of segments is invoked on a bean under an exclusive guard. -/
def Unmet (accessor : Accessor) (world : World) (root : BeanRef) (guards : List Guard)
    (segments : List Segment) : Prop :=
  ∀ before segment later ref, segments = before ++ segment :: later →
    accessor.Invokes world root before segment ref →
    (world.withGuards guards).isHeldExclusively ref = false

/-- What is not met on the way of a row is not met on the way to a segment of it. -/
theorem Unmet.of_append (unmet : accessor.Unmet world root guards (before ++ later)) :
    accessor.Unmet world root guards before :=
  fun front segment rest ref split =>
    unmet front segment (rest ++ later) ref (by rw [split, List.append_assoc, List.cons_append])

/-- A step to a segment of a row passes guards that are not met on the way of the row. -/
theorem Unmet.passesUnder (unmet : accessor.Unmet world root guards (before ++ segment :: later))
    (comes : accessor.ComesTo world root before cursor middle)
    (present : cursor.value.isAbsent = false) (none : middle.guards = []) :
    PassesUnder guards (accessor.step cursor before segment) middle :=
  step_passesUnder cursor before segment none fun ref invokes =>
    unmet before segment later ref rfl ⟨cursor, middle, comes, present, invokes⟩

/-- A row of segments comes to the same under guards that are not met on its way. By induction on
the row; no step leaves a guard behind, so that the next one starts as the first did. -/
theorem ComesTo.withGuards (comes : accessor.ComesTo world root segments cursor middle)
    (none : world.guards = []) (unmet : accessor.Unmet world root guards segments) :
    middle.guards = [] ∧
      accessor.ComesTo (world.withGuards guards) root segments cursor
        (middle.withGuards guards) := by
  induction comes with
  | root => exact ⟨none, .root⟩
  | step before segment cursor next middle after comes present stepped ih =>
    obtain ⟨noneYet, comesUnder⟩ := ih unmet.of_append
    have left : ((accessor.step cursor before segment).runOn middle).2.guards = [] :=
      (step_passesUnder cursor before segment noneYet fun _ _ => rfl).guards_eq_nil noneYet
    have passes := unmet.passesUnder comes present noneYet
    rw [stepped] at left
    refine ⟨left, .step before segment cursor next _ _ comesUnder present ?_⟩
    rw [passes, stepped]

/-- A read stops in the same way under guards that are not met on its way. -/
theorem StopsAt.withGuards (stops : accessor.StopsAt world root before segment later error after)
    (none : world.guards = [])
    (unmet : accessor.Unmet world root guards (before ++ segment :: later)) :
    accessor.StopsAt (world.withGuards guards) root before segment later error
      (after.withGuards guards) := by
  cases stops with
  | refused cursor middle _ _ comes present refused =>
    obtain ⟨noneYet, comesUnder⟩ := comes.withGuards none unmet.of_append
    have passes := unmet.passesUnder comes present noneYet
    exact .refused cursor _ error _ comesUnder present (by rw [passes, refused])
  | absent cursor next middle _ comes present stepped absent more =>
    obtain ⟨noneYet, comesUnder⟩ := comes.withGuards none unmet.of_append
    have passes := unmet.passesUnder comes present noneYet
    exact .absent cursor next _ _ comesUnder present (by rw [passes, stepped]) absent more

/-! ## Reads of a path -/

/-- A path on which no guard is met is read just as without guards. -/
theorem get_passesUnder
    (unmet : ∀ before segment ref, ¬ accessor.MeetsGuard world root path before segment ref) :
    PassesUnder world.guards (accessor.get root path) (world.withGuards []) := by
  have unheld : accessor.Unmet (world.withGuards []) root world.guards path.segments := by
    intro before segment later ref split invokes
    exact Bool.eq_false_iff.2 fun held => unmet before segment ref ⟨⟨later, split⟩, invokes, held⟩
  unfold PassesUnder
  rcases run : (accessor.get root path).runOn (world.withGuards []) with ⟨(error | value), after⟩
  · obtain ⟨before, segment, later, split, stops⟩ := stopsAt_of_get run
    exact (stops.withGuards rfl (split ▸ unheld)).get split
  · obtain ⟨cursor, comes, rfl⟩ := get_eq_ok_iff.1 run
    exact get_eq_ok_iff.2 ⟨cursor, (comes.withGuards rfl unheld).2, rfl⟩

/-- Where reading a path meets a guard first, it fails. -/
theorem get_of_meetsGuard (meets : accessor.MeetsGuard world root path before segment ref)
    (first : ∀ front label other, accessor.MeetsGuard world root path front label other →
      before.length ≤ front.length) :
    ((accessor.get root path).runOn world).1 =
      .error (.invocationFailed (Segment.render (before ++ [segment])) ref.type
        (.borrowed ref.type.path)) := by
  obtain ⟨⟨later, split⟩, ⟨cursor, middle, comes, present, invokes⟩, held⟩ := meets
  have unmet : accessor.Unmet (world.withGuards []) root world.guards before := by
    intro front label rest other shorter invokes
    refine Bool.eq_false_iff.2 fun held => ?_
    have late := first front label other
      ⟨⟨rest ++ segment :: later, by rw [split, shorter, List.append_assoc, List.cons_append]⟩,
        invokes, held⟩
    rw [shorter, List.length_append, List.length_cons] at late
    omega
  have comesUnder := (comes.withGuards rfl unmet).2
  have stops : accessor.StopsAt world root before segment later _ _ :=
    .refused cursor _ _ _ comesUnder present (invokes.runOn_step before held)
  rw [show (accessor.get root path).runOn world = _ from stops.get split]

/-- Guards that are met on a path are met somewhere first. -/
theorem exists_first_meetsGuard
    (met : ∃ before segment ref, accessor.MeetsGuard world root path before segment ref) :
    ∃ before segment ref, accessor.MeetsGuard world root path before segment ref ∧
      ∀ front label other, accessor.MeetsGuard world root path front label other →
        before.length ≤ front.length := by
  classical
  obtain ⟨before, segment, ref, meets⟩ := met
  have lengths : ∃ length before segment ref, before.length = length ∧
      accessor.MeetsGuard world root path before segment ref :=
    ⟨_, before, segment, ref, rfl, meets⟩
  obtain ⟨front, label, other, shortest, meetsFirst⟩ := Nat.find_spec lengths
  refine ⟨front, label, other, meetsFirst, fun before segment ref meets => ?_⟩
  rw [shortest]
  exact Nat.find_min' lengths ⟨before, segment, ref, rfl, meets⟩

end

/-! ## No guard is left -/

section

open Access (HoldsNoGuard)

variable {accessor : Accessor} (walked before : List Segment) (segment : Segment)

/-- Making a type handle holds no guard. -/
theorem holdsNoGuard_handleCursor (owner : TypeRef) : HoldsNoGuard (handleCursor owner) :=
  .bind (.ofWorld fun _ => rfl) fun _ => .pure _

/-- Reading an index holds no guard. -/
theorem holdsNoGuard_listIndex (owner : TypeRef) (key : String) :
    HoldsNoGuard (listIndex walked owner key) := by
  unfold listIndex
  split
  · exact .pure _
  · exact .throw rfl

/-- Reading a path holds no guard. -/
theorem holdsNoGuard_parsePath (text : String) : HoldsNoGuard (parsePath text) := by
  refine .mk_pure fun error failed => ?_
  cases parsed : PropertyPath.parse text with
  | ok path => simp [parsed] at failed
  | error cause =>
    obtain rfl : _ = error := by simpa [parsed] using failed
    rfl

variable (direct : accessor.registry.IsDirect)

include direct

/-- The properties of names are those of the registry. -/
theorem isDirect_of_capability? {owner : TypeRef} {label : String} {info : PropertyInfo}
    (names : accessor.capability? owner label = some (.property info)) : info.IsDirect :=
  direct.info owner label info (describe?_of_capability? names)

/-- Reading a name of a bean holds no guard. -/
theorem holdsNoGuard_readName (ref : BeanRef) (label : String) :
    HoldsNoGuard (accessor.readName walked ref label) := by
  unfold readName
  split
  · next info names =>
    split
    · exact .bind (.read (isDirect_of_capability? direct names) walked ref) fun _ => .pure _
    · exact .throw rfl
  · exact holdsNoGuard_handleCursor ref.type
  · exact .throw rfl

/-- A step of a read holds no guard. -/
theorem holdsNoGuard_step (cursor : Cursor) :
    HoldsNoGuard (accessor.step cursor before segment) := by
  unfold step
  dsimp only
  split
  · exact holdsNoGuard_readName _ direct _ _
  · refine .bind (holdsNoGuard_listIndex _ _ _) fun index => ?_
    split
    · exact .pure _
    · exact .throw rfl
  · exact .pure _
  · exact .throw rfl

/-- Navigation holds no guard. -/
theorem holdsNoGuard_navigate (cursor : Cursor) (later : List Segment) :
    HoldsNoGuard (accessor.navigate cursor before segment later) := by
  induction later generalizing cursor before segment with
  | nil => exact .pure _
  | cons next later ih =>
    refine .bind (holdsNoGuard_step before segment direct cursor) fun cursor => ?_
    split
    · exact .throw rfl
    · exact ih _ _ cursor

/-- A read holds no guard. -/
theorem holdsNoGuard_get (root : BeanRef) (path : PropertyPath) :
    HoldsNoGuard (accessor.get root path) :=
  .bind (holdsNoGuard_navigate [] path.first direct _ path.later) fun _ =>
    .bind (holdsNoGuard_step _ _ direct _) fun _ => .pure _

/-- A description holds no guard. -/
theorem holdsNoGuard_describe (root : BeanRef) (path : PropertyPath) :
    HoldsNoGuard (accessor.describe root path) := by
  refine .bind (holdsNoGuard_navigate [] path.first direct _ path.later) fun parent => ?_
  unfold describeStep
  dsimp only
  split
  · split
    · exact .pure _
    · exact .bind (holdsNoGuard_handleCursor _) fun _ => .pure _
    · exact .throw rfl
  · exact .bind (holdsNoGuard_listIndex _ _ _) fun _ => .pure _
  · exact .pure _
  · exact .throw rfl

end

end Accessor

end PropertyGraph
