import PropertyGraph.Proofs.Write.Alike

/-!
# Accesses that mirror each other

Whatever an access does behind a front of segments, it does alike without the front: the segments
behind it are resolved by the same rules, and the front is only told in errors and in records. One
access mirrors another if on worlds with the same beans both give the same result, or the same
error but for the front before the property, and leave worlds with the same beans again. Rows of
segments are read and written so behind a front.
-/
namespace PropertyGraph

namespace Segment

/-- The row of segments starts with a name. -/
def startsWithName : List Segment → Bool
  | [] => false
  | first :: _ => first.isName

/-- A row that starts with a name still does when it goes on. -/
theorem startsWithName_append {segments : List Segment} (starts : startsWithName segments = true)
    (later : List Segment) : startsWithName (segments ++ later) = true := by
  cases segments with
  | nil => simp [startsWithName] at starts
  | cons first rest => exact starts

/-- A name is written with a point behind other segments. -/
theorem render_append {front segments : List Segment} (nonempty : front ≠ [])
    (starts : startsWithName segments = true) :
    render (front ++ segments) = render front ++ "." ++ render segments := by
  obtain ⟨first, later, rfl⟩ := List.exists_cons_of_ne_nil nonempty
  cases segments with
  | nil => simp [startsWithName] at starts
  | cons next rest =>
    have point : laterChars next = '.' :: next.chars := if_pos starts
    have written : renderChars (first :: later ++ next :: rest) =
        renderChars (first :: later) ++ '.' :: renderChars (next :: rest) := by
      simp [renderChars, point]
    have behind : String.ofList ('.' :: renderChars (next :: rest)) =
        "." ++ String.ofList (renderChars (next :: rest)) :=
      @String.ofList_append ['.'] _
    rw [render, written, String.ofList_append, behind, String.append_assoc]
    rfl

end Segment

namespace AccessError

/-- The error with a front before its property. -/
def under (front : String) : AccessError → AccessError
  | malformedPath cause => malformedPath cause
  | notReadable property owner => notReadable (front ++ "." ++ property) owner
  | notWritable property owner suggestions =>
    notWritable (front ++ "." ++ property) owner suggestions
  | typeMismatch property cause => typeMismatch (front ++ "." ++ property) cause
  | growFailed property owner cause => growFailed (front ++ "." ++ property) owner cause
  | nullValue property owner => nullValue (front ++ "." ++ property) owner
  | invalidProperty property owner reason =>
    invalidProperty (front ++ "." ++ property) owner reason
  | invocationFailed property owner cause =>
    invocationFailed (front ++ "." ++ property) owner cause

end AccessError

/-- The runs give the same result, or the same error but for the front, and leave worlds with the
same beans. -/
structure RunsUnder {α : Type} (front : List Segment) (left right : Except AccessError α × World) :
    Prop where
  outcome : left.1 = right.1.mapError (AccessError.under (Segment.render front))
  graph : left.2.SameGraph right.2

/-- Wherever the beans are the same, the first access runs as the second does, under the front. -/
def Access.Mirrors {α : Type} (front : List Segment) (first second : Access α) : Prop :=
  ∀ left right : World, left.SameGraph right →
    RunsUnder front (first.runOn left) (second.runOn right)

/-- Sequences run alike if their first parts do and, where these succeed, what is behind them. -/
theorem RunsUnder.bind {α β : Type} {front : List Segment} {first second : Access α}
    {next next' : α → Access β} {left right : World}
    (under : RunsUnder front (first.runOn left) (second.runOn right))
    (further : ∀ value left' right', first.runOn left = (.ok value, left') →
      second.runOn right = (.ok value, right') → left'.SameGraph right' →
      RunsUnder front ((next value).runOn left') ((next' value).runOn right')) :
    RunsUnder front ((first >>= next).runOn left) ((second >>= next').runOn right) := by
  obtain ⟨outcome, graph⟩ := under
  rcases run : second.runOn right with ⟨(error | value), right'⟩
  · rw [run] at outcome graph
    have failed : first.runOn left =
        (.error (error.under (Segment.render front)), (first.runOn left).2) :=
      Prod.ext outcome rfl
    rw [Access.runOn_bind_of_error failed, Access.runOn_bind_of_error run]
    exact ⟨rfl, graph⟩
  · rw [run] at outcome graph
    have done : first.runOn left = (.ok value, (first.runOn left).2) := Prod.ext outcome rfl
    rw [Access.runOn_bind_of_ok done, Access.runOn_bind_of_ok run]
    exact further value _ _ done run graph

/-- Segments stand for themselves, and what is walked is told with a front before it. -/
def Likeness.behind {front : List Segment} (nonempty : front ≠ []) : Likeness :=
  .retelling {
    tell := (Segment.render front ++ "." ++ ·)
    rows walked walked' := walked = front ++ walked' ∧ Segment.startsWithName walked' = true
    told := by
      rintro _ walked ⟨rfl, starts⟩
      exact Segment.render_append nonempty starts
    onward := by
      rintro _ walked segment ⟨rfl, starts⟩
      exact ⟨List.append_assoc _ _ _, Segment.startsWithName_append starts [segment]⟩ }

/-- Telling an error with a front before its path is telling it below the front. -/
theorem AccessError.retold_eq_under (front : String) :
    AccessError.retold (front ++ "." ++ ·) = AccessError.under front := by
  funext error
  cases error <;> rfl

/-- Runs that are alike behind a front mirror each other. -/
theorem RunsAlike.under {α : Type} {front : List Segment} {nonempty : front ≠ []}
    {left right : Except AccessError α × World}
    (alike : RunsAlike (.behind nonempty) Eq left right) : RunsUnder front left right := by
  obtain ⟨outcome, graph⟩ := alike
  refine ⟨?_, graph⟩
  rw [← AccessError.retold_eq_under]
  exact outcome.eq_retold fun _ _ same => same

namespace Accessor

open Access (Mirrors)

/-- The descent behind a front does what the other does, from every value. -/
def DescendsAlike (front : List Segment) (descend descend' : Descent) : Prop :=
  ∀ holder declared owner,
    Mirrors front (descend holder declared owner) (descend' holder declared owner)

section

variable {accessor : Accessor} (request : WriteRequest) {front : List Segment}
  (nonempty : front ≠ [])

include nonempty

/-- A row of segments is read alike behind a front. -/
theorem readFrom_mirrors (later : List Segment) (cursor : Cursor) (before : List Segment)
    (segment : Segment) (starts : Segment.startsWithName (before ++ [segment]) = true) :
    Mirrors front (accessor.readFrom cursor (front ++ before) segment later)
      (accessor.readFrom cursor before segment later) := by
  intro left right same
  have twins : accessor.ReadsTwins (.behind nonempty) left cursor (front ++ before) segment later
      segment later := .refl (fun _ => rfl) later left cursor _ segment
  exact (twins.readFrom ⟨List.append_assoc _ _ _, starts⟩ same).under

/-- A row of segments is written alike behind a front. -/
theorem writeInto_mirrors (alike : accessor.ConstructsAlike) (later before : List Segment)
    (segment : Segment) (starts : Segment.startsWithName (before ++ [segment]) = true) :
    DescendsAlike front (accessor.writeInto request (front ++ before) segment later)
      (accessor.writeInto request before segment later) := by
  intro holder declared owner left right same
  have twins : accessor.WritesTwins (.behind nonempty) request left ⟨holder, declared, owner, pure⟩
      (front ++ before) segment later segment later :=
    .refl request (fun _ => rfl) later left _ _ segment
  exact (twins.writeInto alike ⟨List.append_assoc _ _ _, starts⟩ same).under

end

end Accessor

end PropertyGraph
