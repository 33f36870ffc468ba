import PropertyGraph.Access.Write
import PropertyGraph.Proofs.Access.Run
import PropertyGraph.Proofs.Graph.Layout
import PropertyGraph.Proofs.Graph.Records
import PropertyGraph.Proofs.Value.Keys

/-!
# Accesses that run alike

The same bean can be come to by segments that are written in different ways: behind a front of other
segments, or by another name of a property. What an access does then is the same, and only what it
tells of the segments differs, in errors and in records. A `Likeness` says which segments stand for
each other and how they may be told of. Two accesses are alike if on worlds with the same beans they
give results that are the same, or errors that differ in what is told alone, and leave worlds with
the same beans again. Each part of a read and of a write is alike to itself over segments that stand
for each other, as long as their names are the same on the beans that they come to.
-/
namespace PropertyGraph

/-- Segments that lead on in the same way: two names, or one key. -/
inductive Segment.Twin : Segment → Segment → Prop
  | name (label other : String) : Twin (.name label) (.name other)
  | key (label : String) (quoted : Bool) : Twin (.key label quoted) (.key label quoted)

/-- A segment is its own twin. -/
theorem Segment.Twin.refl (segment : Segment) : segment.Twin segment := by
  cases segment with
  | name label => exact .name label label
  | key label quoted => exact .key label quoted

/-- Which segments stand for each other, and how they are told of in errors. -/
structure Likeness where
  /-- Names of properties in errors. -/
  texts : String → String → Prop
  /-- Names that are suggested. -/
  hints : List String → List String → Prop
  /-- Segments at the same place. -/
  segments : Segment → Segment → Prop
  /-- Rows of segments that have been walked. -/
  rows : List Segment → List Segment → Prop
  told : ∀ {walked walked'}, rows walked walked' →
    texts (Segment.render walked) (Segment.render walked')
  onward : ∀ {walked walked' segment segment'}, rows walked walked' → segments segment segment' →
    rows (walked ++ [segment]) (walked' ++ [segment'])
  twins : ∀ {segment segment'}, segments segment segment' → segment.Twin segment'
  hinted : ∀ {label label'}, segments (.name label) (.name label') →
    ∀ (accessor : Accessor) (owner : TypeRef),
      hints (accessor.suggest owner label) (accessor.suggest owner label')
  unhinted : hints [] []

/-- The errors differ in the name of the property and in the suggestions alone. -/
inductive AccessError.Matches (like : Likeness) : AccessError → AccessError → Prop
  | malformedPath (cause : ParseError) : Matches like (.malformedPath cause) (.malformedPath cause)
  | notReadable {text text' : String} (owner : TypeRef) (told : like.texts text text') :
    Matches like (.notReadable text owner) (.notReadable text' owner)
  | notWritable {text text' : String} {hints hints' : List String} (owner : TypeRef)
      (told : like.texts text text') (hinted : like.hints hints hints') :
    Matches like (.notWritable text owner hints) (.notWritable text' owner hints')
  | typeMismatch {text text' : String} (cause : ConversionError) (told : like.texts text text') :
    Matches like (.typeMismatch text cause) (.typeMismatch text' cause)
  | growFailed {text text' : String} (owner : TypeRef) (cause : GrowFailure)
      (told : like.texts text text') :
    Matches like (.growFailed text owner cause) (.growFailed text' owner cause)
  | nullValue {text text' : String} (owner : TypeRef) (told : like.texts text text') :
    Matches like (.nullValue text owner) (.nullValue text' owner)
  | invalidProperty {text text' : String} (owner : TypeRef) (reason : InvalidReason)
      (told : like.texts text text') :
    Matches like (.invalidProperty text owner reason) (.invalidProperty text' owner reason)
  | invocationFailed {text text' : String} (owner : TypeRef) (cause : InvocationError)
      (told : like.texts text text') :
    Matches like (.invocationFailed text owner cause) (.invocationFailed text' owner cause)

/-- Both outcomes are results that are related, or errors that match. -/
inductive OutcomesAlike {α β : Type} (like : Likeness) (values : α → β → Prop) :
    Except AccessError α → Except AccessError β → Prop
  | ok {value : α} {other : β} (related : values value other) :
    OutcomesAlike like values (.ok value) (.ok other)
  | error {error other : AccessError} (fails : error.Matches like other) :
    OutcomesAlike like values (.error error) (.error other)

/-! ## Retelling -/

/-- The error with the name of its property told in another way. -/
def AccessError.retold (tell : String → String) : AccessError → AccessError
  | malformedPath cause => malformedPath cause
  | notReadable property owner => notReadable (tell property) owner
  | notWritable property owner suggestions => notWritable (tell property) owner suggestions
  | typeMismatch property cause => typeMismatch (tell property) cause
  | growFailed property owner cause => growFailed (tell property) owner cause
  | nullValue property owner => nullValue (tell property) owner
  | invalidProperty property owner reason => invalidProperty (tell property) owner reason
  | invocationFailed property owner cause => invocationFailed (tell property) owner cause

/-- An error whose path is told unchanged is the same error. -/
@[simp]
theorem AccessError.retold_id (error : AccessError) : error.retold id = error := by
  cases error <;> rfl

/-- How what is told of rows of segments is told in another way of rows that match them. -/
structure Retelling where
  /-- The name of a property, told in the other way. -/
  tell : String → String
  /-- Rows of segments that match. -/
  rows : List Segment → List Segment → Prop
  told : ∀ {walked walked'}, rows walked walked' →
    Segment.render walked = tell (Segment.render walked')
  onward : ∀ {walked walked'} segment, rows walked walked' →
    rows (walked ++ [segment]) (walked' ++ [segment])

/-- Segments stand for themselves, and what is told of the one row is retold of the other. -/
def Likeness.retelling (how : Retelling) : Likeness where
  texts text text' := text = how.tell text'
  hints := Eq
  segments := Eq
  rows := how.rows
  told := how.told
  onward := by
    rintro _ _ segment _ related rfl
    exact how.onward segment related
  twins := by
    rintro segment _ rfl
    exact .refl segment
  hinted same accessor owner := congrArg (accessor.suggest owner) (Segment.name.inj same)
  unhinted := rfl

variable {how : Retelling}

/-- Errors that match in this way are the same but for what is retold. -/
theorem AccessError.Matches.eq_retold {error other : AccessError}
    (fails : error.Matches (.retelling how) other) :
    error = other.retold how.tell := by
  cases fails with
  | malformedPath cause => rfl
  | notReadable owner told => exact congrArg (AccessError.notReadable · owner) told
  | notWritable owner told hinted =>
    cases told
    cases hinted
    rfl
  | typeMismatch cause told => exact congrArg (AccessError.typeMismatch · cause) told
  | growFailed owner cause told => exact congrArg (AccessError.growFailed · owner cause) told
  | nullValue owner told => exact congrArg (AccessError.nullValue · owner) told
  | invalidProperty owner reason told =>
    exact congrArg (AccessError.invalidProperty · owner reason) told
  | invocationFailed owner cause told =>
    exact congrArg (AccessError.invocationFailed · owner cause) told

/-- Outcomes that are alike in this way are the same but for what is retold. -/
theorem OutcomesAlike.eq_retold {α : Type} {values : α → α → Prop}
    {left right : Except AccessError α}
    (alike : OutcomesAlike (.retelling how) values left right)
    (same : ∀ value other, values value other → value = other) :
    left = right.mapError (AccessError.retold how.tell) := by
  cases alike with
  | ok related => exact congrArg Except.ok (same _ _ related)
  | error fails => exact congrArg Except.error fails.eq_retold

/-! ## Runs -/

/-- The runs give outcomes that are alike, and leave worlds with the same beans. -/
structure RunsAlike {α β : Type} (like : Likeness) (values : α → β → Prop)
    (left : Except AccessError α × World) (right : Except AccessError β × World) : Prop where
  outcome : OutcomesAlike like values left.1 right.1
  graph : left.2.SameGraph right.2

/-- Wherever the beans are the same, the accesses run alike. -/
def Access.Alike {α β : Type} (like : Likeness) (values : α → β → Prop) (first : Access α)
    (second : Access β) : Prop :=
  ∀ left right : World, left.SameGraph right →
    RunsAlike like values (first.runOn left) (second.runOn right)

/-- Sequences run alike if their first parts do and, where these succeed, what is behind them. -/
theorem RunsAlike.bind {α β γ δ : Type} {like : Likeness} {values : α → β → Prop}
    {results : γ → δ → Prop} {first : Access α} {second : Access β} {next : α → Access γ}
    {next' : β → Access δ} {left right : World}
    (alike : RunsAlike like values (first.runOn left) (second.runOn right))
    (further : ∀ value other left' right', first.runOn left = (.ok value, left') →
      second.runOn right = (.ok other, right') → values value other → left'.SameGraph right' →
      RunsAlike like results ((next value).runOn left') ((next' other).runOn right')) :
    RunsAlike like results ((first >>= next).runOn left) ((second >>= next').runOn right) := by
  obtain ⟨outcome, graph⟩ := alike
  rcases run : first.runOn left with ⟨here, left'⟩
  rcases run' : second.runOn right with ⟨there, right'⟩
  rw [run, run'] at outcome graph
  cases outcome with
  | ok related =>
    rw [Access.runOn_bind_of_ok run, Access.runOn_bind_of_ok run']
    exact further _ _ _ _ run run' related graph
  | error fails =>
    rw [Access.runOn_bind_of_error run, Access.runOn_bind_of_error run']
    exact ⟨.error fails, graph⟩

namespace Access.Alike

variable {α β γ δ : Type} {like : Likeness} {values : α → β → Prop} {results : γ → δ → Prop}

/-- Related values are given alike. -/
theorem pure {value : α} {other : β} (related : values value other) :
    Alike like values (pure value) (pure other) :=
  fun _ _ same => ⟨.ok related, same⟩

/-- Matching errors are failed with alike. -/
theorem throw {error other : AccessError} (fails : error.Matches like other) :
    Alike like values (throw error) (throw other) :=
  fun _ _ same => ⟨.error fails, same⟩

/-- Sequences are alike if their parts are. -/
theorem bind {first : Access α} {second : Access β} {next : α → Access γ} {next' : β → Access δ}
    (alike : Alike like values first second)
    (further : ∀ value other, values value other → Alike like results (next value) (next' other)) :
    Alike like results (first >>= next) (second >>= next') :=
  fun left right same => (alike left right same).bind fun value other _ _ _ _ related graph =>
    further value other related _ _ graph

/-- Sequences are alike if their parts are, the second ones for the same result of the first. -/
theorem bind_same {first second : Access α} {next : α → Access γ} {next' : α → Access δ}
    (alike : Alike like Eq first second)
    (further : ∀ value, Alike like results (next value) (next' value)) :
    Alike like results (first >>= next) (second >>= next') :=
  alike.bind fun value _ same => same ▸ further value

/-- Records may differ. -/
theorem record (entry other : LogRecord) :
    Alike like Eq (Access.record entry) (Access.record other) :=
  fun _ _ same => ⟨.ok rfl, same.record entry other⟩

end Access.Alike

namespace Accessor

open Access (Alike)

/-- What constructors make does not depend on records. -/
def ConstructsAlike (accessor : Accessor) : Prop :=
  ∀ type make, accessor.registry.constructor? type = .ok make →
    ∀ left right : World, left.SameGraph right →
      (make left).1 = (make right).1 ∧ (make left).2.SameGraph (make right).2

/-- Nothing that is made depends on records if no constructor of a table does. -/
theorem constructsAlike_of_tables {accessor : Accessor}
    (each : ∀ table ∈ accessor.registry.tables, ∀ make, table.constructor? = some make →
      ∀ left right : World, left.SameGraph right →
        (make left).1 = (make right).1 ∧ (make left).2.SameGraph (make right).2) :
    accessor.ConstructsAlike := by
  intro type make found
  unfold Registry.constructor? at found
  split at found
  · simp at found
  · next table listed =>
    split at found
    · simp at found
    · next make' isMade =>
      obtain rfl := Except.ok.inj found
      exact each table (List.mem_of_find?_eq_some listed) make' isMade

/-- What the constructors of a layout make does not depend on records. -/
theorem constructsAlike_of_layout {accessor : Accessor} {layout : Layout}
    (listed : accessor.registry = layout.registry) : accessor.ConstructsAlike := by
  intro type make found left right same
  rw [listed] at found
  obtain ⟨-, fields, -, -, rfl⟩ := Layout.constructor?_registry found
  exact same.add _

/-- If the value is a bean and the segments are names, they are the same on it. -/
def SameOn (accessor : Accessor) (value : Value) (segment segment' : Segment) : Prop :=
  ∀ ref label label', value.core = .bean ref → segment = .name label → segment' = .name label' →
    accessor.capability? ref.type label = accessor.capability? ref.type label'

/-- A segment is the same as itself. -/
theorem SameOn.refl (accessor : Accessor) (value : Value) (segment : Segment) :
    accessor.SameOn value segment segment := by
  rintro ref label label' - rfl same
  rw [Segment.name.inj same]

section

variable {like : Likeness} {walked walked' : List Segment} {segment segment' : Segment}

/-- A failing invocation tells the segments that lead to it. -/
theorem invoke_alike {α : Type}
    (told : like.texts (Segment.render walked) (Segment.render walked')) (ref : BeanRef)
    {run : World → Except InvocationError α × World}
    (alike : ∀ left right : World, left.SameGraph right →
      (run left).1 = (run right).1 ∧ (run left).2.SameGraph (run right).2) :
    Alike like Eq (Access.invoke walked ref run) (Access.invoke walked' ref run) := by
  intro left right same
  obtain ⟨outcome, graph⟩ := alike left right same
  rw [Access.runOn_invoke, Access.runOn_invoke, outcome]
  refine ⟨?_, graph⟩
  cases (run right).1 with
  | ok value => exact .ok rfl
  | error cause => exact .error (.invocationFailed ref.type cause told)

/-- The handle of one type is made alike in both worlds. -/
theorem handleCursor_alike (owner : TypeRef) :
    Alike like Eq (handleCursor owner) (handleCursor owner) := by
  refine .bind_same (fun left right same => ?_) fun _ => .pure rfl
  obtain ⟨sameRef, graph⟩ := same.add (TypeHandle.bean owner)
  exact ⟨.ok sameRef, graph⟩

/-- One key is an index on both sides, or on neither. -/
theorem listIndex_alike (told : like.texts (Segment.render walked) (Segment.render walked'))
    (owner : TypeRef) (key : String) :
    Alike like Eq (listIndex walked owner key) (listIndex walked' owner key) := by
  unfold listIndex
  split
  · exact .pure rfl
  · exact .throw (.invalidProperty owner _ told)

/-- Twins are refused alike by one value. -/
theorem unsupported_alike {α β : Type} {values : α → β → Prop}
    (told : like.texts (Segment.render walked) (Segment.render walked'))
    (twin : segment.Twin segment') (owner : TypeRef) (value : Value) :
    Alike like values (throw (unsupported walked owner value segment))
      (throw (unsupported walked' owner value segment')) := by
  cases twin <;> exact .throw (.invalidProperty owner _ told)

end

end Accessor

end PropertyGraph
