import PropertyGraph.Proofs.Access.Run
import PropertyGraph.Proofs.Graph.Schema

/-!
# What accesses leave alone

Ways in which an access leaves the beans that are there as they are. It may fail without an effect
on them (`FailsOn`, or `FailsWith` a known error), it may succeed without any effect or else fail so
(`QuietOn`), or it may bring in new beans, so that the world still fits (`AddsOn`). It may also do
so whatever the world is (`Keeps`). Each of them is proved of a sequence by proving it of the
parts.
-/
namespace PropertyGraph

/-- The access fails with an error on the world and leaves all that was there. New beans may have
come in. -/
def Access.FailsWith {α : Type} (access : Access α) (world : World) (error : AccessError) : Prop :=
  ∃ after, access.runOn world = (.error error, after) ∧ world.EvolvesTo [] after

namespace Access.FailsWith

variable {α β : Type} {world middle : World} {error : AccessError}

/-- An error that is thrown is the one that is failed with. -/
theorem throw (error : AccessError) (world : World) :
    FailsWith (throw error : Access α) world error :=
  ⟨world, rfl, .refl world []⟩

/-- A sequence fails as its first part does. -/
theorem bind {first : Access α} (fails : FailsWith first world error) (next : α → Access β) :
    FailsWith (first >>= next) world error := by
  obtain ⟨after, run, evolves⟩ := fails
  exact ⟨after, runOn_bind_of_error run next, evolves⟩

/-- A sequence whose first part keeps the beans fails as its second part does. -/
theorem bind_of_ok {first : Access α} {next : α → Access β} {value : α}
    (done : first.runOn world = (.ok value, middle)) (evolves : world.EvolvesTo [] middle)
    (fails : FailsWith (next value) middle error) : FailsWith (first >>= next) world error := by
  obtain ⟨after, run, evolves'⟩ := fails
  exact ⟨after, (runOn_bind_of_ok done next).trans run, evolves.trans evolves'⟩

end Access.FailsWith

/-- The access fails on the world and leaves all that was there. New beans may have come in. -/
def Access.FailsOn {α : Type} (access : Access α) (world : World) : Prop :=
  ∃ error after, access.runOn world = (.error error, after) ∧ world.EvolvesTo [] after

namespace Access.FailsOn

variable {α β : Type} {world middle : World}

/-- What is thrown fails at once. -/
theorem throw (error : AccessError) (world : World) :
    FailsOn (throw error : Access α) world :=
  ⟨error, FailsWith.throw error world⟩

/-- A sequence fails if its first part does. -/
theorem bind {first : Access α} (fails : FailsOn first world) (next : α → Access β) :
    FailsOn (first >>= next) world := by
  obtain ⟨error, failsWith⟩ := fails
  exact ⟨error, FailsWith.bind failsWith next⟩

/-- A sequence whose first part keeps the beans fails if its second part does. -/
theorem bind_of_ok {first : Access α} {next : α → Access β} {value : α}
    (done : first.runOn world = (.ok value, middle)) (evolves : world.EvolvesTo [] middle)
    (fails : FailsOn (next value) middle) : FailsOn (first >>= next) world := by
  obtain ⟨error, failsWith⟩ := fails
  exact ⟨error, FailsWith.bind_of_ok done evolves failsWith⟩

end Access.FailsOn

/-- The access fails and leaves all that was there, or it succeeds and changes nothing at all. -/
def Access.QuietOn {α : Type} (access : Access α) (world : World) : Prop :=
  (∃ value, access.runOn world = (.ok value, world)) ∨ access.FailsOn world

namespace Access.QuietOn

variable {α β : Type} {world : World}

/-- Giving a value is quiet. -/
theorem pure (value : α) (world : World) : QuietOn (pure value) world :=
  .inl ⟨value, rfl⟩

/-- Failing at once is quiet. -/
theorem throw (error : AccessError) (world : World) : QuietOn (throw error : Access α) world :=
  .inr (.throw error world)

/-- A sequence of quiet parts is quiet. -/
theorem bind {first : Access α} {next : α → Access β} (quiet : QuietOn first world)
    (further : ∀ value, first.runOn world = (.ok value, world) → QuietOn (next value) world) :
    QuietOn (first >>= next) world := by
  rcases quiet with ⟨value, done⟩ | fails
  · rcases further value done with ⟨result, done'⟩ | fails
    · exact .inl ⟨result, (runOn_bind_of_ok done next).trans done'⟩
    · exact .inr (.bind_of_ok done (.refl _ _) fails)
  · exact .inr (fails.bind next)

end Access.QuietOn

/-- Whatever the world is, the access leaves all that is there. -/
def Access.Keeps {α : Type} (access : Access α) : Prop :=
  ∀ world : World, world.EvolvesTo [] (access.runOn world).2

namespace Access.Keeps

variable {α β : Type}

/-- Giving a value keeps every bean. -/
theorem pure (value : α) : Keeps (pure value : Access α) :=
  fun world => World.EvolvesTo.refl world []

/-- Failing at once keeps every bean. -/
theorem throw (error : AccessError) : Keeps (throw error : Access α) :=
  fun world => World.EvolvesTo.refl world []

/-- A sequence of parts that keep every bean keeps every bean. -/
theorem bind {first : Access α} {next : α → Access β} (keeps : Keeps first)
    (further : ∀ value, Keeps (next value)) : Keeps (first >>= next) := by
  intro world
  have kept := keeps world
  rcases run : first.runOn world with ⟨(error | value), middle⟩
  · rw [run] at kept
    rw [runOn_bind_of_error run]
    exact kept
  · rw [run] at kept
    rw [runOn_bind_of_ok run]
    exact kept.trans (further value middle)

end Access.Keeps

/-- The access leaves all that was there and keeps the world fitting. If it succeeds, its value and
the world afterwards are as told. -/
def Access.AddsOn {α : Type} (schema : Schema) (access : Access α) (world : World)
    (result : α → World → Prop) : Prop :=
  ∃ outcome after, access.runOn world = (outcome, after) ∧ world.EvolvesTo [] after ∧
    schema.Fits after ∧ ∀ value, outcome = .ok value → result value after

namespace Access.AddsOn

variable {α β : Type} {schema : Schema} {world : World}

/-- Giving a value adds nothing. -/
theorem pure {result : α → World → Prop} {value : α} (fits : schema.Fits world)
    (told : result value world) : AddsOn schema (pure value) world result :=
  ⟨_, world, rfl, .refl world [], fits, fun _ same => Except.ok.inj same ▸ told⟩

/-- Failing at once adds nothing. -/
theorem throw {result : α → World → Prop} (fits : schema.Fits world) (error : AccessError) :
    AddsOn schema (throw error) world result :=
  ⟨_, world, rfl, .refl world [], fits, by simp⟩

/-- What both parts of a sequence add comes together. -/
theorem bind {first : Access α} {next : α → Access β} (between : α → World → Prop)
    {result : β → World → Prop} (adds : AddsOn schema first world between)
    (further : ∀ value middle, world.EvolvesTo [] middle → schema.Fits middle →
      between value middle → AddsOn schema (next value) middle result) :
    AddsOn schema (first >>= next) world result := by
  obtain ⟨outcome, middle, run, evolves, fits, told⟩ := adds
  cases outcome with
  | error error => exact ⟨_, middle, runOn_bind_of_error run next, evolves, fits, by simp⟩
  | ok value =>
    obtain ⟨outcome', after, run', evolves', fits', told'⟩ :=
      further value middle evolves fits (told value rfl)
    exact ⟨outcome', after, (runOn_bind_of_ok run next).trans run', evolves.trans evolves', fits',
      told'⟩

/-- A record adds no bean. -/
theorem record {result : Unit → World → Prop} (fits : schema.Fits world) (entry : LogRecord)
    (told : result () (world.record entry)) :
    AddsOn schema (Access.record entry) world result :=
  ⟨_, world.record entry, rfl, .of_record world entry, fits.of_record entry, fun _ _ => told⟩

/-- What is told of an access can be told of a run of it. -/
theorem of_run {access : Access α} {result : α → World → Prop}
    (adds : AddsOn schema access world result) {outcome : Except AccessError α} {after : World}
    (run : access.runOn world = (outcome, after)) :
    world.EvolvesTo [] after ∧ schema.Fits after ∧
      ∀ value, outcome = .ok value → result value after := by
  obtain ⟨outcome', after', run', told⟩ := adds
  obtain ⟨rfl, rfl⟩ := Prod.mk.inj (run'.symm.trans run)
  exact told

end Access.AddsOn

end PropertyGraph
