import PropertyGraph.Proofs.Write.Sharing

/-!
# Writes change one cell

Every collection that a write meets on its way is made anew and put back, but it is put back as it
was. All that a write without growth changes is the cell of its target, and in that cell only what
lies on the keys behind the last name.
-/
namespace PropertyGraph.Accessor

section

variable {accessor : Accessor} {schema : Schema} {world after : World} {root : BeanRef}
  {options : AccessOptions} {path : PropertyPath} {raw : Value}

namespace QuietWrite

variable {written : Except AccessError Value}

/-- Every cell but that of the target holds what it held. -/
theorem cell?_of_ne (write : accessor.QuietWrite schema world root path written after)
    {ref : BeanRef} (has : world.Has ref) {field : String}
    (different : ¬ (ref = write.ref ∧ field = write.field)) :
    after.cell? ref field = world.cell? ref field := by
  have stored : write.stored.cell? ref field = world.cell? ref field := by
    rw [write.cell ref field has, if_neg different]
  exact (write.putBack.cell ref field has).elim (·.trans stored) id

/-- The target shows what it showed, off the keys behind the last name. -/
theorem agreesOff (write : accessor.QuietWrite schema world root path written after) :
    Value.AgreesOff write.keys (world.shown write.ref write.field)
      (after.shown write.ref write.field) := by
  have stored : write.stored.cell? write.ref write.field = some ⟨write.type, write.content⟩ := by
    rw [write.cell _ _ write.has, if_pos ⟨rfl, rfl⟩]
  rcases write.putBack.cell write.ref write.field write.has with same | same
  · simpa [World.shown_eq, same, stored, Field.toValue] using write.outside
  · simpa [World.shown_eq, same] using write.outside.left

end QuietWrite

/-- A successful write without growth changes one cell. Every property of every bean reads as it
did, except for one that shows the target; and there nothing changes off the keys behind the last
name. The other cells hold what they held. The target is compared as it is shown: off the keys it
shows what it showed, and a variant of an enum shows its name, so that two variants of one name are
not told apart in it. -/
theorem set_changes_one_cell (plain : accessor.registry.Plain schema) (fits : schema.Fits world)
    (has : world.Has root) (off : options.growNested = false) {change : PropertyChange}
    (done : (accessor.setWith options root path raw).runOn world = (.ok change, after)) :
    ∃ target : accessor.Target schema world root path,
      (∀ ref, world.Has ref → after.Has ref) ∧
      (∀ ref field, world.Has ref → ¬ (ref = target.ref ∧ field = target.field) →
        after.cell? ref field = world.cell? ref field) ∧
      (∀ ref label info, world.Has ref →
        accessor.registry.describe? ref.type label = some info →
        (after.read ref info).1 = (world.read ref info).1 ∨
          ref = target.ref ∧ info.ShowsField target.ref.type target.field target.type) ∧
      Value.AgreesOff target.keys (world.shown target.ref target.field)
        (after.shown target.ref target.field) := by
  obtain ⟨write, -, -⟩ := setWith_quiet plain fits has off done
  have kept : ∀ ref, world.Has ref → after.Has ref := fun ref hasRef =>
    write.putBack.has ref (write.kept ref hasRef)
  refine ⟨write.toTarget, kept,
    fun ref field hasRef different => write.cell?_of_ne hasRef different,
    fun ref label info hasRef described => ?_, write.agreesOff⟩
  obtain ⟨field, type, typed, shows⟩ := plain.shows _ _ _ described
  by_cases same : ref = write.ref ∧ field = write.field
  · obtain ⟨rfl, rfl⟩ := same
    obtain rfl : write.type = type := by simpa [write.typed] using typed
    exact .inr ⟨rfl, shows⟩
  · have shown : after.shown ref field = world.shown ref field := by
      rw [World.shown_eq, World.shown_eq, write.cell?_of_ne hasRef same]
    exact .inl (read_eq_of_shown shows hasRef (kept ref hasRef)
      (write.putBack.guards.trans write.guards) shown)

end

open Household in
/-- Eve gets a second pet, and keeps the first one and all else. -/
theorem set_second_pet_changes_pets :
    let path : PropertyPath := ⟨.name "pets", [.key "tom" false]⟩
    let after := ((accessor.setWith {} eve path (.bean tom)).runOn (world [])).2
    ∃ target : accessor.Target layout.schema (world []) eve path,
      (∀ ref, (world []).Has ref → after.Has ref) ∧
      (∀ ref field, (world []).Has ref → ¬ (ref = target.ref ∧ field = target.field) →
        after.cell? ref field = (world []).cell? ref field) ∧
      (∀ ref label info, (world []).Has ref →
        accessor.registry.describe? ref.type label = some info →
        (after.read ref info).1 = ((world []).read ref info).1 ∨
          ref = target.ref ∧ info.ShowsField target.ref.type target.field target.type) ∧
      Value.AgreesOff target.keys ((world []).shown target.ref target.field)
        (after.shown target.ref target.field) := by
  intro path after
  have done : (accessor.setWith {} eve path (.bean tom)).runOn (world []) =
      (.ok ⟨path.text, none, .bean tom⟩, after) := rfl
  exact set_changes_one_cell layout.registry_plain (fits_world []) (has_eve []) rfl done

end PropertyGraph.Accessor
