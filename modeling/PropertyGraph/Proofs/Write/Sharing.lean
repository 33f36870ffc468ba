import PropertyGraph.Proofs.Graph.Layout
import PropertyGraph.Proofs.Write.Outcome

/-!
# Writes into shared beans

The beans on a path may be reached again further down the path: the owner of a pet may be the
person in whose map of pets the path found it. A collection on the way is read before the raw value
is written and put back after it. If it is the very property that was written, the new value is
gone; if not, the new value stays.
-/
namespace PropertyGraph.Accessor

section

variable {accessor : Accessor} {schema : Schema} {world after : World} {root : BeanRef}
  {options : AccessOptions} {path : PropertyPath} {raw : Value}

/-- The path goes, with a key, through a property that shows the target before it gets there. -/
def Target.IsPassed (target : accessor.Target schema world root path) : Prop :=
  ∃ front label key quoted rest info,
    target.front = front ++ .name label :: .key key quoted :: rest ∧
      accessor.Leads world root front target.ref ∧
      accessor.capability? target.ref.type label = some (.property info) ∧
      info.ShowsField target.ref.type target.field target.type

namespace QuietWrite

variable {written : Except AccessError Value}

/-- What is put back goes into the target only if the path passes through it. -/
theorem not_touches (write : accessor.QuietWrite schema world root path written after)
    (apart : ¬ write.IsPassed) :
    ∀ put ∈ write.pending, ¬ Touches schema put write.ref write.field := by
  intro put among touches
  obtain ⟨same, type, typed, shows⟩ := touches
  obtain ⟨front, label, key, quoted, rest, split, -, leads, names⟩ :=
    (write.putsBack put among).passes
  have sameType : type = write.type := by simpa [write.typed] using typed.symm
  rw [same] at leads names
  exact apart ⟨front, label, key, quoted, rest, put.info, split, leads, names, sameType ▸ shows⟩

/-- If the path passes through the target, something is put back into it. -/
theorem touches (write : accessor.QuietWrite schema world root path written after)
    (passed : write.IsPassed) :
    ∃ put ∈ write.pending, put.ref = write.ref ∧ Touches schema put put.ref write.field := by
  obtain ⟨front, label, key, quoted, rest, info, split, leads, names, shows⟩ := passed
  obtain ⟨put, among, walked⟩ := write.complete front label key quoted rest split
  obtain ⟨front', label', _, _, _, -, walked', leads', names'⟩ := (write.putsBack put among).passes
  have whole : front' ++ [.name label'] = front ++ [.name label] := by
    simpa using walked'.symm.trans walked
  obtain ⟨rfl, last⟩ := List.append_inj' whole rfl
  obtain rfl : label' = label := by simpa using last
  have sameRef : put.ref = write.ref := leads'.unique leads
  rw [sameRef, names] at names'
  have sameInfo : info = put.info := by simpa using names'
  exact ⟨put, among, sameRef, rfl, write.type, by rw [sameRef]; exact write.typed,
    by rw [sameRef, ← sameInfo]; exact shows⟩

end QuietWrite

/-- After a successful write without growth the target, followed along the keys behind the last
name, shows the new value as its field stores it. That fails only if the path has passed through the
target before, with a key: then the target holds what it held. -/
theorem set_shows_or_restores (plain : accessor.registry.Plain schema) (fits : schema.Fits world)
    (has : world.Has root) (off : options.growNested = false) {change : PropertyChange}
    (done : (accessor.setWith options root path raw).runOn world = (.ok change, after)) :
    ∃ target : accessor.Target schema world root path,
      (¬ target.IsPassed → ∃ shown,
        (after.shown target.ref target.field).follow? target.keys = some shown ∧
          (target.type.behind target.keys).Stores change.newValue shown) ∧
      (target.IsPassed →
        after.cell? target.ref target.field = world.cell? target.ref target.field) := by
  obtain ⟨oldValue?, middle, written, -, evolves, fitsMiddle, run, outcome⟩ :=
    setWith_runs plain fits has done
  rcases writePath_quiet plain fits has off evolves fitsMiddle run with
    ⟨⟨error, rfl⟩, -⟩ | ⟨⟨write⟩⟩
  · simp [Except.map] at outcome
  have succeeded : write.outcome = .ok () := by
    cases ended : write.outcome with
    | ok => rfl
    | error error => simp [write.written_eq, ended, Except.map] at outcome
  have newValue : change.newValue = write.value := by
    rw [write.written_eq, succeeded] at outcome
    simp only [Except.map, Except.ok.injEq] at outcome
    rw [outcome]
  refine ⟨write.toTarget, ?_, ?_⟩
  · intro apart
    have kept : after.cell? write.ref write.field = some ⟨write.type, write.content⟩ := by
      rw [write.putBack.untouched _ _ write.has (write.not_touches apart),
        write.cell _ _ write.has, if_pos ⟨rfl, rfl⟩]
    have shows : after.shown write.ref write.field = write.type.toValue write.content := by
      simp [World.shown_eq, kept, Field.toValue]
    rw [shows, newValue]
    exact write.stores
  · intro passed
    obtain ⟨put, among, same, touches⟩ := write.touches passed
    rw [← same]
    exact write.putBack.restored succeeded put among write.field touches

end

open Household in
/-- Eve is renamed on the way over her pet. -/
theorem set_name_of_owner :
    let path : PropertyPath := ⟨.name "pets", [.key "rex" false, .name "owner", .name "name"]⟩
    let after := ((accessor.setWith {} eve path (.text "Eva")).runOn (world [])).2
    ∃ target : accessor.Target layout.schema (world []) eve path,
      (¬ target.IsPassed → ∃ shown,
        (after.shown target.ref target.field).follow? target.keys = some shown ∧
          (target.type.behind target.keys).Stores (.text "Eva") shown) ∧
      (target.IsPassed →
        after.cell? target.ref target.field = (world []).cell? target.ref target.field) := by
  intro path after
  have done : (accessor.setWith {} eve path (.text "Eva")).runOn (world []) =
      (.ok ⟨path.text, none, .text "Eva"⟩, after) := rfl
  exact set_shows_or_restores layout.registry_plain (fits_world []) (has_eve []) rfl done

open Household in
/-- Eve does not get a second pet on the way over her first one. -/
theorem set_pet_of_owner_is_lost :
    let path : PropertyPath :=
      ⟨.name "pets", [.key "rex" false, .name "owner", .name "pets", .key "tom" false]⟩
    ∃ after, (accessor.setWith {} eve path (.bean tom)).runOn (world []) =
        (.ok ⟨path.text, none, .bean tom⟩, after) ∧
      accessor.Leads (world []) eve [.name "pets", .key "rex" false, .name "owner"] eve ∧
      (after.shown eve "pets").follow? [.key "tom" false] = none :=
  ⟨_, rfl, rfl, rfl⟩

end PropertyGraph.Accessor
