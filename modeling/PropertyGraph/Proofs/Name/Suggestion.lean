import Mathlib.Data.List.Destutter
import Mathlib.Data.List.Sort
import Mathlib.Data.String.Basic
import PropertyGraph.Name.Suggestion
import PropertyGraph.Proofs.Name.Distance

/-!
# What is suggested

The near candidates, ranked by distance and then by name, are one list, whatever the order and the
repetitions of the candidates. What is suggested is the front of that list. The sort brings equal
names together, so that dropping each match behind one of its name leaves every name once; only then
is the list cut.
-/
namespace PropertyGraph

/-- The distance of two names without regard to case. -/
def nameDistance (left right : String) : Nat :=
  editDistance (Text.fold left) (Text.fold right)

namespace SuggestionEngine

/-! ## Ranks -/

/-- A name is ahead of another one if it is closer to the mistyped name, or equally close and less
as a text. -/
def IsBefore (name left right : String) : Prop :=
  nameDistance name left < nameDistance name right ∨
    nameDistance name left = nameDistance name right ∧ left < right

/-- A list of the near candidates by distance and then by name. -/
structure Ranks (engine : SuggestionEngine) (name : String) (candidates ranked : List String) :
    Prop where
  /-- The names are those of the near candidates. -/
  mem_iff (candidate : String) : candidate ∈ ranked ↔
    candidate ∈ candidates ∧ nameDistance name candidate ≤ engine.maxDistance
  /-- Each name is ahead of all names behind it. -/
  ordered : ranked.Pairwise (IsBefore name)

variable {engine : SuggestionEngine} {name : String} {candidates ranked : List String}

/-- Of two names only one is ahead. -/
theorem IsBefore.asymm {left right : String} (ahead : IsBefore name left right) :
    ¬ IsBefore name right left := by
  rcases ahead with closer | ⟨same, less⟩ <;> rintro (closer' | ⟨same', less'⟩)
  · exact Nat.lt_asymm closer closer'
  · exact Nat.ne_of_lt closer same'.symm
  · exact Nat.ne_of_lt closer' same.symm
  · exact lt_asymm less less'

/-- No name is ahead of itself. -/
instance (name : String) : Std.Irrefl (IsBefore name) where
  irrefl _ ahead := ahead.asymm ahead

/-- No two names are ahead of each other. -/
instance (name : String) : Std.Antisymm (IsBefore name) where
  antisymm _ _ ahead behind := absurd behind ahead.asymm

/-- Two names of which each is ahead of the other or the same are the same. -/
instance (name : String) :
    Std.Antisymm fun left right => IsBefore name left right ∨ left = right where
  antisymm _ _ ahead behind :=
    ahead.elim (fun ahead => behind.elim (absurd · ahead.asymm) Eq.symm) id

namespace Ranks

/-- A ranked name stands once. -/
theorem nodup (ranks : engine.Ranks name candidates ranked) : ranked.Nodup := by
  refine ranks.ordered.imp fun {left right} ahead => ?_
  rintro rfl
  exact ahead.asymm ahead

/-- Candidates of the same names have the same ranks. -/
theorem unique {candidates' ranked' : List String} (ranks : engine.Ranks name candidates ranked)
    (ranks' : engine.Ranks name candidates' ranked')
    (same : ∀ candidate, candidate ∈ candidates ↔ candidate ∈ candidates') : ranked = ranked' :=
  ranks.ordered.eq_of_mem_iff ranks'.ordered fun candidate => by
    rw [ranks.mem_iff, ranks'.mem_iff, same]

end Ranks

/-! ## Matches -/

/-- The matches are the near candidates with their distances. -/
theorem mem_nearMatches {found : Match} : found ∈ engine.nearMatches name candidates ↔
    found.2 ∈ candidates ∧ nameDistance name found.2 ≤ engine.maxDistance ∧
      found.1 = nameDistance name found.2 := by
  obtain ⟨distance, candidate⟩ := found
  simp only [nearMatches, List.mem_filterMap, foldedDistance, boundedDistance_eq]
  constructor
  · rintro ⟨candidate, among, same⟩
    split at same
    · next near =>
      obtain ⟨rfl, rfl⟩ := Prod.mk.inj (Option.some.inj same)
      exact ⟨among, near, rfl⟩
    · cases same
  · rintro ⟨among, near, rfl⟩
    refine ⟨candidate, among, ?_⟩
    rw [nameDistance] at near ⊢
    rw [if_pos near, Option.map_some]

/-- Preceding goes on from match to match. -/
theorem precedes_trans (first second third : Match) (ahead : precedes first second = true)
    (behind : precedes second third = true) : precedes first third = true := by
  simp only [precedes, Bool.or_eq_true, Bool.and_eq_true, decide_eq_true_eq, beq_iff_eq] at *
  rcases ahead with closer | ⟨same, less⟩ <;> rcases behind with closer' | ⟨same', less'⟩
  · exact .inl (closer.trans closer')
  · exact .inl (same' ▸ closer)
  · exact .inl (same ▸ closer')
  · exact .inr ⟨same.trans same', less.trans less'⟩

/-- Of two matches one precedes the other. -/
theorem precedes_total (left right : Match) :
    (precedes left right || precedes right left) = true := by
  simp only [precedes, Bool.or_eq_true, Bool.and_eq_true, decide_eq_true_eq, beq_iff_eq]
  rcases lt_trichotomy left.1 right.1 with closer | same | closer
  · exact .inl (.inl closer)
  · rcases le_total left.2 right.2 with less | less
    · exact .inl (.inr ⟨same, less⟩)
    · exact .inr (.inr ⟨same.symm, less⟩)
  · exact .inr (.inl closer)

/-- Dropping repeated matches leaves of their names each that differs from the one before it. -/
theorem map_dropRepeats (matches' : List Match) :
    (dropRepeats matches').map (·.2) = (matches'.map (·.2)).destutter (· ≠ ·) := by
  have behind : ∀ (rest : List Match) (previous : String),
      previous :: (dropRepeatsOf previous rest).map (·.2) =
        (rest.map (·.2)).destutter' (· ≠ ·) previous := by
    intro rest
    induction rest with
    | nil => intro previous; rfl
    | cons found rest ih =>
      intro previous
      rw [dropRepeatsOf, List.map_cons, List.destutter'_cons]
      split
      · next same => rw [if_neg (not_not.2 same.symm), ih]
      · next different => rw [if_pos (Ne.symm different), List.map_cons, ih]
  cases matches' with
  | nil => rfl
  | cons found rest => exact behind rest found.2

/-! ## Suggestions -/

/-- The near candidates can be ranked, and the front of their ranks is suggested. -/
theorem exists_ranks_suggest (engine : SuggestionEngine) (name : String)
    (candidates : List String) : ∃ ranked, engine.Ranks name candidates ranked ∧
      engine.suggest name candidates = ranked.take engine.maxSuggestions := by
  let ordered := (engine.nearMatches name candidates).mergeSort precedes
  have mem_ordered (found : Match) : found ∈ ordered ↔ found.2 ∈ candidates ∧
      nameDistance name found.2 ≤ engine.maxDistance ∧ found.1 = nameDistance name found.2 :=
    (List.mergeSort_perm _ _).mem_iff.trans mem_nearMatches
  have weakly : (ordered.map (·.2)).Pairwise fun left right =>
      IsBefore name left right ∨ left = right := by
    refine List.pairwise_map.2 (List.Pairwise.imp_of_mem (fun {left right} among among' ahead => ?_)
      (List.pairwise_mergeSort precedes_trans precedes_total _))
    simp only [precedes, Bool.or_eq_true, Bool.and_eq_true, decide_eq_true_eq, beq_iff_eq,
      ((mem_ordered left).1 among).2.2, ((mem_ordered right).1 among').2.2] at ahead
    rcases ahead with closer | ⟨same, less⟩
    · exact .inl (.inl closer)
    · exact less.lt_or_eq.imp_left fun less => .inr ⟨same, less⟩
  -- In a row with each name no later than those behind it, equal names are neighbours.
  refine ⟨(ordered.map (·.2)).dedup, ⟨fun candidate => ?_, ?_⟩, ?_⟩
  · rw [List.mem_dedup, List.mem_map]
    constructor
    · rintro ⟨found, among, rfl⟩
      exact ⟨((mem_ordered found).1 among).1, ((mem_ordered found).1 among).2.1⟩
    · rintro ⟨among, near⟩
      exact ⟨(nameDistance name candidate, candidate), (mem_ordered _).2 ⟨among, near, rfl⟩, rfl⟩
  · exact ((weakly.sublist (List.dedup_sublist _)).and (List.nodup_dedup _)).imp
      fun ⟨ahead, different⟩ => ahead.resolve_right different
  · rw [← weakly.destutter_eq_dedup, ← map_dropRepeats, ← List.map_take]
    rfl

/-- What is suggested is the front of the ranks of the near candidates, which are one list, with
each name once. Candidates of the same names, in whatever order and however often, make the same
suggestions. -/
theorem suggest_eq_take_ranks (engine : SuggestionEngine) (name : String)
    (candidates : List String) : ∃ ranked, engine.Ranks name candidates ranked ∧ ranked.Nodup ∧
      (∀ ranked', engine.Ranks name candidates ranked' → ranked' = ranked) ∧
      engine.suggest name candidates = ranked.take engine.maxSuggestions ∧
      ∀ candidates', (∀ candidate, candidate ∈ candidates' ↔ candidate ∈ candidates) →
        engine.suggest name candidates' = engine.suggest name candidates := by
  obtain ⟨ranked, ranks, suggests⟩ := engine.exists_ranks_suggest name candidates
  refine ⟨ranked, ranks, ranks.nodup, fun ranked' ranks' => ranks'.unique ranks fun _ => Iff.rfl,
    suggests, fun candidates' same => ?_⟩
  obtain ⟨ranked', ranks', suggests'⟩ := engine.exists_ranks_suggest name candidates'
  rw [suggests, suggests', ranks'.unique ranks same]

end SuggestionEngine

end PropertyGraph
