import Mathlib.Data.List.Forall2

/-!
# Results

When a computation that may fail succeeds, and how it fails. Each step of it is taken apart by one
equivalence: it succeeds exactly if what it is made of does.
-/
namespace PropertyGraph

section

variable {α β ε ε' : Type}

/-- A changed outcome succeeds with the change of a success. -/
theorem map_eq_ok_iff {change : α → β} {outcome : Except ε α} {result : β} :
    outcome.map change = .ok result ↔ ∃ value, outcome = .ok value ∧ change value = result := by
  cases outcome <;> simp [Except.map]

/-- A changed outcome fails as the outcome does. -/
theorem map_eq_error_iff {change : α → β} {outcome : Except ε α} {cause : ε} :
    outcome.map change = .error cause ↔ outcome = .error cause := by
  cases outcome <;> simp [Except.map]

/-- A sequence of outcomes succeeds exactly if both do. -/
theorem bind_eq_ok_iff {outcome : Except ε α} {next : α → Except ε β} {result : β} :
    outcome.bind next = .ok result ↔ ∃ value, outcome = .ok value ∧ next value = .ok result := by
  cases outcome <;> simp [Except.bind]

/-- A change of the error leaves the successes. -/
theorem mapError_eq_ok_iff {change : ε → ε'} {outcome : Except ε α} {result : α} :
    outcome.mapError change = .ok result ↔ outcome = .ok result := by
  cases outcome with
  | error error => exact iff_of_false nofun nofun
  | ok value =>
    constructor
    · rintro ⟨⟩
      rfl
    · rintro ⟨⟩
      rfl

/-- A sequence of outcomes fails with the first that fails. -/
theorem bind_eq_error_iff {outcome : Except ε α} {next : α → Except ε β} {cause : ε} :
    outcome.bind next = .error cause ↔
      outcome = .error cause ∨ ∃ value, outcome = .ok value ∧ next value = .error cause := by
  cases outcome <;> simp [Except.bind]

/-- A change of the error changes the failures. -/
theorem mapError_eq_error_iff {change : ε → ε'} {outcome : Except ε α} {cause : ε'} :
    outcome.mapError change = .error cause ↔
      ∃ first, outcome = .error first ∧ change first = cause := by
  cases outcome with
  | error error => simp [Except.mapError]
  | ok value => simp [Except.mapError]

/-- A row is worked through exactly if each of its items is, in order. -/
theorem mapM_eq_ok_iff (take : α → Except ε β) (items : List α) (contents : List β) :
    items.mapM take = .ok contents ↔
      List.Forall₂ (fun item content => take item = .ok content) items contents := by
  induction items generalizing contents with
  | nil => cases contents <;> simp [pure, Except.pure]
  | cons item items ih =>
    rw [List.mapM_cons]
    cases first : take item with
    | error cause => cases contents <;> simp [bind, Except.bind, first]
    | ok content =>
      cases others : items.mapM take with
      | error cause => cases contents <;> simp [bind, Except.bind, first, others, ← ih]
      | ok rest =>
        cases contents <;> simp [bind, Except.bind, pure, Except.pure, first, others, ← ih]

/-- A row fails at the first of its items that fails, and the items before it do not. -/
theorem mapM_eq_error_iff (take : α → Except ε β) (items : List α) (cause : ε) :
    items.mapM take = .error cause ↔ ∃ before item after, items = before ++ item :: after ∧
      (∀ other ∈ before, ∃ content, take other = .ok content) ∧ take item = .error cause := by
  induction items with
  | nil => simp [pure, Except.pure]
  | cons first rest ih =>
    rw [List.mapM_cons]
    cases begun : take first with
    | error failure =>
      constructor
      · rintro ⟨⟩
        exact ⟨[], first, rest, rfl, by simp, begun⟩
      · rintro ⟨before, item, after, same, succeed, fails⟩
        cases before with
        | nil =>
          obtain ⟨rfl, rfl⟩ := List.cons.inj same
          obtain rfl : failure = cause := Except.error.inj (begun.symm.trans fails)
          rfl
        | cons other before =>
          obtain ⟨rfl, -⟩ := List.cons.inj same
          obtain ⟨content, took⟩ := succeed first List.mem_cons_self
          simp [begun] at took
    | ok content =>
      have onward : (do let others ← rest.mapM take; pure (content :: others)) = .error cause ↔
          rest.mapM take = .error cause := by
        cases rest.mapM take <;> simp [bind, Except.bind, pure, Except.pure]
      change (do let others ← rest.mapM take; pure (content :: others)) = .error cause ↔ _
      rw [onward, ih]
      constructor
      · rintro ⟨before, item, after, rfl, succeed, fails⟩
        refine ⟨first :: before, item, after, rfl, ?_, fails⟩
        exact List.forall_mem_cons.2 ⟨⟨content, begun⟩, succeed⟩
      · rintro ⟨before, item, after, same, succeed, fails⟩
        cases before with
        | nil =>
          obtain ⟨rfl, rfl⟩ := List.cons.inj same
          simp [begun] at fails
        | cons other before =>
          obtain ⟨rfl, rfl⟩ := List.cons.inj same
          exact ⟨before, item, after, rfl, (List.forall_mem_cons.1 succeed).2, fails⟩

/-- Where every item is taken, the whole list is. -/
theorem exists_mapM {take : α → Except ε β} {items : List α}
    (each : ∀ item ∈ items, ∃ content, take item = .ok content) :
    ∃ contents, items.mapM take = .ok contents := by
  induction items with
  | nil => exact ⟨[], rfl⟩
  | cons item rest ih =>
    obtain ⟨content, first⟩ := each item List.mem_cons_self
    obtain ⟨contents, others⟩ := ih fun other among => each other (List.mem_cons_of_mem _ among)
    exact ⟨content :: contents, (mapM_eq_ok_iff _ _ _).2
      (.cons first ((mapM_eq_ok_iff _ _ _).1 others))⟩

/-- What each item of a row tells of its step is told of the whole row. -/
theorem tells_of_foldlM {step : β → α → Except ε β} (tells : β → List α → β → Prop)
    (none : ∀ state, tells state [] state)
    (more : ∀ state item next items last, step state item = .ok next → tells next items last →
      tells state (item :: items) last)
    {state last : β} {items : List α} (done : items.foldlM step state = .ok last) :
    tells state items last := by
  induction items generalizing state with
  | nil =>
    cases done
    exact none _
  | cons item items ih =>
    rw [List.foldlM_cons] at done
    obtain ⟨next, first, rest⟩ := bind_eq_ok_iff.1 done
    exact more state item next items last first (ih rest)

end

end PropertyGraph
