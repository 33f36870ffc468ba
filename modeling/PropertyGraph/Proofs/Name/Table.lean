import Mathlib.Data.List.Induction
import Mathlib.Data.List.Nodup
import PropertyGraph.Name.Table

/-!
# Filling tables

Entries that are put into a table under names of their own come behind each other, as they are, and
each of them is found under its name. Where names are repeated, a table that is filled from the
start has each name once, in the order in which the names came first, and under each the entry that
came last. Leaving a name out of what fills the table leaves it out of the table.
-/
namespace PropertyGraph.NameTable

variable {α : Type} {table entries : NameTable α} {name : String} {entry : α}

/-- An entry under a new name comes behind all others. -/
theorem put_of_lacks (missing : name ∉ table.map (·.1)) :
    table.put name entry = table ++ [(name, entry)] := by
  induction table with
  | nil => rfl
  | cons head rest ih =>
    obtain ⟨first, old⟩ := head
    rw [List.map_cons, List.mem_cons, not_or] at missing
    rw [put, if_neg (Ne.symm missing.1), ih missing.2, List.cons_append]

/-- Entries under new names come behind all others, in order. -/
theorem foldl_put (distinct : ((table ++ entries).map (·.1)).Nodup) :
    entries.foldl (fun table entry => table.put entry.1 entry.2) table = table ++ entries := by
  induction entries generalizing table with
  | nil => rw [List.foldl_nil, List.append_nil]
  | cons head rest ih =>
    have missing : head.1 ∉ table.map (·.1) := by
      rw [List.map_append, List.map_cons] at distinct
      exact fun among => (List.nodup_append.1 distinct).2.2 _ among _ List.mem_cons_self rfl
    rw [List.append_cons] at distinct
    rw [List.foldl_cons, put_of_lacks missing, ih distinct, ← List.append_cons]

/-- An entry of a table with names of their own is found under its name. -/
theorem lookup_of_mem (distinct : (table.map (·.1)).Nodup) (among : (name, entry) ∈ table) :
    table.lookup name = some entry := by
  induction table with
  | nil => cases among
  | cons head rest ih =>
    obtain ⟨first, old⟩ := head
    rw [List.map_cons, List.nodup_cons] at distinct
    rcases List.mem_cons.1 among with same | behind
    · obtain ⟨rfl, rfl⟩ := Prod.mk.inj same
      rw [List.lookup_cons_self]
    · have different : name ≠ first := by
        rintro rfl
        exact distinct.1 (List.mem_map_of_mem (f := (·.1)) behind)
      rw [List.lookup_cons, beq_false_of_ne different]
      exact ih distinct.2 behind

/-- Nothing is found under a name that no entry has. -/
theorem lookup_of_lacks (missing : name ∉ table.map (·.1)) : table.lookup name = none := by
  rw [List.lookup_eq_none_iff]
  intro head among
  exact bne_iff_ne.2 fun same => missing (same ▸ List.mem_map_of_mem (f := (·.1)) among)

/-! ## Repeated names -/

/-- The table that entries fill one after the other, their names repeated or not. -/
def filled (entries : NameTable α) : NameTable α :=
  entries.foldl (fun table entry => table.put entry.1 entry.2) []

/-- The last of the entries that have a name. -/
def last? (entries : NameTable α) (name : String) : Option α :=
  (entries.filter (·.1 == name)).getLast?.map (·.2)

/-- The last entry is put into the table that the others fill. -/
theorem filled_concat (entries : NameTable α) (entry : String × α) :
    filled (entries ++ [entry]) = (filled entries).put entry.1 entry.2 := by
  rw [filled, List.foldl_append, List.foldl_cons, List.foldl_nil, filled]

/-- The last entry is the last of its name. -/
theorem last?_concat (entries : NameTable α) (entry : String × α) (name : String) :
    last? (entries ++ [entry]) name =
      if name = entry.1 then some entry.2 else last? entries name := by
  by_cases same : name = entry.1
  · simp [last?, same]
  · simp [last?, same, Ne.symm same]

/-- A name that is there stays in its place; a new one comes behind all others. -/
theorem names_put (table : NameTable α) (name : String) (entry : α) :
    (table.put name entry).map (·.1) =
      if name ∈ table.map (·.1) then table.map (·.1) else table.map (·.1) ++ [name] := by
  induction table with
  | nil => simp [put]
  | cons head rest ih =>
    obtain ⟨first, old⟩ := head
    by_cases found : first = name
    · simp [put, found]
    · by_cases among : name ∈ rest.map (·.1) <;> simp_all [put, Ne.symm found]

/-- The names come in the order in which each of them came first. -/
theorem names_filled (entries : NameTable α) :
    (filled entries).map (·.1) = (entries.map (·.1)).eraseDups := by
  induction entries using List.reverseRecOn with
  | nil => rfl
  | append_singleton entries entry ih =>
    have among : entry.1 ∈ (entries.map (·.1)).eraseDups ↔ entry.1 ∈ entries.map (·.1) :=
      List.mem_eraseDups
    rw [filled_concat, names_put, ih, List.map_append, List.eraseDups_append]
    by_cases known : entry.1 ∈ entries.map (·.1)
    · rw [if_pos (among.2 known)]
      simp [List.removeAll, known]
    · rw [if_neg (mt among.1 known)]
      simp [List.removeAll, known, List.eraseDups_cons]

/-- A put leaves the names of a table different. -/
theorem nodup_put (distinct : (table.map (·.1)).Nodup) :
    ((table.put name entry).map (·.1)).Nodup := by
  rw [names_put]
  split
  · exact distinct
  · next missing => exact List.nodup_append_comm.1 (List.nodup_cons.2 ⟨missing, distinct⟩)

/-- A table that is filled from the start has different names. -/
theorem nodup_names_filled (entries : NameTable α) : ((filled entries).map (·.1)).Nodup := by
  induction entries using List.reverseRecOn with
  | nil => exact List.nodup_nil
  | append_singleton entries entry ih =>
    rw [filled_concat]
    exact nodup_put ih

/-- What is in the table was among the entries. -/
theorem mem_filled {entries : NameTable α} {found : String × α} (among : found ∈ filled entries) :
    found ∈ entries := by
  have kept : ∀ {table : NameTable α} {name : String} {entry : α},
      found ∈ table.put name entry → found ∈ table ∨ found = (name, entry) := by
    intro table name entry among
    induction table with
    | nil => exact .inr (List.mem_singleton.1 among)
    | cons head rest ih =>
      rw [put] at among
      split at among <;> grind
  induction entries using List.reverseRecOn with
  | nil => exact among
  | append_singleton entries entry ih =>
    rw [filled_concat] at among
    rw [List.mem_append, List.mem_singleton]
    exact (kept among).imp_left ih

/-- Under each name stands the entry that came last. -/
theorem lookup_filled (entries : NameTable α) (name : String) :
    (filled entries).lookup name = last? entries name := by
  induction entries using List.reverseRecOn with
  | nil => rfl
  | append_singleton entries entry ih => rw [filled_concat, lookup_put, last?_concat, ih]

/-- A put and the removal of a name change places, unless the name is the one that is put. -/
theorem filter_put (table : NameTable α) (other : String) (entry : α) (name : String) :
    (table.put other entry).filter (·.1 != name) =
      if other = name then table.filter (·.1 != name)
      else put (table.filter (·.1 != name)) other entry := by
  induction table with
  | nil => by_cases same : other = name <;> simp [put, same]
  | cons head rest ih =>
    obtain ⟨first, old⟩ := head
    by_cases found : first = other
    · by_cases same : other = name <;> simp [put, found, same]
    · by_cases dropped : first = name <;> by_cases same : other = name <;>
        simp_all [put]

/-- Leaving a name out of what fills a table leaves it out of the table. -/
theorem filled_filter (entries : NameTable α) (name : String) :
    filled (entries.filter (·.1 != name)) = (filled entries).filter (·.1 != name) := by
  induction entries using List.reverseRecOn with
  | nil => rfl
  | append_singleton entries entry ih =>
    rw [filled_concat, filter_put, ← ih, List.filter_append]
    by_cases same : entry.1 = name
    · simp [same]
    · simp [same, filled_concat]

/-- Where the names are distinct, an entry goes to the place of its name. -/
theorem put_of_getElem? (distinct : (table.map (·.1)).Nodup) {place : Nat}
    (found : (table.map (·.1))[place]? = some name) :
    table.put name entry = table.set place (name, entry) := by
  induction table generalizing place with
  | nil => simp at found
  | cons head rest ih =>
    obtain ⟨first, old⟩ := head
    rw [List.map_cons, List.nodup_cons] at distinct
    cases place with
    | zero =>
      obtain rfl : first = name := by simpa using found
      simp [put]
    | succ place =>
      rw [List.map_cons, List.getElem?_cons_succ] at found
      have different : first ≠ name := by
        rintro rfl
        exact distinct.1 (List.mem_of_getElem? found)
      rw [put, if_neg different, List.set_cons_succ, ih distinct.2 found]

end PropertyGraph.NameTable
