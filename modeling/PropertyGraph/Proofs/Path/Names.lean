import PropertyGraph.Proofs.Path.Grammar

/-!
# Names in paths

A text is read as a path of one name if it is not empty and holds no point and no bracket. These
texts are also all the names that a path that was read can have.
-/
namespace PropertyGraph.PropertyPath

/-- The text can stand as a name in a path. -/
def isPlainName (label : String) : Bool :=
  !label.toList.isEmpty && label.toList.all (!endsName ·)

/-- A plain name has characters, and none of them is a point or a bracket. -/
theorem isPlainName_iff {label : String} :
    isPlainName label = true ↔ label.toList ≠ [] ∧
      ∀ char ∈ label.toList, char ≠ '.' ∧ char ≠ '[' ∧ char ≠ ']' := by
  simp [isPlainName, endsName, and_assoc]

/-- Every name of a path that was read can stand as a name in a path. -/
theorem isPlainName_of_parse {text label : String} {path : PropertyPath}
    (read : parse text = .ok path) (among : .name label ∈ path.segments) :
    isPlainName label = true := by
  obtain ⟨derivation, rfl⟩ := Derivation.exists_of_parse read
  have written : .name label ∈ (derivation.first :: derivation.later).map Spelling.segment := among
  obtain ⟨spelling, -, isName⟩ := List.mem_map.1 written
  cases spelling with
  | name chars nonempty plain =>
    obtain rfl := Segment.name.inj isName
    exact isPlainName_iff.2 (by simpa using ⟨nonempty, plain⟩)
  | bareKey => simp [Spelling.segment] at isName
  | quotedKey => simp [Spelling.segment] at isName

/-- A text that can stand as a name is read as the path of that name alone. -/
theorem parse_of_isPlainName {label : String} (plain : isPlainName label = true) :
    parse label = .ok ⟨.name label, []⟩ := by
  obtain ⟨nonempty, within⟩ := isPlainName_iff.1 plain
  let derivation : Derivation label :=
    ⟨.name label.toList nonempty within, [], by simp [Spelling.chars]⟩
  have read := derivation.parse_eq
  rwa [Derivation.path, Spelling.segment, String.ofList_toList] at read

end PropertyGraph.PropertyPath
