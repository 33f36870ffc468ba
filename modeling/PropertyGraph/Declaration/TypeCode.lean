import PropertyGraph.Declaration.Nesting

/-!
# Code of types

Where a type may be written in several ways, its code keeps to one of them. Among the arguments
between angle brackets the lifetimes come first, a quantifier comes before the question mark of its
bound and has no empty bounds, no path separator stands before round brackets, and the members of a
tuple in a row of members are tokens of their own. What an attribute or the call of a macro holds is
not the code of a type and stays as it is.
-/
namespace PropertyGraph.Code

/-- The part, which may have a comma behind it, is a lifetime. -/
def isLifetime : Code → Bool
  | [.mark '\'', .word _] | [.mark '\'', .word _, .mark ','] => true
  | _ => false

/-- A part of a quantifier without the colon of empty bounds. -/
def withoutColon (part : Code) : Code :=
  match part.reverse with
  | .mark ':' :: front => front.reverse
  | .mark ',' :: .mark ':' :: front => front.reverse ++ [.mark ',']
  | _ => part

/-- The members that are written like one number behind a point. -/
def members (written : String) : Code :=
  [Token.mark '.'].intercalate ((Text.parts '.' written).map fun index =>
    if index.isEmpty then [] else [.literal index])

/-- Parts that are left out make the code no longer. -/
theorem length_flatten_filter_le (test : Code → Bool) (parts : List Code) :
    (parts.filter test).flatten.length ≤ parts.flatten.length := by
  induction parts with
  | nil => simp
  | cons part parts ih =>
    by_cases holds : test part
    · simpa [List.filter_cons, holds] using ih
    · simp only [List.filter_cons, holds, List.flatten_cons, List.length_append]
      exact Nat.le_add_left_of_le ih

/-- The code of a type in the form that generated code uses. -/
def settled (code : Code) : Code :=
  match code with
  | .mark '#' :: .bracket '[' :: rest =>
    let halves := cutEnclosed rest
    .mark '#' :: .bracket '[' :: halves.1 ++ settled halves.2
  | .word name :: .mark '!' :: bracket :: rest =>
    if isOpening bracket && !keywords.contains name then
      let halves := cutEnclosed rest
      .word name :: .mark '!' :: bracket :: halves.1 ++ settled halves.2
    else
      .word name :: settled (.mark '!' :: bracket :: rest)
  | .mark '?' :: .word "for" :: .mark '<' :: rest =>
    let halves := cut (Token.isMark '>') rest
    .word "for" :: .mark '<' :: (parts halves.1).flatMap withoutColon ++ halves.2.take 1 ++
      .mark '?' :: settled (halves.2.drop 1)
  | .word "for" :: .mark '<' :: rest =>
    let halves := cut (Token.isMark '>') rest
    .word "for" :: .mark '<' :: (parts halves.1).flatMap withoutColon ++ settled halves.2
  | .mark ':' :: .mark ':' :: .bracket '(' :: rest => .bracket '(' :: settled rest
  | .mark '.' :: .mark '.' :: rest => .mark '.' :: .mark '.' :: settled rest
  | .mark '.' :: .literal written :: rest => .mark '.' :: members written ++ settled rest
  | .mark '<' :: rest =>
    let halves := cut (Token.isMark '>') rest
    if halves.2.head?.any (Token.isMark '>') then
      let lifetimes := (parts halves.1).filter isLifetime
      let others := (parts halves.1).filter (!isLifetime ·)
      .mark '<' :: joined lifetimes.flatten (settled others.flatten) ++ settled halves.2
    else
      .mark '<' :: settled rest
  | token :: rest => token :: settled rest
  | [] => []
termination_by code.length
decreasing_by
  all_goals
    have enclosed := length_cut (fun _ => false) rest
    have angled := length_cut (Token.isMark '>') rest
    have kept := length_flatten_filter_le (!isLifetime ·) (parts (cut (Token.isMark '>') rest).1)
    rw [flatten_parts] at kept
    simp only [cutEnclosed, List.length_cons, List.length_drop]
    omega

end PropertyGraph.Code
