import PropertyGraph.Declaration.TypeCode

/-!
# Parameters of a generic type

The parameters of a type between angle brackets and the demands on them behind `where`. Code about
the type needs the parameters in two forms: declared, with their attributes and bounds and without
defaults; and applied, by their names alone. Lifetimes come first in both, and a comma behind a
parameter stays with it.
-/
namespace PropertyGraph

/-- The kind of a parameter. -/
inductive ParameterKind where
  | lifetime
  | constant
  | type
deriving DecidableEq, Repr

/-- A parameter of a generic type. -/
structure Parameter where
  /-- The attributes. -/
  attributes : Code
  /-- The kind of the parameter. -/
  kind : ParameterKind
  /-- The name, with its apostrophe if it has one. -/
  name : Code
  /-- The bounds, or the type of a constant. -/
  bounds : Code
  /-- A comma follows. -/
  hasComma : Bool
deriving DecidableEq, Repr

/-- The parameters of a type and the demands on them. -/
structure Generics where
  /-- The parameters in order. -/
  parameters : List Parameter := []
  /-- The demands behind `where`. -/
  demands : Code := []
deriving DecidableEq, Repr, Inhabited

namespace Parameter

/-- Splits the attributes off the front of a parameter. -/
def splitAttributes (code : Code) : Code × Code :=
  match code with
  | .mark '#' :: .bracket '[' :: rest =>
    match found : Code.cutEnclosed rest with
    | (inside, closing :: rest') =>
      have : rest'.length < (Token.mark '#' :: .bracket '[' :: rest).length := by
        have := Code.length_cut (fun _ => false) rest
        rw [← Code.cutEnclosed, found] at this
        simp only [List.length_cons] at this ⊢
        omega
      let (later, back) := splitAttributes rest'
      (.mark '#' :: .bracket '[' :: inside ++ closing :: later, back)
    | (inside, []) => (.mark '#' :: .bracket '[' :: inside, [])
  | code => ([], code)
termination_by code.length
decreasing_by exact this

/-- The name of a parameter and the tokens behind it. -/
def splitName : Code → ParameterKind × Code × Code
  | .mark '\'' :: name :: rest => (.lifetime, [.mark '\'', name], rest)
  | .word "const" :: name :: rest => (.constant, [name], rest)
  | name :: rest => (.type, [name], rest)
  | [] => (.type, [], [])

/-- Reads a parameter with the comma behind it. What is behind an equals sign is its default. -/
def read (code : Code) : Parameter :=
  let hasComma := code.getLast?.any (Token.isMark ',')
  let written := if hasComma then code.dropLast else code
  let (attributes, rest) := splitAttributes (Code.cut (Token.isMark '=') written).1
  let (kind, name, rest) := splitName rest
  ⟨attributes, kind, name, Code.settled (rest.drop 1), hasComma⟩

/-- The comma behind the parameter. -/
def comma (parameter : Parameter) : Code :=
  if parameter.hasComma then [.mark ','] else []

/-- The parameter as it is declared. -/
def declared (parameter : Parameter) : Code :=
  parameter.attributes ++ (if parameter.kind = .constant then [.word "const"] else []) ++
    parameter.name ++ (if parameter.bounds.isEmpty then [] else .mark ':' :: parameter.bounds) ++
    parameter.comma

/-- The parameter as it is applied. -/
def applied (parameter : Parameter) : Code :=
  parameter.name ++ parameter.comma

end Parameter

namespace Generics

/-- Reads what stands between the name of a type and its fields. -/
def read (code : Code) : Generics :=
  let (parameters, rest) :=
    match code with
    | .mark '<' :: inside =>
      let (front, back) := Code.cut (Token.isMark '>') inside
      ((Code.parts front).map Parameter.read, back.drop 1)
    | code => ([], code)
  ⟨parameters, Code.settled (rest.drop 1)⟩

/-- The type has parameters. -/
def isGeneric (generics : Generics) : Bool :=
  !generics.parameters.isEmpty

/-- Parameters in a form, between angle brackets and lifetimes first. -/
def angled (generics : Generics) (form : Parameter → Code) : Code :=
  if generics.isGeneric then
    let (lifetimes, others) := generics.parameters.partition (·.kind = .lifetime)
    .mark '<' :: Code.joined (lifetimes.flatMap form) (others.flatMap form) ++ [.mark '>']
  else
    []

/-- The parameters as they are declared. -/
def declared (generics : Generics) : Code :=
  generics.angled Parameter.declared

/-- The parameters as they are applied. -/
def applied (generics : Generics) : Code :=
  generics.angled Parameter.applied

/-- The demands with one more. -/
def whereWith (generics : Generics) (demand : Code) : Code :=
  .word "where" :: Code.joined generics.demands demand

end Generics

end PropertyGraph
