/-!
# Types by reference

A bean or enum type is known by its path, the names of the modules around it and its own name
joined by `::`, with the arguments of a generic type behind it in angle brackets. Two types may
share a path; a serial number tells these apart.
-/
namespace PropertyGraph

/-- A reference to a type. -/
structure TypeRef where
  /-- The full path, arguments included. -/
  path : String
  /-- Tells types of one path apart. -/
  serial : Nat := 0
deriving DecidableEq, Repr, Inhabited

namespace TypeRef

/-- The names between the double colons of a path. -/
def splitPath : List Char → List (List Char)
  | [] => [[]]
  | ':' :: ':' :: rest => [] :: splitPath rest
  | char :: rest =>
    match splitPath rest with
    | [] => [[char]]
    | name :: names => (char :: name) :: names

/-- The names along the path, without the arguments of a generic type. -/
def names (type : TypeRef) : List String :=
  (splitPath (type.path.toList.takeWhile (· != '<'))).map String.ofList

/-- The name of the type without its modules. -/
def ident (type : TypeRef) : String :=
  type.names.getLast?.getD ""

/-- The path of the module that holds the type; empty for a primitive type. -/
def modulePath (type : TypeRef) : String :=
  "::".intercalate type.names.dropLast

/-- The outermost module; empty for a primitive type. -/
def crateName (type : TypeRef) : String :=
  type.names.dropLast.head?.getD ""

end TypeRef

end PropertyGraph
