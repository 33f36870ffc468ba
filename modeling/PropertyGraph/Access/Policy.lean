/-!
# Access to metadata

A policy names the segment that leads from a bean to the handle of its type, and says which
properties of type handles are denied. A denied property is treated as if it did not exist. The
usual policy is a list of denied names.
-/
namespace PropertyGraph

/-- What of a type can be reached from its beans. -/
structure MetaPolicy where
  /-- The segment that leads to the type handle. -/
  segment : String
  /-- The property of type handles is denied. -/
  denies : String → Bool

/-- A policy that denies the names of a list. -/
structure DenyList where
  /-- The segment that leads to the type handle. -/
  segment : String := "class"
  /-- The denied names, each once. -/
  names : List String := ["module", "crate", "classLoader", "package"]
deriving DecidableEq, Repr, Inhabited

namespace DenyList

/-- The policy that denies nothing. -/
def permissive : DenyList := { names := [] }

/-- Denies a name. -/
def deny (denied : DenyList) (name : String) : DenyList :=
  if denied.names.contains name then denied else { denied with names := denied.names ++ [name] }

/-- Denies a name no longer. -/
def allow (denied : DenyList) (name : String) : DenyList :=
  { denied with names := denied.names.filter (· != name) }

/-- The name is denied. -/
def isDenied (denied : DenyList) (name : String) : Bool :=
  denied.names.contains name

/-- The policy of the list. -/
def policy (denied : DenyList) : MetaPolicy :=
  ⟨denied.segment, denied.isDenied⟩

end DenyList

end PropertyGraph
