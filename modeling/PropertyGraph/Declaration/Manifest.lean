import PropertyGraph.Name.Table

/-!
# Manifests and the paths of crates

A manifest lists the crates that a crate depends on. Code that is made for a crate reaches another
one by a path: its own name if the crate depends on it, or a module of the facade if the crate
depends on that alone. The dependencies come before those for development; without any, the name is
the path. Only a table with a header counts as a table of dependencies.
-/
namespace PropertyGraph

/-- What stands under a key of a manifest. -/
inductive ManifestItem where
  /-- A value other than a table. -/
  | value
  /-- A table between braces behind its key. -/
  | inlineTable (entries : List (String × ManifestItem))
  /-- A table with a header, or made by keys with points in them. -/
  | table (entries : List (String × ManifestItem))
deriving Inhabited

/-- A manifest: what stands under its keys. -/
structure Manifest where
  /-- The items by key, each key once. -/
  items : NameTable ManifestItem := []
deriving Inhabited

namespace ManifestItem

/-- The entries of a table with a header. -/
def headed? : ManifestItem → Option (NameTable ManifestItem)
  | table entries => some entries
  | _ => none

end ManifestItem

namespace Manifest

/-- Adds keys with values to the table at a path of headers. -/
def extend (items : NameTable ManifestItem) (names : List String) :
    List String → NameTable ManifestItem
  | [] => names.foldl (fun items name => items.put name .value) items
  | key :: path =>
    let inner := ((items.lookup key).bind ManifestItem.headed?).getD []
    items.put key (.table (extend inner names path))

/-- Adds a table at a path of headers that has some keys with values. -/
def withTable (manifest : Manifest) (path : List String) (names : List String) : Manifest :=
  ⟨extend manifest.items names path⟩

/-- The facade crate. -/
def facade : String := "vc_bean"

/-- The characters that the names of crates behind the facade begin with. -/
def familyMark : List Char := "vc_".toList

/-- The name of the module that stands for a crate in the facade. -/
def facadeModule? (name : String) : Option String :=
  if familyMark.isPrefixOf name.toList then
    some (String.ofList (name.toList.drop familyMark.length))
  else
    none

/-- The path of a crate under the dependencies of a table. -/
def pathIn? (dependencies : NameTable ManifestItem) (name : String) : Option (List String) :=
  if (dependencies.lookup name).isSome then some [name]
  else
    (facadeModule? name).bind fun inside =>
      if (dependencies.lookup facade).isSome then some [facade, inside] else none

/-- The tables of dependencies, in the order in which they are looked at. -/
def dependencyTables : List String := ["dependencies", "dev-dependencies"]

/-- The names along the path of a crate. -/
def cratePath (manifest : Manifest) (name : String) : List String :=
  (dependencyTables.findSome? fun key =>
    ((manifest.items.lookup key).bind ManifestItem.headed?).bind (pathIn? · name)).getD [name]

end Manifest

end PropertyGraph
