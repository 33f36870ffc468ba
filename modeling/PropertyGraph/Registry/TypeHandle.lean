import PropertyGraph.Registry.TypeMeta

/-!
# Type handles

The bean that stands for a bean type. It shows the path of the type, its name, its module and the
outermost module, and nothing of it can be written.
-/
namespace PropertyGraph.TypeHandle

/-- The type of type handles. -/
def type : TypeRef := { path := "vc_property::meta::TypeHandle" }

/-- The properties of a type handle, each with what it shows of the type. -/
def texts : List (String × (TypeRef → String)) :=
  [("name", TypeRef.path), ("simpleName", TypeRef.ident), ("module", TypeRef.modulePath),
   ("crate", TypeRef.crateName)]

/-- The handle of a type. -/
def bean (described : TypeRef) : Bean where
  type := type
  fields := texts.map fun (name, text) => (name, ⟨.text, text described⟩)

/-- The properties of type handles. -/
def typeMeta : TypeMeta :=
  texts.foldl (fun table (name, _) =>
    table.insertProperty
      { name := name, type := .text, getter? := some (.ofField type name) })
    { type := type }

end PropertyGraph.TypeHandle
