import PropertyGraph.Graph.World

/-!
# Labels of beans

Labels tell beans apart in what is shown of them. A bean may have several labels, of which the
first is shown; one that has none gets a number when it is shown for the first time.
-/
namespace PropertyGraph

/-- The labels of beans. -/
structure Labels where
  /-- The labels in the order of their introduction, each once. -/
  entries : List (String × BeanRef) := []
  /-- The number of the next bean without a label. -/
  next : Nat := 1

namespace Labels

/-- The bean of a label. -/
def bean? (labels : Labels) (label : String) : Option BeanRef :=
  labels.entries.lookup label

/-- Gives a bean a label, which loses its old meaning. -/
def introduce (labels : Labels) (label : String) (ref : BeanRef) : Labels :=
  { labels with entries := labels.entries.filter (·.1 != label) ++ [(label, ref)] }

/-- The label under which a bean is shown. -/
def label (labels : Labels) (ref : BeanRef) : String × Labels :=
  match labels.entries.find? (·.2 == ref) with
  | some (label, _) => (label, labels)
  | none =>
    let label := "#" ++ toString labels.next
    (label, ⟨labels.entries ++ [(label, ref)], labels.next + 1⟩)

end Labels

end PropertyGraph
