import PropertyGraph.Proofs.Graph.Cells

/-!
# Worlds that differ in their records

No getter or setter sees the records of a world. On worlds with the same beans and guards every
reading, writing and making of beans gives the same, and leaves worlds with the same beans and
guards again.
-/
namespace PropertyGraph

/-- The worlds differ in their records at most. -/
structure World.SameGraph (left right : World) : Prop where
  beans : left.beans = right.beans
  guards : left.guards = right.guards

namespace World.SameGraph

variable {left right : World}

/-- A world has the graph of itself. -/
theorem refl (world : World) : world.SameGraph world :=
  ⟨rfl, rfl⟩

/-- Having the same graph goes on from world to world. -/
theorem trans {middle : World} (first : left.SameGraph middle) (second : middle.SameGraph right) :
    left.SameGraph right :=
  ⟨first.beans.trans second.beans, first.guards.trans second.guards⟩

/-- Beans stay what they are when the records change. -/
theorem evolves (same : left.SameGraph right) : right.EvolvesTo [] left where
  guards := same.guards
  has ref has := by
    rw [World.Has, same.beans]
    exact has
  bean ref _ _ := by rw [World.bean, World.bean, same.beans]

/-- Records have no part in the graph. -/
theorem record (same : left.SameGraph right) (entry other : LogRecord) :
    (left.record entry).SameGraph (right.record other) :=
  ⟨same.beans, same.guards⟩

/-- The same bean gets the same place in the same graph. -/
theorem add (same : left.SameGraph right) (bean : Bean) :
    (left.add bean).1 = (right.add bean).1 ∧ (left.add bean).2.SameGraph (right.add bean).2 := by
  obtain ⟨beans, guards⟩ := same
  refine ⟨?_, ?_, guards⟩
  · rw [World.add, World.add, beans]
  · change left.beans.push bean = right.beans.push bean
    rw [beans]

/-- Records have no part in what a bean is. -/
theorem bean (same : left.SameGraph right) (ref : BeanRef) : left.bean ref = right.bean ref := by
  rw [World.bean, World.bean, same.beans]

/-- A bean is put into the same graph alike. -/
theorem putBean (same : left.SameGraph right) (ref : BeanRef) (bean : Bean) :
    (left.putBean ref bean).SameGraph (right.putBean ref bean) := by
  refine ⟨?_, same.guards⟩
  change left.beans.setIfInBounds ref.index bean = right.beans.setIfInBounds ref.index bean
  rw [same.beans]

/-- A property is read of the same graph alike. -/
theorem read (same : left.SameGraph right) (ref : BeanRef) (info : PropertyInfo) :
    (left.read ref info).1 = (right.read ref info).1 ∧
      (left.read ref info).2.SameGraph (right.read ref info).2 := by
  have held : left.isHeldExclusively ref = right.isHeldExclusively ref := by
    rw [World.isHeldExclusively, World.isHeldExclusively, same.guards]
  unfold World.read
  rw [held, same.bean ref]
  split
  · exact ⟨rfl, same⟩
  · exact ⟨rfl, same.putBean ref _⟩

/-- A property is written in the same graph alike. -/
theorem write (same : left.SameGraph right) (ref : BeanRef) (info : PropertyInfo) (value : Value) :
    (left.write ref info value).1 = (right.write ref info value).1 ∧
      (left.write ref info value).2.SameGraph (right.write ref info value).2 := by
  have held : left.isHeld ref = right.isHeld ref := by
    rw [World.isHeld, World.isHeld, same.guards]
  unfold World.write
  rw [held, same.bean ref]
  split
  · exact ⟨rfl, same⟩
  · exact ⟨rfl, same.putBean ref _⟩

end World.SameGraph

end PropertyGraph
