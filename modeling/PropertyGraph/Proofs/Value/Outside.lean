import PropertyGraph.Proofs.Value.Keys

/-!
# Values that agree off a row of keys

Two collections of the same kind, in as many optionals, agree but for a key if lists have the same
length and every element or entry that the key does not lead to is the same. They agree off a row of
keys if this goes on at the element or entry of every key but the last, which both of them have.
-/
namespace PropertyGraph

namespace Value

/-- The values are collections that are the same but for the element or entry of a key. -/
inductive AgreesBut : Segment → Value → Value → Prop
  | list (key : String) (quoted : Bool) (index : Nat) (items others : List Value) :
    Accessor.listIndex? key = some index → others.length = items.length →
    (∀ place, place ≠ index → others[place]? = items[place]?) →
    AgreesBut (.key key quoted) (.list items) (.list others)
  | map (key : String) (quoted : Bool) (entries others : List (String × Value)) :
    (∀ name, name ≠ key → Entries.find? name others = Entries.find? name entries) →
    AgreesBut (.key key quoted) (.map entries) (.map others)
  | optSome (segment : Segment) (content other : Value) :
    AgreesBut segment content other → AgreesBut segment (.optSome content) (.optSome other)

/-- The values are the same but for what lies on a row of keys. -/
def AgreesOff : List Segment → Value → Value → Prop
  | [], _, _ => True
  | segment :: later, value, other =>
    AgreesBut segment value other ∧ (later = [] ∨ ∃ slot slot',
      value.slot? segment = some slot ∧ other.slot? segment = some slot' ∧
        AgreesOff later slot slot')

variable {value other : Value} {segment : Segment}

/-- Optionals around both values leave them in agreement. -/
theorem AgreesBut.wrap (agrees : AgreesBut segment value other) (depth : Nat) :
    AgreesBut segment (value.wrap depth) (other.wrap depth) := by
  induction depth with
  | zero => exact agrees
  | succ depth ih => exact .optSome segment _ _ ih

/-- What has a counterpart is itself one. -/
theorem AgreesBut.left (agrees : AgreesBut segment value other) :
    AgreesBut segment value value := by
  induction agrees with
  | list key quoted index items others isIndex _ _ =>
    exact .list key quoted index items items isIndex rfl fun _ _ => rfl
  | map key quoted entries others _ => exact .map key quoted entries entries fun _ _ => rfl
  | optSome segment content other _ ih => exact .optSome segment content content ih

/-- A value that agrees with another off some keys agrees with itself there. -/
theorem AgreesOff.left {keys : List Segment} (agrees : AgreesOff keys value other) :
    AgreesOff keys value value := by
  induction keys generalizing value other with
  | nil => trivial
  | cons segment later ih =>
    obtain ⟨here, rfl | ⟨slot, _, found, -, further⟩⟩ := agrees
    · exact ⟨here.left, .inl rfl⟩
    · exact ⟨here.left, .inr ⟨slot, slot, found, found, ih further⟩⟩

end Value

end PropertyGraph
