import PropertyGraph.Number.Binary
import PropertyGraph.TypeRef

/-!
# Values

The values that are read from and written to properties. `null` stands for absence; an optional is
a container of at most one value, so that an empty optional is absent too and an optional may
itself hold an optional. A bean is held by reference: two references are equal exactly when they
lead to the same bean. The entries of a map are kept in the order of their keys.
-/
namespace PropertyGraph

/-- A reference to a bean of the graph. -/
structure BeanRef where
  /-- Place of the bean in the graph. -/
  index : Nat
  /-- Type of the bean, which never changes. -/
  type : TypeRef
deriving DecidableEq, Repr, Inhabited

/-- A value of a property. -/
inductive Value where
  /-- No value. -/
  | null
  | bool (flag : Bool)
  | int (number : Int)
  | float (number : Double)
  | char (character : Char)
  | text (content : String)
  /-- A variant of an enum type, by its name. -/
  | enum (type : TypeRef) (variant : String)
  | list (items : List Value)
  /-- Entries in the order of their keys. -/
  | map (entries : List (String × Value))
  /-- An empty optional. -/
  | optNone
  /-- An optional that holds a value. -/
  | optSome (content : Value)
  | bean (ref : BeanRef)
deriving Inhabited

/-- The kind of a value: which constructor it has, with one kind for all optionals. -/
inductive ValueKind where
  | null | bool | int | float | char | text | enum | list | map | optional | bean
deriving DecidableEq, Repr

namespace ValueKind

/-- Every kind. -/
def all : List ValueKind :=
  [null, bool, int, float, char, text, enum, list, map, optional, bean]

/-- The name of the kind in messages. -/
def name : ValueKind → String
  | null => "null"
  | bool => "bool"
  | int => "integer"
  | float => "float"
  | char => "char"
  | text => "text"
  | enum => "enum"
  | list => "list"
  | map => "map"
  | optional => "optional"
  | bean => "bean"

/-- The kind of a name. -/
def ofName? (name : String) : Option ValueKind :=
  all.find? (·.name == name)

end ValueKind

namespace Value

/-- The kind of the value. -/
def kind : Value → ValueKind
  | null => .null
  | bool _ => .bool
  | int _ => .int
  | float _ => .float
  | char _ => .char
  | text _ => .text
  | enum _ _ => .enum
  | list _ => .list
  | map _ => .map
  | optNone | optSome _ => .optional
  | bean _ => .bean

/-- The value is `null` or an empty optional. -/
def isAbsent : Value → Bool
  | null | optNone => true
  | _ => false

/-- The value inside all optionals, unless it is absent. -/
def present? : Value → Option Value
  | null | optNone => none
  | optSome content => content.present?
  | value => some value

/-- The value inside all optionals, or `null` where that is absent. -/
def unwrapped (value : Value) : Value :=
  value.present?.getD null

/-- How many optionals are around the value, each with a content. -/
def depth : Value → Nat
  | optSome content => content.depth + 1
  | _ => 0

/-- The value inside as many optionals as have a content. -/
def core : Value → Value
  | optSome content => content.core
  | value => value

/-- The value inside a number of optionals. -/
def wrap (value : Value) : Nat → Value
  | 0 => value
  | depth + 1 => optSome (value.wrap depth)

/-- The bean, if the value is one. -/
def bean? : Value → Option BeanRef
  | bean ref => some ref
  | _ => none

/-- The text, if the value is one. -/
def text? : Value → Option String
  | text content => some content
  | _ => none

/-- The integer, if the value is one. -/
def int? : Value → Option Int
  | int number => some number
  | _ => none

end Value

/-! ## Entries of a map -/

namespace Entries

variable {α : Type}

/-- The value of a key. -/
def find? (key : String) : List (String × α) → Option α
  | [] => none
  | (name, value) :: rest => if name = key then some value else find? key rest

/-- Puts a value under a key: in place of the key's value, or before the first greater key. -/
def insert (key : String) (value : α) : List (String × α) → List (String × α)
  | [] => [(key, value)]
  | (name, old) :: rest =>
    if name = key then (key, value) :: rest
    else if key < name then (key, value) :: (name, old) :: rest
    else (name, old) :: insert key value rest

/-- The entries of pairs in which a later pair of a key replaces an earlier one. -/
def ofPairs (pairs : List (String × α)) : List (String × α) :=
  pairs.foldl (fun entries (key, value) => insert key value entries) []

end Entries

end PropertyGraph
