/-!
# Property paths

A path leads from a bean to a property or to an element of a collection. It has one segment or
more: a name is looked up on a bean, a key is an index into a list or a key of a map. Written down,
a name stands behind a point unless it comes first, and a key stands between brackets. A quoted key
may hold points and brackets; it is written between apostrophes, or between double quotes if it
holds an apostrophe.
-/
namespace PropertyGraph

/-- One step of a path. -/
inductive Segment where
  /-- A property of a bean. -/
  | name (label : String)
  /-- An element of a list or an entry of a map. -/
  | key (label : String) (isQuoted : Bool)
deriving DecidableEq, Repr, Inhabited

namespace Segment

/-- The segment is a name. -/
def isName : Segment → Bool
  | name _ => true
  | key _ _ => false

/-- The quote around a quoted key. -/
def quoteOf (key : List Char) : Char :=
  if key.contains '\'' then '"' else '\''

/-- The characters of a segment as it is written. -/
def chars : Segment → List Char
  | name label => label.toList
  | key label false => '[' :: label.toList ++ [']']
  | key label true =>
    '[' :: quoteOf label.toList :: label.toList ++ [quoteOf label.toList, ']']

/-- The segment as it is written. -/
def text (segment : Segment) : String :=
  String.ofList segment.chars

/-- The characters of a segment behind another one. -/
def laterChars (segment : Segment) : List Char :=
  if segment.isName then '.' :: segment.chars else segment.chars

/-- The characters of a row of segments. -/
def renderChars : List Segment → List Char
  | [] => []
  | first :: later => first.chars ++ later.flatMap laterChars

/-- A row of segments as it is written. -/
def render (segments : List Segment) : String :=
  String.ofList (renderChars segments)

end Segment

/-- A path of one segment or more. -/
structure PropertyPath where
  /-- The segment that is resolved on the root. -/
  first : Segment
  /-- The segments behind it. -/
  later : List Segment
deriving DecidableEq, Repr, Inhabited

namespace PropertyPath

/-- The segments in order. -/
def segments (path : PropertyPath) : List Segment :=
  path.first :: path.later

/-- Number of segments. -/
def length (path : PropertyPath) : Nat :=
  path.segments.length

/-- The path as it is written. -/
def text (path : PropertyPath) : String :=
  Segment.render path.segments

/-- The first segments of the path as they are written. -/
def front (path : PropertyPath) (count : Nat) : String :=
  Segment.render (path.segments.take count)

end PropertyPath

end PropertyGraph
