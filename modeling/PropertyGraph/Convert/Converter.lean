import PropertyGraph.Convert.Error

/-!
# Converting values

A converter brings raw values to declared types. A value that conforms to its target already passes
unchanged, and the elements of a collection are converted one by one. Optionals are seen through:
where the target is an optional, `null` becomes an empty one and a bare value its content; where it
is not, the content of the raw optional is converted. Everything else is left to a coercion, which
is looked up by the kind of the raw value and by the target, first by the type that it names and
then by its kind.

An attempt answers `none` for a value that passes as it is. A coercion may ask for attempts of its
own. To ask for the element type of its target is free, because the target becomes smaller. Any
other question may lead back to where it came from, and coercions that ask for each other without
end have no answer at all. A total function has to give one: such questions count against
`Converter.depth`, and past that bound the answer is `CoercionError.endless`, which stands for the
conversion that does not end. The standard coercions ask for element types alone and never get
there.
-/
namespace PropertyGraph

/-- The outcome of a conversion; `none` if the raw value conforms as it is. -/
abbrev Attempt := Except CoercionError (Option Value)

/-- Answers what a value becomes at a target. -/
abbrev Ask := Value → DeclaredType → Attempt

/-- A rule that makes a value of the target out of a raw value of some kind. -/
abbrev Coercion := Value → DeclaredType → Ask → Except CoercionError Value

/-- What a coercion leads to. -/
inductive CoercionKey where
  /-- Every target of a kind. -/
  | kind (kind : ValueKind)
  /-- One enum or bean type. -/
  | type (type : TypeRef)
deriving DecidableEq, Repr

/-- A table of coercions. -/
structure Converter where
  /-- The coercions, each with the kind that it comes from and the key that it leads to. -/
  coercions : List ((ValueKind × CoercionKey) × Coercion)

namespace Converter

/-- A converter without coercions. -/
def empty : Converter := ⟨[]⟩

/-- The coercion from a kind to a key. -/
def lookup? (converter : Converter) (source : ValueKind) (key : CoercionKey) : Option Coercion :=
  (converter.coercions.find? (·.1 == (source, key))).map (·.2)

/-- There is a coercion from the kind to the key. -/
def contains (converter : Converter) (source : ValueKind) (key : CoercionKey) : Bool :=
  converter.coercions.any (·.1 == (source, key))

/-- Removes the coercion from a kind to a key. -/
def unregister (converter : Converter) (source : ValueKind) (key : CoercionKey) : Converter :=
  ⟨converter.coercions.filter (·.1 != (source, key))⟩

/-- Puts a coercion in place of the one from the same kind to the same key. -/
def register (converter : Converter) (source : ValueKind) (key : CoercionKey)
    (coercion : Coercion) : Converter :=
  ⟨(converter.unregister source key).coercions ++ [((source, key), coercion)]⟩

/-- The coercion that applies to values of a kind at a target. -/
def applicable? (converter : Converter) (source : ValueKind) (target : DeclaredType) :
    Option Coercion :=
  (target.named?.bind fun type => converter.lookup? source (.type type)).or
    (target.kind?.bind fun kind => converter.lookup? source (.kind kind))

/-- Applies the coercion for a value and a target. -/
def coerce (converter : Converter) (raw : Value) (target : DeclaredType) (ask : Ask) :
    Except CoercionError Value :=
  match converter.applicable? raw.kind target with
  | some coercion => coercion raw target ask
  | none => .error (.unsupported raw.kind target)

/-- Sees through the optionals around a raw value whose target is none. The content counts as
changed, since it loses its container. -/
def throughOptionals (attempt : Value → Attempt) : Value → Attempt
  | .optSome content =>
    (throughOptionals attempt content).map fun converted => some (converted.getD content)
  | raw => attempt raw

/-- Brings a value to an optional, given how its content is converted. -/
def intoOptional (attempt : Value → Attempt) : Value → Attempt
  | .optNone => .ok none
  | .null => .ok (some .optNone)
  | .optSome content => (attempt content).map (·.map .optSome)
  | raw => (attempt raw).map fun converted => some (.optSome (converted.getD raw))

/-- Converts items in order. The answer is `none` if every item conforms as it is. -/
def convertItems (attempt : Value → Attempt) :
    List Value → Except CoercionError (Option (List Value))
  | [] => .ok none
  | item :: rest =>
    (attempt item).bind fun converted =>
      (convertItems attempt rest).map fun others =>
        match converted, others with
        | none, none => none
        | converted, others => some (converted.getD item :: others.getD rest)

/-- Converts the values of entries in order. The answer is `none` if every value conforms as it
is. -/
def convertEntries (attempt : Value → Attempt) :
    List (String × Value) → Except CoercionError (Option (List (String × Value)))
  | [] => .ok none
  | (key, item) :: rest =>
    (attempt item).bind fun converted =>
      (convertEntries attempt rest).map fun others =>
        match converted, others with
        | none, none => none
        | converted, others => some ((key, converted.getD item) :: others.getD rest)

/-- The questions that a coercion to a collection may ask. -/
def askElement (element : DeclaredType) (attempt : Value → Attempt) (ask : Ask) : Ask :=
  fun raw target => if target = element then attempt raw else ask raw target

/-- Brings a value that is no optional to a list. -/
def intoList (converter : Converter) (element : DeclaredType) (attempt : Value → Attempt)
    (ask : Ask) : Value → Attempt
  | .list items => (convertItems attempt items).map (·.map .list)
  | raw => (converter.coerce raw (.list element) (askElement element attempt ask)).map some

/-- Brings a value that is no optional to a map. -/
def intoMap (converter : Converter) (element : DeclaredType) (attempt : Value → Attempt)
    (ask : Ask) : Value → Attempt
  | .map entries => (convertEntries attempt entries).map (·.map .map)
  | raw => (converter.coerce raw (.map element) (askElement element attempt ask)).map some

/-- Brings a value that is no optional to a scalar, an enum or a bean. An integer only has to fit
the width and is never coerced. -/
def intoScalar (converter : Converter) (target : DeclaredType) (ask : Ask) (raw : Value) :
    Attempt :=
  match raw, target with
  | .int number, .int width =>
    if width.contains number then .ok none else .error (.outOfRange (toString number) width)
  | .bool _, .bool | .float _, .float | .char _, .char | .text _, .text => .ok none
  | .enum type variant, .enum info =>
    if type = info.type then .ok none
    else (converter.coerce (.enum type variant) (.enum info) ask).map some
  | .bean ref, .bean type =>
    if ref.type = type then .ok none
    else (converter.coerce (.bean ref) (.bean type) ask).map some
  | raw, target => (converter.coerce raw target ask).map some

/-- Converts at a target, given how the questions that lead away from it are answered. -/
def attempt (converter : Converter) (ask : Ask) : DeclaredType → Value → Attempt
  | .any => fun _ => .ok none
  | .optional content => intoOptional (converter.attempt ask content)
  | .list element =>
    throughOptionals (converter.intoList element (converter.attempt ask element) ask)
  | .map element =>
    throughOptionals (converter.intoMap element (converter.attempt ask element) ask)
  | .bool => throughOptionals (converter.intoScalar .bool ask)
  | .int width => throughOptionals (converter.intoScalar (.int width) ask)
  | .float => throughOptionals (converter.intoScalar .float ask)
  | .char => throughOptionals (converter.intoScalar .char ask)
  | .text => throughOptionals (converter.intoScalar .text ask)
  | .enum info => throughOptionals (converter.intoScalar (.enum info) ask)
  | .bean type => throughOptionals (converter.intoScalar (.bean type) ask)

/-- Converts while at most the given number of questions lead from one to the next. The question
after that is answered with `endless`. -/
def attemptWithin (converter : Converter) : Nat → Ask
  | 0 => fun raw target => converter.attempt (fun _ _ => .error .endless) target raw
  | depth + 1 => fun raw target => converter.attempt (converter.attemptWithin depth) target raw

/-- How many questions may lead from one to the next. The bound belongs to the definition alone: a
row of questions that passes it is taken for one without end, for which a conversion gives no
answer. -/
def depth : Nat := 1000

/-- Tells what a value becomes at a target; `none` if it conforms as it is. -/
def tryConvert (converter : Converter) (raw : Value) (target : DeclaredType) : Attempt :=
  converter.attemptWithin depth raw target

/-- Converts a value, or keeps it if it conforms. -/
def convert (converter : Converter) (raw : Value) (target : DeclaredType) :
    Except ConversionError Value :=
  match converter.tryConvert raw target with
  | .ok converted => .ok (converted.getD raw)
  | .error cause => .error ⟨raw, target, cause⟩

/-- The converter in outline. -/
def outline (converter : Converter) : String :=
  "TypeConverter \x7b coercions: " ++ toString converter.coercions.length ++ " \x7d"

end Converter

end PropertyGraph
