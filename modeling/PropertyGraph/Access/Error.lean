import PropertyGraph.Convert.Error
import PropertyGraph.Graph.Bean
import PropertyGraph.Path.Reader
import PropertyGraph.Registry.Basic

/-!
# Failed accesses

Why a property cannot be read, written or described. An error names the failing property, which is
the path up to the segment that failed, and the type of the bean that owns it. Behind an error there
may be a cause with a message of its own; `AccessError.chain` lists those messages, the nearest
cause first. An error that only passes on its cause shows the message of the cause as its own.
-/
namespace PropertyGraph

/-- Why an absent value on the way cannot be made. -/
inductive GrowFailure where
  /-- Absent values are not made. -/
  | disabled
  /-- Values of the type cannot be made from nothing. -/
  | notConstructible (type : DeclaredType)
  /-- A bean cannot be made. -/
  | construction (cause : ConstructionError)
  /-- A list would become too long. -/
  | limitExceeded (index limit : Nat)
deriving DecidableEq, Repr

namespace GrowFailure

/-- The text of the failure. -/
def message : GrowFailure → String
  | disabled => "auto-growing nested paths is disabled"
  | notConstructible type => "values of type `" ++ type.name ++ "` cannot be created automatically"
  | construction cause => cause.message
  | limitExceeded index limit =>
    "index " ++ toString index ++ " exceeds the collection growth limit " ++ toString limit

end GrowFailure

/-- Why a value on the way cannot be used. -/
inductive InvalidReason where
  /-- The key of a list is no index. -/
  | notAnIndex (key : String)
  /-- The list has no element at the index. -/
  | outOfBounds (index length : Nat)
  /-- Only a bean has named properties. -/
  | noNamedProperty (found : ValueKind)
  /-- Only a list or a map is indexed. -/
  | noElement (found : ValueKind)
  /-- The bean type has no property of the name. -/
  | noSuchProperty
deriving DecidableEq, Repr

namespace InvalidReason

/-- The text of the reason. -/
def message : InvalidReason → String
  | notAnIndex key => "`" ++ key ++ "` is not a valid list index"
  | outOfBounds index length =>
    "index " ++ toString index ++ " out of bounds for length " ++ toString length
  | noNamedProperty found => "cannot read a named property of a " ++ found.name ++ " value"
  | noElement found => "cannot index into a " ++ found.name ++ " value"
  | noSuchProperty => "no such property"

end InvalidReason

/-- Why an access fails. -/
inductive AccessError where
  /-- The path cannot be read. -/
  | malformedPath (cause : ParseError)
  /-- The property is unknown, denied or cannot be read. -/
  | notReadable (property : String) (owner : TypeRef)
  /-- The property is unknown, denied or cannot be written. -/
  | notWritable (property : String) (owner : TypeRef) (suggestions : List String)
  /-- The raw value cannot be converted to the declared type. -/
  | typeMismatch (property : String) (cause : ConversionError)
  /-- An absent value on the way cannot be made. -/
  | growFailed (property : String) (owner : TypeRef) (cause : GrowFailure)
  /-- A value on the way is absent. -/
  | nullValue (property : String) (owner : TypeRef)
  /-- A value on the way cannot be used as the path demands. -/
  | invalidProperty (property : String) (owner : TypeRef) (reason : InvalidReason)
  /-- A getter or setter refuses. -/
  | invocationFailed (property : String) (owner : TypeRef) (cause : InvocationError)

namespace AccessError

/-- The hint at other names behind the message of a property that cannot be written. -/
def hint : List String → String
  | [] => ""
  | [only] => "; did you mean `" ++ only ++ "`?"
  | names => "; did you mean one of " ++ ", ".intercalate names ++ "?"

/-- The failing property and its owner in messages. -/
def subject (property : String) (owner : TypeRef) : String :=
  "property `" ++ property ++ "` of bean `" ++ owner.path ++ "`"

/-- The text of the error. -/
def message : AccessError → String
  | malformedPath cause => cause.message
  | notReadable property owner => subject property owner ++ " is not readable"
  | notWritable property owner suggestions =>
    subject property owner ++ " is not writable" ++ hint suggestions
  | typeMismatch property _ => "failed to convert value for property `" ++ property ++ "`"
  | growFailed property owner _ => "cannot auto-grow " ++ subject property owner
  | nullValue property owner => "value of nested " ++ subject property owner ++ " is null"
  | invalidProperty property owner reason =>
    "invalid " ++ subject property owner ++ ": " ++ reason.message
  | invocationFailed property owner _ =>
    "invocation of property `" ++ property ++ "` on bean `" ++ owner.path ++ "` failed"

/-- The messages of the causes, the nearest first. -/
def chain : AccessError → List String
  | typeMismatch _ cause => [cause.message, cause.cause.message]
  | growFailed _ _ cause => [cause.message]
  | invocationFailed _ _ cause => [cause.message]
  | _ => []

/-- The failing property; a path that cannot be read has none. -/
def property? : AccessError → Option String
  | malformedPath _ => none
  | notReadable property _ | notWritable property _ _ | typeMismatch property _
  | growFailed property _ _ | nullValue property _ | invalidProperty property _ _
  | invocationFailed property _ _ => some property

/-- The bean type that owns the failing property. -/
def owner? : AccessError → Option TypeRef
  | malformedPath _ | typeMismatch _ _ => none
  | notReadable _ owner | notWritable _ owner _ | growFailed _ owner _ | nullValue _ owner
  | invalidProperty _ owner _ | invocationFailed _ owner _ => some owner

/-- The names that are close to the failing one, if there are any. -/
def possibleMatches? : AccessError → Option (List String)
  | notWritable _ _ suggestions => if suggestions.isEmpty then none else some suggestions
  | _ => none

/-- The target has no property of the name that can be written. -/
def isUnknownProperty : AccessError → Bool
  | notWritable _ _ _ => true
  | _ => false

/-- A value on the way cannot be used. -/
def isInvalidNavigation : AccessError → Bool
  | nullValue _ _ | invalidProperty _ _ _ | growFailed _ _ _ => true
  | _ => false

end AccessError

end PropertyGraph
