/-! # Failures

Why a single type gets no companion, and why settings or a manifest cannot be used. Each failure
is a cause with what belongs to it; its wording, its code and the type that it is about are
functions of the cause.
-/

namespace Roster

/-- Why a single type gets no companion. -/
inductive Failure where
  /-- There is no type to collect from. -/
  | missingType
  /-- The type is no class but of some other kind. -/
  | notConcrete (typeName kind : String)
  /-- The walk up from a type came back to a type or went too far. -/
  | cyclic (sourceType : String) (chain : List String)
  /-- A declared field has no name. -/
  | malformedField (sourceType declaringType : String) (index : Int)
  /-- Several types get companions of one name. -/
  | collision (generatedName : String) (sourceTypes : List String)
  /-- A companion cannot be written. -/
  | write (target cause : String) (sourceType : Option String)
  /-- A host finds a type unfit, in its own words. -/
  | unfit (message : String) (sourceType : Option String)
  /-- A host reports a failure of no other kind, in its own words. -/
  | unclassified (message : String) (sourceType : Option String)
  deriving DecidableEq, Repr

namespace Failure

/-- The wording of a failure. -/
def message : Failure → String
  | .missingType => "Cannot collect fields of a missing type"
  | .notConcrete typeName kind => typeName ++ " is a " ++ kind ++ ", not a concrete class"
  | .cyclic sourceType chain =>
    "Cyclic ancestor chain for " ++ sourceType ++ ": " ++ String.intercalate " -> " chain
  | .malformedField _ declaringType index =>
    "Field #" ++ toString index ++ " declared on " ++ declaringType ++ " has no usable name"
  | .collision generatedName sourceTypes =>
    "Generated type " ++ generatedName ++ " would be produced by more than one type: "
      ++ String.intercalate ", " sourceTypes
  | .write target cause _ => "Unable to write fielder " ++ target ++ ": " ++ cause
  | .unfit message _ => message
  | .unclassified message _ => message

/-- The code of the kind of failure. -/
def code : Failure → String
  | .missingType | .notConcrete .. | .unfit .. => "invalid-type"
  | .cyclic .. => "cyclic-hierarchy"
  | .malformedField .. => "malformed-field"
  | .collision .. => "name-collision"
  | .write .. => "write-error"
  | .unclassified .. => "fielder-error"

/-- The type that the failure is about. -/
def sourceType : Failure → Option String
  | .missingType => none
  | .notConcrete typeName _ => some typeName
  | .cyclic sourceType _ => some sourceType
  | .malformedField sourceType _ _ => some sourceType
  | .collision _ sourceTypes => sourceTypes.head?
  | .write _ _ sourceType => sourceType
  | .unfit _ sourceType => sourceType
  | .unclassified _ sourceType => sourceType

end Failure
end Roster
