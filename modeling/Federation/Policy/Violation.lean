import Federation.Policy.Operator
import Federation.Json.Printer

/-!
# Policy violations

`Violation` says which parameter a policy failed on and why.  It arises when policies that
contradict each other are combined and when metadata does not satisfy a policy.

**Reasons.**  `Violation.Reason` holds the operator and the values involved.  The category of a reason,
the name of the operator and the words follow from it.
-/

namespace Federation

/-- Why the set operators of an entry do not admit a value. -/
inductive Rejection where
  /-- It is not listed in `one_of`. -/
  | notListed
  /-- It holds a value outside `subset_of`. -/
  | outside (extra : Json)
  /-- It lacks a value of `superset_of`. -/
  | lacking (missing : Json)

/-- The rejection in words, to follow the value. -/
def Rejection.message : Rejection → String
  | .notListed => "is not one of the allowed values"
  | .outside extra => s!"contains " ++ extra.compact ++ " outside subset_of"
  | .lacking missing => s!"lacks " ++ missing.compact ++ " required by superset_of"

namespace Violation

/-- The categories of violations. -/
inductive Category where
  | conflictingValue
  | emptyIntersection
  | unsatisfiableSuperset
  | inconsistentDefault
  | unsupportedCriticalOperation
  | essentialMissing
  | valueNotAllowed
  | missingRequiredValues
  | invalidParameterType
deriving DecidableEq

/-- The category in words. -/
def Category.message : Category → String
  | .conflictingValue => "conflicting value"
  | .emptyIntersection => "empty intersection"
  | .unsatisfiableSuperset => "unsatisfiable superset"
  | .inconsistentDefault => "inconsistent default"
  | .unsupportedCriticalOperation => "unsupported critical operation"
  | .essentialMissing => "essential parameter missing"
  | .valueNotAllowed => "value not allowed"
  | .missingRequiredValues => "missing required values"
  | .invalidParameterType => "invalid parameter type"

/-- What went wrong. -/
inductive Reason where
  /-- Two policies fix different values. -/
  | twoValues (new fixed : Json)
  /-- The fixed value is not admitted by the combined lists. -/
  | fixedRejected (value : Json) (why : Rejection)
  /-- Two lists of a kind have no value in common. -/
  | nothingAllowed (kind : Operator.Kind)
  /-- A required value is not allowed by a list. -/
  | requiredOutside (required : Json) (kind : Operator.Kind)
  /-- The default is not admitted by the combined lists. -/
  | defaultRejected (value : Json) (why : Rejection)
  /-- An operator that must be understood is not implemented. -/
  | unsupported (name : String)
  /-- An essential parameter is absent. -/
  | essentialAbsent
  /-- The value is not listed in `one_of`. -/
  | notOneOf (value : Json) (allowed : List Json)
  /-- The value is outside `subset_of`. -/
  | notAllowed (extra : Json)
  /-- Values of `superset_of` are missing. -/
  | missing (values : List Json)
  /-- `add` meets a value that is no array. -/
  | addToScalar
  /-- `one_of` meets an array. -/
  | oneOfArray

namespace Reason

/-- The category of a reason. -/
def category : Reason → Category
  | .twoValues _ _ => .conflictingValue
  | .fixedRejected _ _ => .conflictingValue
  | .nothingAllowed _ => .emptyIntersection
  | .requiredOutside _ _ => .unsatisfiableSuperset
  | .defaultRejected _ _ => .inconsistentDefault
  | .unsupported _ => .unsupportedCriticalOperation
  | .essentialAbsent => .essentialMissing
  | .notOneOf _ _ => .valueNotAllowed
  | .notAllowed _ => .valueNotAllowed
  | .missing _ => .missingRequiredValues
  | .addToScalar => .invalidParameterType
  | .oneOfArray => .invalidParameterType

/-- The name of the operator a reason is about. -/
def operator : Reason → String
  | .twoValues _ _ => Operator.Kind.value.name
  | .fixedRejected _ _ => Operator.Kind.value.name
  | .nothingAllowed kind => kind.name
  | .requiredOutside _ _ => Operator.Kind.supersetOf.name
  | .defaultRejected _ _ => Operator.Kind.default.name
  | .unsupported name => name
  | .essentialAbsent => Operator.Kind.essential.name
  | .notOneOf _ _ => Operator.Kind.oneOf.name
  | .notAllowed _ => Operator.Kind.subsetOf.name
  | .missing _ => Operator.Kind.supersetOf.name
  | .addToScalar => Operator.Kind.add.name
  | .oneOfArray => Operator.Kind.oneOf.name

/-- The reason in words. -/
def detail : Reason → String
  | .twoValues new fixed => new.compact ++ " conflicts with " ++ fixed.compact
  | .fixedRejected value why => "fixed value " ++ value.compact ++ " " ++ why.message
  | .nothingAllowed kind => "combined " ++ kind.name ++ " allows no value"
  | .requiredOutside required kind =>
    "required " ++ required.compact ++ " is not allowed by " ++ kind.name
  | .defaultRejected value why => "default " ++ value.compact ++ " " ++ why.message
  | .unsupported name => s!"critical policy operation '{name}' is not supported"
  | .essentialAbsent => "essential parameter is absent"
  | .notOneOf value allowed =>
    value.compact ++ " is not one of " ++ (Json.array allowed).compact
  | .notAllowed extra => extra.compact ++ " is not allowed"
  | .missing values => "missing " ++ (Json.array values).compact
  | .addToScalar => "add requires an array parameter"
  | .oneOfArray => "one_of requires a single value"

end Reason

end Violation

/-- A parameter on which a policy fails, and why. -/
structure Violation where
  /-- The parameter, empty when the failure concerns none. -/
  parameter : String
  /-- What went wrong with it. -/
  reason : Violation.Reason

namespace Violation

/-- The category of the violation. -/
def category (v : Violation) : Category := v.reason.category

/-- The violation in words. -/
def message (v : Violation) : String :=
  s!"{v.category.message} for parameter '{v.parameter}' ({v.reason.operator}): {v.reason.detail}"

end Violation

end Federation
