import Federation.Json.Basic

/-!
# Policy operators

What a policy may ask of one metadata parameter.  `Operator` is an operator with its configuration,
`Operator.Kind` the operator alone.

**Known operators.**  `value` fixes the parameter, `add` and `default` supply values, `one_of`,
`subset_of` and `superset_of` check it, `essential` asks for its presence.  An operator of any other
name is kept with its configuration, so that a policy can be written back, and otherwise ignored.

**Lists.**  The configuration of the list operators is an array.  A single value is taken for a list
of one and is written back as it came (`ValueList`).

**Slots.**  An entry of a policy has at most one operator per slot; two operators share a slot when
they have the same kind and the same name (`Operator.sameSlot`).
-/

namespace Federation

/-- The configuration of an operator that takes a list. -/
inductive ValueList where
  /-- An array of values. -/
  | many (values : List Json)
  /-- A single value without brackets. -/
  | one (value : Json)

namespace ValueList

/-- The values listed. -/
def values : ValueList → List Json
  | .many values => values
  | .one value => [value]

/-- The configuration as it is written. -/
def toJson : ValueList → Json
  | .many values => .array values
  | .one value => value

/-- Whether two lists are equal and written the same way. -/
def same : ValueList → ValueList → Bool
  | .many a, .many b => Json.sameItems a b
  | .one a, .one b => a.same b
  | _, _ => false

/-- A list from its written form: neither an object nor null is one. -/
def ofJson? : Json → Option ValueList
  | .array items => some (.many items)
  | .object _ => none
  | .null => none
  | value => some (.one value)

end ValueList

/-- An operator with its configuration. -/
inductive Operator where
  | value (value : Json)
  | default (value : Json)
  | add (list : ValueList)
  | oneOf (list : ValueList)
  | subsetOf (list : ValueList)
  | supersetOf (list : ValueList)
  | essential (required : Bool)
  /-- An operator this library does not implement. -/
  | unknown (name : String) (config : Json)

namespace Operator

/-- An operator without its configuration. -/
inductive Kind where
  | value
  | default
  | add
  | oneOf
  | subsetOf
  | supersetOf
  | essential
  | unknown
deriving DecidableEq

/-- The name of an operator; of those not implemented, a word for all of them. -/
def Kind.name : Kind → String
  | .value => "value"
  | .default => "default"
  | .add => "add"
  | .oneOf => "one_of"
  | .subsetOf => "subset_of"
  | .supersetOf => "superset_of"
  | .essential => "essential"
  | .unknown => "unknown"

/-- The names of the operators this library implements. -/
def recognizedNames : List String :=
  [Kind.value, Kind.default, Kind.add, Kind.oneOf, Kind.subsetOf, Kind.supersetOf,
    Kind.essential].map Kind.name

/-- Whether an operator of this name is implemented. -/
def isRecognized (name : String) : Bool :=
  recognizedNames.contains name

/-- The kind of an operator. -/
def kind : Operator → Kind
  | .value _ => .value
  | .default _ => .default
  | .add _ => .add
  | .oneOf _ => .oneOf
  | .subsetOf _ => .subsetOf
  | .supersetOf _ => .supersetOf
  | .essential _ => .essential
  | .unknown _ _ => .unknown

/-- The name under which an operator is written. -/
def name : Operator → String
  | .unknown name _ => name
  | op => op.kind.name

/-- The configuration as it is written. -/
def config : Operator → Json
  | .value v => v
  | .default v => v
  | .add list => list.toJson
  | .oneOf list => list.toJson
  | .subsetOf list => list.toJson
  | .supersetOf list => list.toJson
  | .essential required => .boolean required
  | .unknown _ config => config

/-- Whether two operators are equal, with configurations compared as JSON. -/
def same : Operator → Operator → Bool
  | .value a, .value b => a.same b
  | .default a, .default b => a.same b
  | .add a, .add b => a.same b
  | .oneOf a, .oneOf b => a.same b
  | .subsetOf a, .subsetOf b => a.same b
  | .supersetOf a, .supersetOf b => a.same b
  | .essential a, .essential b => a == b
  | .unknown n a, .unknown m b => n == m && a.same b
  | _, _ => false

/-- Whether two operators exclude each other in one entry. -/
def sameSlot (a b : Operator) : Bool :=
  a.kind = b.kind && a.name == b.name

/-- What is wrong with a configuration. -/
inductive ConfigDefect where
  | notList
  | nullDefault
  | notBoolean
deriving DecidableEq

/-- The defect in words. -/
def ConfigDefect.message : ConfigDefect → String
  | .notList => "expected a JSON array or scalar"
  | .nullDefault => "default must not be null"
  | .notBoolean => "essential must be a boolean"

/-- A list configuration, or what is wrong with it. -/
def list (config : Json) : Except ConfigDefect ValueList :=
  match ValueList.ofJson? config with
  | some list => .ok list
  | none => .error .notList

/-- The operator written under a name with a configuration. -/
def ofConfig (name : String) (config : Json) : Except ConfigDefect Operator :=
  if name = Kind.value.name then .ok (.value config)
  else if name = Kind.default.name then
    if config.isNull then .error .nullDefault else .ok (.default config)
  else if name = Kind.add.name then (list config).map .add
  else if name = Kind.oneOf.name then (list config).map .oneOf
  else if name = Kind.subsetOf.name then (list config).map .subsetOf
  else if name = Kind.supersetOf.name then (list config).map .supersetOf
  else if name = Kind.essential.name then
    match config with
    | .boolean required => .ok (.essential required)
    | _ => .error .notBoolean
  else .ok (.unknown name config)

end Operator

end Federation
