import Federation.Members
import Federation.Decimal.Binary64

/-!
# JSON values

`Json` is the value of a JSON text.  Objects keep the order in which their members were first
written, because every text this library writes back shows it.

**Numbers.**  A number written without fraction and exponent is an integer as long as it fits 64
bits, with or without sign; every other number is a 64-bit float.  The two kinds are never equal,
and an operation that asks for an integer (`Json.int64?`, `Json.nat64?`) does not take a float, not
even a whole one.

**Equality.**  `Json.same`, which is what `==` means on values, compares objects without regard to
the order of their members, arrays in order, and the two float zeros as one number.  Structural
equality is finer and is what `=` means.

**Well-formed values.**  `Json.WellFormed` says that no object in a value repeats a name.  The
reader only builds such values.
-/

namespace Federation

/-- A JSON number. -/
inductive Number where
  /-- An integer of 64 bits, with or without sign. -/
  | integer (value : Int)
  /-- Any other number. -/
  | float (value : Binary64)
deriving DecidableEq

namespace Number

/-- Whether two numbers are of one kind and equal. -/
def same : Number → Number → Bool
  | .integer a, .integer b => a == b
  | .float a, .float b => a.sameNumber b
  | _, _ => false

end Number

/-- A JSON value. -/
inductive Json where
  | null
  | boolean (value : Bool)
  | number (value : Number)
  | string (value : String)
  | array (items : List Json)
  | object (members : List (String × Json))

namespace Json

instance : Inhabited Json := ⟨.null⟩

/-- The value of an integer. -/
def int (value : Int) : Json := .number (.integer value)

/-- Whether the value is the null value. -/
def isNull : Json → Bool
  | .null => true
  | _ => false

/-- Whether the value is an array. -/
def isArray : Json → Bool
  | .array _ => true
  | _ => false

/-- The text, if the value is a string. -/
def string? : Json → Option String
  | .string value => some value
  | _ => none

/-- The items, if the value is an array. -/
def items? : Json → Option (List Json)
  | .array items => some items
  | _ => none

/-- The members, if the value is an object. -/
def members? : Json → Option (Members Json)
  | .object members => some members
  | _ => none

/-- The number, if it is an integer of 64 bits with sign. -/
def int64? : Json → Option Int
  | .number (.integer value) =>
    if -0x8000000000000000 ≤ value ∧ value < 0x8000000000000000 then some value else none
  | _ => none

/-- The number, if it is an integer of 64 bits without sign. -/
def nat64? : Json → Option Nat
  | .number (.integer value) =>
    if 0 ≤ value ∧ value < UInt64.size then some value.toNat else none
  | _ => none

/-! ### Equality of values -/

mutual

/-- Whether two values are equal as JSON: members in any order, items in order. -/
def same : Json → Json → Bool
  | .null, .null => true
  | .boolean a, .boolean b => a == b
  | .number a, .number b => a.same b
  | .string a, .string b => a == b
  | .array as, .array bs => sameItems as bs
  | .object as, .object bs => as.length == bs.length && sameMembers as bs
  | _, _ => false

/-- Whether two lists of values are equal item by item. -/
def sameItems : List Json → List Json → Bool
  | [], [] => true
  | a :: as, b :: bs => same a b && sameItems as bs
  | _, _ => false

/-- Whether each member is also one of the other object. -/
def sameMembers : List (String × Json) → Members Json → Bool
  | [], _ => true
  | (name, a) :: as, bs =>
    (match bs.get? name with
      | some b => same a b
      | none => false) && sameMembers as bs

end

instance : BEq Json := ⟨same⟩

/-- Whether two objects are equal as JSON values. -/
def sameObject (a b : Members Json) : Bool :=
  same (.object a) (.object b)

mutual

/-- No object in the value repeats a name. -/
def WellFormed : Json → Prop
  | .array items => AllWellFormed items
  | .object members => Members.Distinct members ∧ AllMembersWellFormed members
  | _ => True

/-- Every value of a list is well-formed. -/
def AllWellFormed : List Json → Prop
  | [] => True
  | item :: rest => WellFormed item ∧ AllWellFormed rest

/-- Every member of a list is well-formed. -/
def AllMembersWellFormed : List (String × Json) → Prop
  | [] => True
  | (_, value) :: rest => WellFormed value ∧ AllMembersWellFormed rest

end

end Json

end Federation
