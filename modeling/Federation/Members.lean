/-!
# Named members in the order they were written

An object of the data formats this library reads is a list of named values.  Names are unique in
every list the library builds, and the order of the list is the order in which the names first
appeared, which is also the order in which they are written back.

**Views.**  `Members.get?` reads one member, `Members.keys` lists the names.  Everything else is
described through these two.

**Changes.**  `Members.insert` keeps the position of a name that is already there and appends a new
one; `Members.erase` closes the gap; `Members.ofList` is what a reader does with an object that
repeats a name: the first position and the last value survive.

**Sorted lists.**  `Members.insertSorted` keeps a list ordered by name.  Names are compared by code
point, which is also the order of their encoded bytes.
-/

namespace Federation

/-- Named values, in the order in which the names were first written. -/
abbrev Members (α : Type) := List (String × α)

namespace Members

variable {α β : Type}

/-- The value under a name. -/
def get? : Members α → String → Option α
  | [], _ => none
  | (key, value) :: rest, name => if key = name then some value else get? rest name

/-- Whether a name is present. -/
def has (members : Members α) (name : String) : Bool :=
  (members.get? name).isSome

/-- The names, in order. -/
def keys (members : Members α) : List String :=
  members.map Prod.fst

/-- The values, in order. -/
def values (members : Members α) : List α :=
  members.map Prod.snd

/-- Sets a member.  A name that is present keeps its place, a new one goes to the end. -/
def insert : Members α → String → α → Members α
  | [], name, value => [(name, value)]
  | (key, old) :: rest, name, value =>
    if key = name then (name, value) :: rest else (key, old) :: insert rest name value

/-- Sets a member of a list that is sorted by name, and keeps it sorted. -/
def insertSorted : Members α → String → α → Members α
  | [], name, value => [(name, value)]
  | (key, old) :: rest, name, value =>
    if key = name then (name, value) :: rest
    else if name < key then (name, value) :: (key, old) :: rest
    else (key, old) :: insertSorted rest name value

/-- Removes what is under a name and closes the gap it leaves. -/
def erase (members : Members α) (name : String) : Members α :=
  members.filter fun entry => entry.1 != name

/-- The members of a written object: of a repeated name the first place and the last value count. -/
def ofList (written : List (String × α)) : Members α :=
  written.foldl (fun members entry => insert members entry.1 entry.2) []

/-- Applies a function to every value. -/
def mapValues (f : α → β) (members : Members α) : Members β :=
  members.map fun entry => (entry.1, f entry.2)

/-- No name occurs twice. -/
def Distinct (members : Members α) : Prop :=
  members.keys.Nodup

/-! ### What the views see of each change -/

@[simp] theorem get?_nil (name : String) : get? ([] : Members α) name = none := rfl

@[simp] theorem keys_nil : keys ([] : Members α) = [] := rfl

@[simp] theorem keys_cons (entry : String × α) (rest : Members α) :
    keys (entry :: rest) = entry.1 :: keys rest := rfl

theorem get?_insert_self (members : Members α) (name : String) (value : α) :
    (members.insert name value).get? name = some value := by
  induction members with
  | nil => simp [insert, get?]
  | cons entry rest ih =>
    by_cases h : entry.1 = name <;> simp [insert, get?, h, ih]

theorem get?_insert_of_ne (members : Members α) {name other : String} (value : α)
    (h : name ≠ other) : (members.insert name value).get? other = members.get? other := by
  induction members with
  | nil => simp [insert, get?, h]
  | cons entry rest ih =>
    by_cases hk : entry.1 = name
    · simp [insert, get?, hk, h]
    · by_cases ho : entry.1 = other
      · simp [insert, get?, ho, Ne.symm h]
      · simp [insert, get?, hk, ho, ih]

theorem get?_eq_none_iff (members : Members α) (name : String) :
    members.get? name = none ↔ name ∉ members.keys := by
  induction members with
  | nil => simp
  | cons entry rest ih =>
    by_cases h : entry.1 = name
    · simp [get?, h]
    · simp [get?, h, ih, Ne.symm h]

/-- A change of an existing member keeps the names, a new member adds its name at the end. -/
theorem keys_insert (members : Members α) (name : String) (value : α) :
    (members.insert name value).keys =
      if name ∈ members.keys then members.keys else members.keys ++ [name] := by
  induction members with
  | nil => simp [insert, keys]
  | cons entry rest ih =>
    by_cases h : entry.1 = name
    · simp [insert, h]
    · by_cases hm : name ∈ keys rest <;> simp [insert, h, ih, hm, Ne.symm h]

end Members

end Federation
