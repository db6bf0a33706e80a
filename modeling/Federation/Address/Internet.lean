import Federation.Text.Bytes

/-!
# Numeric host addresses

Hosts given as numbers rather than as names.

**Four bytes.**  `Internet.ofDots?` reads the forms a host may take that ends in a number: one to
four numbers, decimal, octal with a leading zero or hexadecimal, of which the last one fills all
bytes that are left.  It is written as four decimal numbers.

**Eight groups.**  `Internet.ofColons?` reads eight groups of hexadecimal digits; a double colon
stands for as many zero groups as are missing, and the last two groups may be given as four decimal
numbers.  It is written with the first longest run of at least two zero groups left out.
-/

namespace Federation.Internet

/-- The parts of a text between separators. -/
def splitOn (separator : Char) : List Char → List (List Char)
  | [] => [[]]
  | c :: rest =>
    if c = separator then [] :: splitOn separator rest
    else
      match splitOn separator rest with
      | [] => [[c]]
      | part :: parts => (c :: part) :: parts

/-- The number digits of a base denote. -/
def ofDigits (base : Nat) (digits : List Char) : Nat :=
  digits.foldl (fun value digit => value * base + (Text.hexValue? digit).getD 0) 0

/-- Whether a character is a digit of a base. -/
def isDigitOf (base : Nat) (c : Char) : Bool :=
  match Text.hexValue? c with
  | some value => value < base
  | none => false

/-! ### Four bytes -/

/-- The base a part is written in and its digits. -/
def baseOf : List Char → Nat × List Char
  | '0' :: 'x' :: rest => (16, rest)
  | '0' :: 'X' :: rest => (16, rest)
  | '0' :: c :: rest => (8, c :: rest)
  | cs => (10, cs)

/-- The number a part denotes; nothing before or after it but digits of its base. -/
def part? (cs : List Char) : Option Nat :=
  if cs.isEmpty then none
  else
    let (base, digits) := baseOf cs
    if digits.all (isDigitOf base) then some (ofDigits base digits) else none

/-- The parts between dots; a dot at the end is ignored. -/
def dotParts (cs : List Char) : List (List Char) :=
  let parts := splitOn '.' cs
  if parts.getLast? = some [] then parts.dropLast else parts

/-- Whether a host must be a four byte address: its last part is a number. -/
def endsInNumber (cs : List Char) : Bool :=
  match (dotParts cs).getLast? with
  | none => false
  | some last => (!last.isEmpty && last.all Char.isDigit) || (part? last).isSome

/-- The address of a host that ends in a number. -/
def ofDots? (cs : List Char) : Option Nat := do
  let parts := dotParts cs
  if 4 < parts.length then none
  else
    let numbers ← parts.mapM part?
    let last ← numbers.getLast?
    let leading := numbers.dropLast
    if leading.any (255 < ·) || Nat.pow 256 (4 - leading.length) ≤ last then none
    else
      let high := leading.foldl (fun value n => value * 256 + n) 0
      some (high * Nat.pow 256 (4 - leading.length) + last)

/-- The address as four decimal numbers. -/
def dotText (address : Nat) : String :=
  String.intercalate "." <|
    [address / 0x1000000, address / 0x10000 % 0x100, address / 0x100 % 0x100, address % 0x100].map
      toString

/-! ### Eight groups -/

/-- One group: one to four hexadecimal digits. -/
def group? (cs : List Char) : Option Nat :=
  if !cs.isEmpty && cs.length ≤ 4 && cs.all (isDigitOf 16) then some (ofDigits 16 cs) else none

/-- One byte in decimal digits without a needless zero. -/
def byte? (cs : List Char) : Option Nat :=
  if cs.isEmpty || !cs.all Char.isDigit || (1 < cs.length && cs.head? = some '0') then none
  else
    let value := ofDigits 10 cs
    if value ≤ 255 then some value else none

/-- Two groups given as four bytes. -/
def dottedGroups? (cs : List Char) : Option (List Nat) :=
  match splitOn '.' cs with
  | [a, b, c, d] => do
    return [(← byte? a) * 256 + (← byte? b), (← byte? c) * 256 + (← byte? d)]
  | _ => none

/-- Groups between single colons; only the last part may be dotted. -/
def groups? : List (List Char) → Option (List Nat)
  | [] => some []
  | [last] => if last.contains '.' then dottedGroups? last else (group? last).map ([·])
  | part :: rest => do return (← group? part) :: (← groups? rest)

/-- What stands before and after the first double colon. -/
def splitDoubleColon : List Char → List Char × Option (List Char)
  | [] => ([], none)
  | ':' :: ':' :: rest => ([], some rest)
  | c :: rest =>
    let (before, after) := splitDoubleColon rest
    (c :: before, after)

/-- The groups of one side of a double colon, which may be empty. -/
def side? (cs : List Char) : Option (List Nat) :=
  if cs.isEmpty then some [] else groups? (splitOn ':' cs)

/-- The eight groups of an address. -/
def ofColons? (cs : List Char) : Option (List Nat) :=
  match splitDoubleColon cs with
  | (whole, none) => do
    let groups ← groups? (splitOn ':' whole)
    if groups.length = 8 then some groups else none
  | (before, some after) => do
    if before.contains '.' then none
    else
      let left ← side? before
      let right ← side? after
      let known := left.length + right.length
      if known ≤ 7 then some (left ++ List.replicate (8 - known) 0 ++ right) else none

/-- The length of the run of zero groups at the front. -/
def zeroRun (groups : List Nat) : Nat :=
  (groups.takeWhile (· == 0)).length

/-- Start and length of the first longest run of zero groups. -/
def longestZeroRun (groups : List Nat) : Nat × Nat :=
  (List.range groups.length).foldl (fun best start =>
    let run := zeroRun (groups.drop start)
    if best.2 < run then (start, run) else best) (0, 0)

/-- Groups in hexadecimal digits with colons between them. -/
def groupsText (groups : List Nat) : String :=
  String.intercalate ":" (groups.map fun g => String.ofList (Nat.toDigits 16 g))

/-- The address in its shortest form. -/
def colonText (groups : List Nat) : String :=
  let (start, run) := longestZeroRun groups
  if run < 2 then groupsText groups
  else groupsText (groups.take start) ++ "::" ++ groupsText (groups.drop (start + run))

end Federation.Internet
