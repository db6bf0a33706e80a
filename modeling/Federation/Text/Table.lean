/-!
# Tables of characters

A table assigns something to ranges of code points.  It is written as text, because that is how such
data is published and compared: an entry is a range in hexadecimal, and after a colon the numbers
it carries, with full stops between them.  `41-5A` is a range, `100-12E/2` every second code point of
one, and `C0:41.300` carries two numbers.  Entries are in ascending order.

**Looking up.**  `Table.entry?` finds the entry of a code point by halving.  `Table.numbers?` are the
numbers of its entry, `Table.image?` moves them along the range: they stand for the first code point,
and the next code point has the next numbers.
-/

namespace Federation.Text

/-- A range of code points with its numbers. -/
structure Table.Entry where
  first : Nat
  last : Nat
  /-- The distance from one code point of the range to the next. -/
  step : Nat
  numbers : List Nat

instance : Inhabited Table.Entry := ⟨⟨0, 0, 1, []⟩⟩

/-- Ranges of code points in ascending order. -/
abbrev Table := Array Table.Entry

namespace Table

/-- The number that hexadecimal digits denote. -/
def hexNumber (digits : String) : Nat :=
  digits.foldl (fun n c =>
    16 * n + (if c.isDigit then c.toNat - '0'.toNat else c.toNat - 'A'.toNat + 10)) 0

/-- A range with numbers. -/
def entryOf (range : String) (numbers : List Nat) : Entry :=
  let (ends, step) :=
    match range.splitOn "/" with
    | [ends, step] => (ends, hexNumber step)
    | _ => (range, 1)
  match ends.splitOn "-" with
  | [first, last] => ⟨hexNumber first, hexNumber last, step, numbers⟩
  | _ => ⟨hexNumber ends, hexNumber ends, step, numbers⟩

/-- One entry of a written table. -/
def readEntry (written : String) : Entry :=
  match written.splitOn ":" with
  | [range, numbers] => entryOf range ((numbers.splitOn ".").map hexNumber)
  | _ => entryOf written []

/-- The table that a text describes. -/
def ofText (text : String) : Table :=
  (((text.splitToList fun c => c == ' ' || c == '\n').filter fun word => !word.isEmpty).map
    readEntry).toArray

/-- The entry of a code point among those between two positions. -/
def entryBetween? (table : Table) (point low high : Nat) : Option Entry :=
  if low < high then
    let middle := (low + high) / 2
    let entry := table.getD middle default
    if point < entry.first then entryBetween? table point low middle
    else if entry.last < point then entryBetween? table point (middle + 1) high
    else if (point - entry.first) % entry.step = 0 then some entry
    else none
  else none
termination_by high - low

/-- The entry of a code point. -/
def entry? (table : Table) (point : Nat) : Option Entry :=
  table.entryBetween? point 0 table.size

/-- Whether a code point has an entry. -/
def holds (table : Table) (point : Nat) : Bool :=
  (table.entry? point).isSome

/-- The numbers of the entry of a code point. -/
def numbers? (table : Table) (point : Nat) : Option (List Nat) :=
  (table.entry? point).map Entry.numbers

/-- The numbers of a code point itself. -/
def image? (table : Table) (point : Nat) : Option (List Nat) :=
  (table.entry? point).map fun entry => entry.numbers.map (· + (point - entry.first))

end Table

end Federation.Text
