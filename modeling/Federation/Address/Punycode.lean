/-!
# Labels in ASCII

A label with characters beyond ASCII is written with ASCII characters only: its own ones first, and
behind a dash, as numbers, what the others are and where they stand.

**Numbers.**  The numbers are distances, in positions and code points, from one character to the
next, smallest code points first.  Digits have 36 values, and how many values end a number depends
on a bias that follows the size of the numbers before.

**Two directions.**  `Punycode.encode` writes a label, `Punycode.decode?` reads one.
-/

namespace Federation.Punycode

/-- The number of digits. -/
def base : Nat := 36

/-- The bias before the first number. -/
def firstBias : Nat := 72

/-- The first code point that is not written as it is. -/
def firstPoint : Nat := 128

/-- The digit of a value. -/
def digit (value : Nat) : Char :=
  if value < 26 then Char.ofNat ('a'.toNat + value) else Char.ofNat ('0'.toNat + (value - 26))

/-- The value of a digit. -/
def digitValue? (c : Char) : Option Nat :=
  if 'a' ≤ c ∧ c ≤ 'z' then some (c.toNat - 'a'.toNat)
  else if 'A' ≤ c ∧ c ≤ 'Z' then some (c.toNat - 'A'.toNat)
  else if '0' ≤ c ∧ c ≤ '9' then some (c.toNat - '0'.toNat + 26)
  else none

/-- The least value that does not end a number, at a place of it. -/
def threshold (bias place : Nat) : Nat :=
  max 1 (min 26 (base * place - bias))

/-- How often a number is divided, and what is left of it. -/
def shrink (steps n : Nat) : Nat × Nat :=
  if 455 < n then shrink (steps + 1) (n / 35) else (steps, n)
termination_by n
decreasing_by exact Nat.div_lt_self (by omega) (by omega)

/-- The bias after a number. -/
def adapt (number count : Nat) (isFirst : Bool) : Nat :=
  let scaled := if isFirst then number / 700 else number / 2
  let (steps, left) := shrink 0 (scaled + scaled / count)
  base * steps + base * left / (left + 38)

/-! ### Writing -/

/-- A number from a place on. -/
def numberText (bias place n : Nat) : List Char :=
  let t := threshold bias place
  if n < t then [digit n]
  else digit (t + (n - t) % (base - t)) :: numberText bias (place + 1) ((n - t) / (base - t))
termination_by n
decreasing_by
  have : 1 ≤ threshold bias place := Nat.le_max_left 1 _
  have := Nat.div_le_self (n - threshold bias place) (base - threshold bias place)
  omega

/-- What has been written. -/
structure Writer where
  /-- The text, last character first. -/
  text : List Char
  /-- The distance from the last character written. -/
  distance : Nat
  bias : Nat
  /-- How many characters have been written. -/
  count : Nat
  /-- Whether no number has been written yet. -/
  isFirst : Bool

/-- Passes one character of the label while characters with a code point are written. -/
def Writer.pass (point : Nat) (w : Writer) (c : Nat) : Writer :=
  if c < point then { w with distance := w.distance + 1 }
  else if c = point then
    { text := (numberText w.bias 1 w.distance).reverse ++ w.text
      distance := 0
      bias := adapt w.distance (w.count + 1) w.isFirst
      count := w.count + 1
      isFirst := false }
  else w

/-- Writes all characters with the code points given, in ascending order. -/
def writeAll (label : List Nat) (w : Writer) (next : Nat) : List Nat → Writer
  | [] => w
  | point :: rest =>
    let start := { w with distance := w.distance + (point - next) * (w.count + 1) }
    let done := label.foldl (Writer.pass point) start
    writeAll label { done with distance := done.distance + 1 } (point + 1) rest

/-- A label in ASCII. -/
def encode (label : List Char) : List Char :=
  let points := label.map Char.toNat
  let plain := label.filter fun c => c.toNat < firstPoint
  let others := (points.filter (firstPoint ≤ ·)).mergeSort.eraseReps
  let start := if plain.isEmpty then [] else '-' :: plain.reverse
  (writeAll points ⟨start, 0, firstBias, plain.length, true⟩ firstPoint others).text.reverse

/-! ### Reading -/

/-- What has been read. -/
structure Reader where
  /-- The characters of the label. -/
  label : List Char
  /-- The code point that comes next. -/
  point : Nat
  /-- The position that comes next. -/
  position : Nat
  bias : Nat
  /-- The part of a number that has been read, with its place and the weight of its next digit. -/
  number : Option (Nat × Nat × Nat)

/-- Takes a whole number: the distance to the next character. -/
def Reader.place? (r : Reader) (distance : Nat) : Option Reader :=
  let count := r.label.length + 1
  let reached := r.position + distance
  let point := r.point + reached / count
  if point.isValidChar then
    some
      { label := r.label.insertIdx (reached % count) (Char.ofNat point)
        point := point
        position := reached % count + 1
        bias := adapt distance count (r.position == 0)
        number := none }
  else none

/-- Takes one digit. -/
def Reader.take? (r : Reader) (c : Char) : Option Reader := do
  let value ← digitValue? c
  let (sum, place, weight) := r.number.getD (0, 1, 1)
  let t := threshold r.bias place
  let sum := sum + value * weight
  if value < t then r.place? sum
  else some { r with number := some (sum, place + 1, weight * (base - t)) }

/-- The parts of a written label: the ASCII characters before the last dash and what follows it. -/
def parts (text : List Char) : List Char × List Char :=
  let numbers := (text.reverse.takeWhile (· != '-')).reverse
  let plain := text.take (text.length - numbers.length - 1)
  if plain.isEmpty then ([], text) else (plain, numbers)

/-- The label that a text in ASCII stands for. -/
def decode? (text : List Char) : Option (List Char) := do
  let (plain, numbers) := parts text
  let r ← numbers.foldlM Reader.take? ⟨plain, firstPoint, 0, firstBias, none⟩
  if r.number.isNone then some r.label else none

end Federation.Punycode
