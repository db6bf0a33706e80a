import Federation.Text.CombiningClasses
import Federation.Text.Decompositions

/-!
# Composed text

Text that means the same can be encoded in several ways.  `Composed.form` chooses one: everything is
taken apart, marks are put into a fixed order, and what belongs together is put together again.

**Korean syllables.**  A syllable has a first consonant, a vowel and perhaps a last consonant, and
its code point is calculated from theirs.
-/

namespace Federation.Text.Composed

/-! ### Korean syllables -/

/-- The first syllable. -/
def syllableBase : Nat := 0xAC00

/-- The first of the first consonants. -/
def leadBase : Nat := 0x1100

/-- The first vowel. -/
def vowelBase : Nat := 0x1161

/-- The code point before the first of the last consonants. -/
def tailBase : Nat := 0x11A7

/-- The number of first consonants. -/
def leadCount : Nat := 19

/-- The number of vowels. -/
def vowelCount : Nat := 21

/-- The number of last consonants, none of them included. -/
def tailCount : Nat := 28

/-- The parts of a syllable. -/
def syllableParts? (point : Nat) : Option (List Nat) :=
  let index := point - syllableBase
  if syllableBase ≤ point ∧ index < leadCount * vowelCount * tailCount then
    let lead := leadBase + index / (vowelCount * tailCount)
    let vowel := vowelBase + index % (vowelCount * tailCount) / tailCount
    let tail := index % tailCount
    some (if tail = 0 then [lead, vowel] else [lead, vowel, tailBase + tail])
  else none

/-- The syllable that two parts make. -/
def syllable? (a b : Nat) : Option Nat :=
  if leadBase ≤ a ∧ a < leadBase + leadCount ∧ vowelBase ≤ b ∧ b < vowelBase + vowelCount then
    some (syllableBase + ((a - leadBase) * vowelCount + (b - vowelBase)) * tailCount)
  else if syllableBase ≤ a ∧ a < syllableBase + leadCount * vowelCount * tailCount ∧
      (a - syllableBase) % tailCount = 0 ∧ tailBase < b ∧ b < tailBase + tailCount then
    some (a + (b - tailBase))
  else none

/-! ### Taking apart -/

/-- The parts of a code point, one step deep. -/
def partsOf (point : Nat) : List Nat :=
  match syllableParts? point with
  | some parts => parts
  | none => (decompositions.image? point).getD [point]

/-- How deep parts have parts. -/
def depth : Nat := 4

/-- Code points taken apart. -/
def takenApart (points : List Nat) : List Nat :=
  depth.repeat (fun points => points.flatMap partsOf) points

/-- Puts a mark in its place among the marks before it, which are given last one first. -/
def placeMark (point : Nat) : List Nat → List Nat
  | [] => [point]
  | last :: before =>
    if combiningClass point < combiningClass last then last :: placeMark point before
    else point :: last :: before

/-- Code points with marks in order; what has been done is given last one first. -/
def ordered (done : List Nat) : List Nat → List Nat
  | [] => done.reverse
  | point :: rest =>
    if combiningClass point = 0 then ordered (point :: done) rest
    else ordered (placeMark point done) rest

/-! ### Putting together -/

/-- Whether an entry of the table is put together from two parts. -/
def isPair (a b : Nat) (entry : Table.Entry) : Bool :=
  entry.numbers == [a, b] && !onlyTakenApart.holds entry.first

/-- The code point that two parts make. -/
def composite? (a b : Nat) : Option Nat :=
  match syllable? a b with
  | some point => some point
  | none => (decompositions.find? (isPair a b)).map Table.Entry.first

/-- What has been put together so far. -/
structure Progress where
  /-- Everything before the last character that marks can attach to, last one first. -/
  done : List Nat
  /-- That character. -/
  base : Option Nat
  /-- The marks behind it that stay, last one first. -/
  stay : List Nat

namespace Progress

/-- Everything, last one first. -/
def all (p : Progress) : List Nat :=
  p.stay ++ p.base.toList ++ p.done

/-- Whether a mark that stays is in the way of a code point. -/
def isBlocked (p : Progress) (point : Nat) : Bool :=
  match p.stay with
  | [] => false
  | last :: _ => combiningClass point ≤ combiningClass last

/-- Takes a code point that makes no composite. -/
def keep (p : Progress) (point : Nat) : Progress :=
  if combiningClass point = 0 then ⟨p.all, some point, []⟩
  else { p with stay := point :: p.stay }

/-- Takes a code point. -/
def take (p : Progress) (point : Nat) : Progress :=
  match p.base.bind fun base => if p.isBlocked point then none else composite? base point with
  | some composite => { p with base := some composite }
  | none => p.keep point

end Progress

/-- Code points with everything put together that belongs together. -/
def putTogether (points : List Nat) : List Nat :=
  (points.foldl Progress.take ⟨[], none, []⟩).all.reverse

/-- The chosen form of a text. -/
def form (cs : List Char) : List Char :=
  (putTogether (ordered [] (takenApart (cs.map Char.toNat)))).map Char.ofNat

end Federation.Text.Composed
