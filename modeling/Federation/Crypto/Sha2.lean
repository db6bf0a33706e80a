/-!
# The SHA-2 digests

One construction in two widths.  A message is padded to whole blocks of sixteen words, and every
block is mixed into a state of eight words.

**Widths.**  `Sha2.Variant` holds what differs: the word size is its index, the rotation distances and
the number of rounds are its fields.  The constants of the narrow variant are the upper halves of
those of the wide one, because both are the leading bits of the same roots of primes.

**Digests.**  `Sha2.sha256` and `Sha2.sha512` map bytes to bytes.
-/

namespace Federation.Sha2

/-- The leading bits of the fractional parts of the cube roots of the first eighty primes. -/
def cubeRoots : List (BitVec 64) :=
  [0x428A2F98D728AE22, 0x7137449123EF65CD, 0xB5C0FBCFEC4D3B2F, 0xE9B5DBA58189DBBC,
   0x3956C25BF348B538, 0x59F111F1B605D019, 0x923F82A4AF194F9B, 0xAB1C5ED5DA6D8118,
   0xD807AA98A3030242, 0x12835B0145706FBE, 0x243185BE4EE4B28C, 0x550C7DC3D5FFB4E2,
   0x72BE5D74F27B896F, 0x80DEB1FE3B1696B1, 0x9BDC06A725C71235, 0xC19BF174CF692694,
   0xE49B69C19EF14AD2, 0xEFBE4786384F25E3, 0x0FC19DC68B8CD5B5, 0x240CA1CC77AC9C65,
   0x2DE92C6F592B0275, 0x4A7484AA6EA6E483, 0x5CB0A9DCBD41FBD4, 0x76F988DA831153B5,
   0x983E5152EE66DFAB, 0xA831C66D2DB43210, 0xB00327C898FB213F, 0xBF597FC7BEEF0EE4,
   0xC6E00BF33DA88FC2, 0xD5A79147930AA725, 0x06CA6351E003826F, 0x142929670A0E6E70,
   0x27B70A8546D22FFC, 0x2E1B21385C26C926, 0x4D2C6DFC5AC42AED, 0x53380D139D95B3DF,
   0x650A73548BAF63DE, 0x766A0ABB3C77B2A8, 0x81C2C92E47EDAEE6, 0x92722C851482353B,
   0xA2BFE8A14CF10364, 0xA81A664BBC423001, 0xC24B8B70D0F89791, 0xC76C51A30654BE30,
   0xD192E819D6EF5218, 0xD69906245565A910, 0xF40E35855771202A, 0x106AA07032BBD1B8,
   0x19A4C116B8D2D0C8, 0x1E376C085141AB53, 0x2748774CDF8EEB99, 0x34B0BCB5E19B48A8,
   0x391C0CB3C5C95A63, 0x4ED8AA4AE3418ACB, 0x5B9CCA4F7763E373, 0x682E6FF3D6B2B8A3,
   0x748F82EE5DEFB2FC, 0x78A5636F43172F60, 0x84C87814A1F0AB72, 0x8CC702081A6439EC,
   0x90BEFFFA23631E28, 0xA4506CEBDE82BDE9, 0xBEF9A3F7B2C67915, 0xC67178F2E372532B,
   0xCA273ECEEA26619C, 0xD186B8C721C0C207, 0xEADA7DD6CDE0EB1E, 0xF57D4F7FEE6ED178,
   0x06F067AA72176FBA, 0x0A637DC5A2C898A6, 0x113F9804BEF90DAE, 0x1B710B35131C471B,
   0x28DB77F523047D84, 0x32CAAB7B40C72493, 0x3C9EBE0A15C9BEBC, 0x431D67C49C100D4C,
   0x4CC5D4BECB3E42B6, 0x597F299CFC657E2A, 0x5FCB6FAB3AD6FAEC, 0x6C44198C4A475817]

/-- The leading bits of the fractional parts of the square roots of the first eight primes. -/
def squareRoots : List (BitVec 64) :=
  [0x6A09E667F3BCC908, 0xBB67AE8584CAA73B, 0x3C6EF372FE94F82B, 0xA54FF53A5F1D36F1,
   0x510E527FADE682D1, 0x9B05688C2B3E6C1F, 0x1F83D9ABFB41BD6B, 0x5BE0CD19137E2179]

/-- Three distances by which a word is moved before its copies are combined. -/
structure Distances where
  first : Nat
  second : Nat
  third : Nat

/-- What the widths of the construction differ in. -/
structure Variant (w : Nat) where
  /-- The rotations of the first state word. -/
  upperA : Distances
  /-- The rotations of the fifth state word. -/
  upperE : Distances
  /-- The rotations and the shift of the schedule word fifteen places back. -/
  lowerFar : Distances
  /-- The rotations and the shift of the schedule word two places back. -/
  lowerNear : Distances
  /-- The constant of each round. -/
  constants : List (BitVec w)
  /-- The state before the first block. -/
  initial : List (BitVec w)

/-- The upper half of a wide constant. -/
def upperHalf (k : BitVec 64) : BitVec 32 := k.extractLsb' 32 32

/-- The variant of 32-bit words and 64 rounds. -/
def narrow : Variant 32 where
  upperA := ⟨2, 13, 22⟩
  upperE := ⟨6, 11, 25⟩
  lowerFar := ⟨7, 18, 3⟩
  lowerNear := ⟨17, 19, 10⟩
  constants := (cubeRoots.take 64).map upperHalf
  initial := squareRoots.map upperHalf

/-- The variant of 64-bit words and 80 rounds. -/
def wide : Variant 64 where
  upperA := ⟨28, 34, 39⟩
  upperE := ⟨14, 18, 41⟩
  lowerFar := ⟨1, 8, 7⟩
  lowerNear := ⟨19, 61, 6⟩
  constants := cubeRoots
  initial := squareRoots

variable {w : Nat}

/-- The three rotations of a word combined. -/
def upper (d : Distances) (x : BitVec w) : BitVec w :=
  x.rotateRight d.first ^^^ x.rotateRight d.second ^^^ x.rotateRight d.third

/-- Two rotations and a shift of a word combined. -/
def lower (d : Distances) (x : BitVec w) : BitVec w :=
  x.rotateRight d.first ^^^ x.rotateRight d.second ^^^ (x >>> d.third)

/-- The words of the rounds, given the sixteen of a block: each later one comes from four before
it. -/
def schedule (v : Variant w) : Nat → List (BitVec w) → List (BitVec w)
  | 0, _ => []
  | _, [] => []
  | n + 1, word :: window =>
    let next :=
      lower v.lowerNear (window.getD 13 0) + window.getD 8 0 + lower v.lowerFar (window.getD 0 0) +
        word
    word :: schedule v n (window ++ [next])

/-- The eight words of the state. -/
structure State (w : Nat) where
  a : BitVec w
  b : BitVec w
  c : BitVec w
  d : BitVec w
  e : BitVec w
  f : BitVec w
  g : BitVec w
  h : BitVec w

namespace State

/-- A state from its words. -/
def ofList (words : List (BitVec w)) : State w :=
  let word (i : Nat) : BitVec w := words.getD i 0
  ⟨word 0, word 1, word 2, word 3, word 4, word 5, word 6, word 7⟩

/-- The words of a state. -/
def toList (s : State w) : List (BitVec w) := [s.a, s.b, s.c, s.d, s.e, s.f, s.g, s.h]

/-- The sum of two states, word by word. -/
def add (s t : State w) : State w :=
  ⟨s.a + t.a, s.b + t.b, s.c + t.c, s.d + t.d, s.e + t.e, s.f + t.f, s.g + t.g, s.h + t.h⟩

/-- One round, with a word of the schedule and the constant of the round. -/
def round (v : Variant w) (s : State w) (word constant : BitVec w) : State w :=
  let choice := (s.e &&& s.f) ^^^ (~~~s.e &&& s.g)
  let majority := (s.a &&& s.b) ^^^ (s.a &&& s.c) ^^^ (s.b &&& s.c)
  let first := s.h + upper v.upperE s.e + choice + constant + word
  let second := upper v.upperA s.a + majority
  ⟨first + second, s.a, s.b, s.c, s.d + first, s.e, s.f, s.g⟩

/-- Mixes the words of a block into a state. -/
def mix (v : Variant w) (s : State w) (block : List (BitVec w)) : State w :=
  let words := schedule v v.constants.length block
  s.add ((words.zip v.constants).foldl (fun t pair => t.round v pair.1 pair.2) s)

end State

/-- A number as so many bytes, the high one first. -/
def bigEndian (count n : Nat) : List UInt8 :=
  (List.range count).map fun i => UInt8.ofNat (n / Nat.pow 256 (count - 1 - i))

/-- The number some bytes denote, the high one first. -/
def ofBigEndian (bs : List UInt8) : Nat :=
  bs.foldl (fun n b => n * 256 + b.toNat) 0

/-- Pieces of a positive length; what is left over at the end is a piece too. -/
def chunks {α : Type} (size : Nat) (xs : List α) : List (List α) :=
  if _h : size = 0 ∨ xs = [] then []
  else xs.take size :: chunks size (xs.drop size)
termination_by xs.length
decreasing_by
  have := List.length_pos_iff.2 (not_or.1 _h).2
  simp only [List.length_drop]
  omega

/-- A message, a one bit, zero bits and the length of the message in bits, together whole blocks. -/
def pad (wordBytes : Nat) (message : List UInt8) : List UInt8 :=
  let block := 16 * wordBytes
  let used := message.length + 1 + 2 * wordBytes
  message ++ 0x80 :: List.replicate ((block - used % block) % block) 0 ++
    bigEndian (2 * wordBytes) (8 * message.length)

/-- The digest of a message. -/
def digest (v : Variant w) (message : List UInt8) : List UInt8 :=
  let wordBytes := w / 8
  let words := (chunks wordBytes (pad wordBytes message)).map fun bs => BitVec.ofNat w (ofBigEndian bs)
  let final := (chunks 16 words).foldl (fun s block => s.mix v block) (State.ofList v.initial)
  final.toList.flatMap fun word => bigEndian wordBytes word.toNat

/-- The digest of 32 bytes. -/
def sha256 (message : List UInt8) : List UInt8 := digest narrow message

/-- The digest of 64 bytes. -/
def sha512 (message : List UInt8) : List UInt8 := digest wide message

end Federation.Sha2
