import Federation.Crypto.Sha2

/-!
# Ed25519 signatures

Signatures over the twisted Edwards curve with the prime 2 ^ 255 - 19, in plain arithmetic of natural
numbers.

**Points.**  A point is held in extended coordinates, in which one formula adds any two points of the
curve.  `Point.encode` and `Point.decode?` go to 32 bytes and back; decoding takes a second
coordinate that is not reduced, and a sign for a first coordinate of zero.

**Signatures.**  `Ed25519.sign` needs no randomness.  `Ed25519.verify` recomputes the point of the
signature and compares its bytes, and it refuses a scalar that is not reduced.
-/

namespace Federation.Ed25519

/-- The prime of the field. -/
def prime : Nat := Nat.pow 2 255 - 19

/-- The order of the base point. -/
def order : Nat := Nat.pow 2 252 + 27742317777372353535851937790883648493

/-! ### The field -/

/-- A power in the field. -/
def power (base exponent : Nat) : Nat :=
  if exponent = 0 then 1
  else
    let half := power (base * base % prime) (exponent / 2)
    if exponent % 2 = 1 then base * half % prime else half
termination_by exponent
decreasing_by omega

/-- The difference of two reduced numbers. -/
def sub (a b : Nat) : Nat := (a + prime - b) % prime

/-- The inverse of a number other than zero. -/
def inverse (a : Nat) : Nat := power a (prime - 2)

/-- The coefficient of the curve. -/
def coefficient : Nat := (prime - 121665) * inverse 121666 % prime

/-- A square root of minus one. -/
def rootOfMinusOne : Nat := power 2 ((prime - 1) / 4)

/-- A square root of a quotient, if it has one. -/
def rootOfQuotient? (num den : Nat) : Option Nat :=
  let den3 := den * den % prime * den % prime
  let den7 := den3 * den3 % prime * den % prime
  let root := num * den3 % prime * power (num * den7 % prime) ((prime - 5) / 8) % prime
  let check := den * (root * root % prime) % prime
  if check = num % prime then some root
  else if check = sub 0 (num % prime) then some (root * rootOfMinusOne % prime)
  else none

/-! ### The curve -/

/-- A point in extended coordinates: the two coordinates over a common denominator, and their
product. -/
structure Point where
  x : Nat
  y : Nat
  z : Nat
  t : Nat
deriving DecidableEq

namespace Point

/-- The neutral point. -/
def zero : Point := ⟨0, 1, 1, 0⟩

/-- The sum of two points. -/
def add (p q : Point) : Point :=
  let a := sub p.y p.x * sub q.y q.x % prime
  let b := (p.y + p.x) * (q.y + q.x) % prime
  let c := 2 * p.t * q.t % prime * coefficient % prime
  let d := 2 * p.z * q.z % prime
  let e := sub b a
  let f := sub d c
  let g := (d + c) % prime
  let h := (b + a) % prime
  ⟨e * f % prime, g * h % prime, f * g % prime, e * h % prime⟩

/-- The opposite point. -/
def negate (p : Point) : Point := ⟨sub 0 p.x, p.y, p.z, sub 0 p.t⟩

/-- A multiple of a point. -/
def multiple (n : Nat) (p : Point) : Point :=
  if n = 0 then zero
  else
    let half := multiple (n / 2) (p.add p)
    if n % 2 = 1 then half.add p else half
termination_by n
decreasing_by omega

end Point

/-- A number as so many bytes, the low one first. -/
def littleEndian (count n : Nat) : List UInt8 :=
  (Sha2.bigEndian count n).reverse

/-- The number some bytes denote, the low one first. -/
def ofLittleEndian (bs : List UInt8) : Nat :=
  Sha2.ofBigEndian bs.reverse

namespace Point

/-- The second coordinate with the parity of the first in the highest bit. -/
def encode (p : Point) : List UInt8 :=
  let denominator := inverse p.z
  let x := p.x * denominator % prime
  let y := p.y * denominator % prime
  littleEndian 32 (y + Nat.pow 2 255 * (x % 2))

/-- The point with the second coordinate and the parity in 32 bytes, if there is one. -/
def decode? (bs : List UInt8) : Option Point := do
  let n := ofLittleEndian bs
  let y := n % Nat.pow 2 255 % prime
  let y2 := y * y % prime
  let root ← rootOfQuotient? (sub y2 1) ((coefficient * y2 + 1) % prime)
  let x := if root % 2 = n / Nat.pow 2 255 then root else sub 0 root
  return ⟨x, y, 1, x * y % prime⟩

end Point

/-- The base point. -/
def base : Point :=
  (Point.decode? (littleEndian 32 (4 * inverse 5 % prime))).getD Point.zero

/-! ### Signatures -/

/-- The scalar and the second half of the digest of a seed. -/
def expand (seed : List UInt8) : Nat × List UInt8 :=
  let digest := Sha2.sha512 seed
  let low := ofLittleEndian (digest.take 32)
  (low % Nat.pow 2 254 / 8 * 8 + Nat.pow 2 254, digest.drop 32)

/-- The public key of a seed. -/
def publicKey (seed : List UInt8) : List UInt8 :=
  (Point.multiple (expand seed).1 base).encode

/-- The scalar that binds a signature to key and message. -/
def challenge (commitment key message : List UInt8) : Nat :=
  ofLittleEndian (Sha2.sha512 (commitment ++ key ++ message)) % order

/-- The signature of a message. -/
def sign (seed message : List UInt8) : List UInt8 :=
  let (scalar, nonceKey) := expand seed
  let key := (Point.multiple scalar base).encode
  let nonce := ofLittleEndian (Sha2.sha512 (nonceKey ++ message)) % order
  let commitment := (Point.multiple nonce base).encode
  let response := (nonce + challenge commitment key message * scalar) % order
  commitment ++ littleEndian 32 response

/-- Whether a signature of a message is by a key. -/
def verify (key message signature : List UInt8) : Bool :=
  if signature.length ≠ 64 ∨ key.length ≠ 32 then false
  else
    let commitment := signature.take 32
    let response := ofLittleEndian (signature.drop 32)
    match Point.decode? key with
    | none => false
    | some point =>
      if order ≤ response then false
      else
        let product := Point.multiple (challenge commitment key message) point.negate
        ((Point.multiple response base).add product).encode == commitment

end Federation.Ed25519
