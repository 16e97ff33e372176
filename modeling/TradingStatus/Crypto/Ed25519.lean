import TradingStatus.Crypto.Arithmetic
import TradingStatus.Crypto.Sha512
import TradingStatus.Powers

/-! The signatures Ed25519: the group of the curve, keys from seeds of 32 bytes, signing and verifying.
Verifying wants the scalar below the order of the group and compares the encoded point; it does not
multiply by the cofactor and takes points of small order like any other. -/

namespace TradingStatus.Ed25519

/-- The prime of the field. -/
def prime : Nat := twoTo 255 - 19

/-- The order of the base point. -/
def order : Nat := twoTo 252 + 27742317777372353535851937790883648493

/-- The inverse of a field element. -/
def inverse (x : Nat) : Nat := powMod prime 255 x (prime - 2)

/-- The parameter of the curve. -/
def curve : Nat := (prime - 121665) * inverse 121666 % prime

/-- A square root of minus one. -/
def rootOfMinusOne : Nat := powMod prime 255 2 ((prime - 1) / 4)

/-- A point in extended coordinates. -/
structure Point where
  x : Nat
  y : Nat
  z : Nat
  t : Nat

/-- The neutral point. -/
def Point.zero : Point := ⟨0, 1, 1, 0⟩

/-- The point with two affine coordinates. -/
def Point.ofAffine (x y : Nat) : Point := ⟨x, y, 1, x * y % prime⟩

/-- The sum of two points. -/
def Point.add (p q : Point) : Point :=
  let a := (p.y + prime - p.x) * (q.y + prime - q.x) % prime
  let b := (p.y + p.x) * (q.y + q.x) % prime
  let c := p.t * q.t % prime * (2 * curve) % prime
  let d := 2 * (p.z * q.z) % prime
  let e := b + prime - a
  let f := d + prime - c
  let g := d + c
  let h := b + a
  ⟨e * f % prime, g * h % prime, f * g % prime, e * h % prime⟩

/-- A multiple of a point. -/
def Point.scale (n : Nat) (p : Point) : Point := scalarMul Point.zero Point.add 256 n p

/-- The opposite point. -/
def Point.neg (p : Point) : Point := ⟨(prime - p.x) % prime, p.y, p.z, (prime - p.t) % prime⟩

/-- The bytes of a point: the second coordinate, and in the top bit whether the first is odd. -/
def Point.encode (p : Point) : List UInt8 :=
  let i := inverse p.z
  let x := p.x * i % prime
  let y := p.y * i % prime
  toBytesLE 32 (y + x % 2 * twoTo 255)

/-- A first coordinate for a second one, if the curve has such a point. -/
def root? (y : Nat) : Option Nat :=
  let u := (y * y + prime - 1) % prime
  let v := (curve * (y * y % prime) + 1) % prime
  let v3 := v * v % prime * v % prime
  let v7 := v3 * v3 % prime * v % prime
  let x := u * v3 % prime * powMod prime 255 (u * v7 % prime) ((prime - 5) / 8) % prime
  let check := v * (x * x % prime) % prime
  if check = u then some x
  else if check = (prime - u) % prime then some (x * rootOfMinusOne % prime)
  else none

/-- The point that 32 bytes write. A second coordinate beyond the prime is reduced, and a first one of
zero counts as odd and as even. -/
def Point.decode? (bytes : List UInt8) : Option Point := do
  let n := ofBytesLE bytes
  let y := n % twoTo 255 % prime
  let x ← root? y
  return .ofAffine (if x % 2 = n / twoTo 255 then x else (prime - x) % prime) y

/-- The point that keys are multiples of: four fifths is its second coordinate. -/
def base : Point :=
  (Point.decode? (toBytesLE 32 (4 * inverse 5 % prime))).getD Point.zero

/-- The factor of a key, with its lowest bits cleared and its highest bit set. -/
def clamp (n : Nat) : Nat := n % twoTo 254 / 8 * 8 + twoTo 254

/-- The factor of the key with a seed. -/
def secretFactor (seed : List UInt8) : Nat := clamp (ofBytesLE ((Sha512.digest seed).take 32))

/-- The public key of a seed. -/
def publicKey (seed : List UInt8) : List UInt8 := (base.scale (secretFactor seed)).encode

/-- A digest as a scalar. -/
def scalarOf (message : List UInt8) : Nat := ofBytesLE (Sha512.digest message) % order

/-- The signature of a message. -/
def sign (seed message : List UInt8) : List UInt8 :=
  let nonce := scalarOf ((Sha512.digest seed).drop 32 ++ message)
  let commitment := (base.scale nonce).encode
  let challenge := scalarOf (commitment ++ publicKey seed ++ message)
  commitment ++ toBytesLE 32 ((nonce + challenge * secretFactor seed) % order)

/-- A signature is one of a message under a public key. -/
def verify (publicKey signature message : List UInt8) : Bool :=
  if publicKey.length ≠ 32 ∨ signature.length ≠ 64 then false
  else
    let commitment := signature.take 32
    let scalar := ofBytesLE (signature.drop 32)
    if order ≤ scalar then false
    else
      match Point.decode? publicKey with
      | none => false
      | some key =>
        let challenge := scalarOf (commitment ++ publicKey ++ message)
        ((base.scale scalar).add (key.neg.scale challenge)).encode == commitment

/-- A signature has 64 bytes. -/
theorem length_sign (seed message : List UInt8) : (sign seed message).length = 64 := by
  simp [sign, Point.encode, length_toBytesLE]

end TradingStatus.Ed25519
