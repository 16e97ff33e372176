import TradingStatus.Crypto.NamedCurves
import TradingStatus.Crypto.Primality
import TradingStatus.Signing.Der

/-! Keys of other kinds than the one that signs here, in their own forms: keys on curves, and keys that
are sequences of numbers. They are read to tell a whole key of another kind from a document that is no
key. -/

namespace TradingStatus.ForeignKey

/-- What two statements come to, either of which may be left out. Two have to say the same. -/
def agreed? {α : Type} [BEq α] : Option α → Option α → Option α
  | some a, some b => if a == b then some a else none
  | some a, none => some a
  | none, b => b

/-- The contents of an optional element with a number, itself of one element. -/
def part? (n tag : UInt8) (bytes : List UInt8) :
    Option (Option (List UInt8) × List UInt8) := do
  match ← Der.optional (Der.partTag n) bytes with
  | (none, rest) => return (none, rest)
  | (some contents, rest) => return (some (← Der.only? tag contents), rest)

/-- An elliptic key is whole: its number is one of the curve, and where the public point is given
too, it belongs to the number. The curve is named in the key or outside it. -/
def isEllipticKey (outside : Option (List UInt8)) (bytes : List UInt8) : Bool :=
  ((do
    let body ← Der.only? Der.sequenceTag bytes
    let (version, rest) ← Der.element? Der.integerTag body
    let (number, rest) ← Der.element? Der.octetsTag rest
    let (inside, rest) ← part? 0 Der.nameTag rest
    let (point, rest) ← part? 1 Der.bitsTag rest
    guard (version == [1] && rest.isEmpty)
    let curve ← Curve.named.lookup (← agreed? outside inside)
    match point with
    | none => guard (curve.isKey number none)
    | some bits => guard (curve.isKey number (some (← Der.bits? bits)))) : Option Unit).isSome

/-- The numbers that an element consists of. -/
def numbers? (bytes : List UInt8) : Option (List Nat) := do
  let elements ← Der.elements? (← Der.only? Der.sequenceTag bytes)
  elements.mapM fun element => do Der.natural? (← Der.only? Der.integerTag element)

/-- An RSA key is whole: its modulus is the product of two primes, the exponents undo each other, and
what is kept to compute faster is right. -/
def isRsaKey (bytes : List UInt8) : Bool :=
  match numbers? bytes with
  | some [0, n, e, d, p, q, dp, dq, inverse] =>
    e % 2 == 1 && e != 1 && p % 2 == 1 && q % 2 == 1 && n == p * q &&
      Primality.isLikelyPrime p && Primality.isLikelyPrime q &&
      d * e % Nat.lcm (p - 1) (q - 1) == 1 && dp == d % (p - 1) && dq == d % (q - 1) &&
      inverse < p && q * inverse % p == 1
  | _ => false

/-- A DSA key is whole: three numbers that many keys share, and the two of this one. -/
def isDsaKey (bytes : List UInt8) : Bool :=
  match numbers? bytes with
  | some [0, _, _, _, _, _] => true
  | _ => false

/-- A DSA key of which the shared numbers stand apart is whole. -/
def isDsaNumber (shared key : List UInt8) : Bool :=
  ((numbers? shared).any fun numbers => numbers.length == 3) &&
    ((Der.only? Der.integerTag key).bind Der.natural?).isSome

end TradingStatus.ForeignKey
