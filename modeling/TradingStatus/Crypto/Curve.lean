import TradingStatus.Crypto.Arithmetic

/-! Elliptic curves y² = x³ + ax + b over a prime field, as far as it is needed to tell whether a key of
a curve is whole: multiples of the base point and their encodings. The constant b plays no part in
sums of points, so it is not kept. -/

namespace TradingStatus

/-- A curve with a base point. -/
structure Curve where
  /-- The prime of the field, and its length in bits. -/
  prime : Nat
  bits : Nat
  /-- The factor of x. -/
  factor : Nat
  baseX : Nat
  baseY : Nat
  /-- The order of the base point. -/
  order : Nat

/-- A point of a curve: the neutral one, or one with two coordinates. -/
inductive CurvePoint
  | zero
  | affine (x y : Nat)
deriving DecidableEq

namespace Curve

/-- The bytes that a field element takes. -/
def size (curve : Curve) : Nat := (curve.bits + 7) / 8

/-- The inverse of a field element. -/
def inverse (curve : Curve) (x : Nat) : Nat := powMod curve.prime curve.bits x (curve.prime - 2)

/-- The point where the line through a point with a slope meets the curve, mirrored. -/
def along (curve : Curve) (slope x1 y1 x2 : Nat) : CurvePoint :=
  let prime := curve.prime
  let x := (slope * slope + 2 * prime - x1 - x2) % prime
  .affine x ((slope * (x1 + prime - x) + prime - y1) % prime)

/-- The sum of two points. -/
def add (curve : Curve) : CurvePoint → CurvePoint → CurvePoint
  | .zero, q => q
  | p, .zero => p
  | .affine x1 y1, .affine x2 y2 =>
    let prime := curve.prime
    if x1 = x2 then
      if (y1 + y2) % prime = 0 then .zero
      else
        let slope := (3 * (x1 * x1) + curve.factor) * curve.inverse (2 * y1 % prime) % prime
        curve.along slope x1 y1 x2
    else
      let slope := (y2 + prime - y1) * curve.inverse ((x2 + prime - x1) % prime) % prime
      curve.along slope x1 y1 x2

/-- The public point of a key. -/
def publicPoint (curve : Curve) (key : Nat) : CurvePoint :=
  scalarMul CurvePoint.zero curve.add curve.bits key (.affine curve.baseX curve.baseY)

/-- The ways to write a point: in full, short, or both at once. -/
def encodings (curve : Curve) : CurvePoint → List (List UInt8)
  | .zero => []
  | .affine x y =>
    let parity := UInt8.ofNat (y % 2)
    let x := toBytesBE curve.size x
    let y := toBytesBE curve.size y
    [4 :: x ++ y, (2 + parity) :: x, (6 + parity) :: x ++ y]

/-- Bytes write a key of the curve, and others, if they are given, its public point. -/
def isKey (curve : Curve) (key : List UInt8) (point : Option (List UInt8)) : Bool :=
  let number := ofBytesBE key
  key.length == curve.size && 0 < number && number < curve.order &&
    match point with
    | none => true
    | some bytes => (curve.encodings (curve.publicPoint number)).contains bytes

end Curve

end TradingStatus
