import TradingStatus.Failure
import TradingStatus.Powers

/-! Durations in microseconds, from numbers of seconds. A number in double precision is cut at the
point, and its fraction is rounded twice: to a double number of microseconds, and that to the even one
of two nearest whole numbers. -/

namespace TradingStatus

/-- The most days that a duration may have, and the most that can be counted. -/
def dayLimit : Int := 999999999
def dayCountLimit : Int := 2147483647

/-- A number of microseconds, if it has not too many days. -/
def boundedDuration (micros : Int) : Except Failure Int :=
  let days := micros / 86400000000
  if dayCountLimit < days.natAbs then .error .durationHuge
  else if dayLimit < days.natAbs then .error (.durationDays days)
  else .ok micros

namespace Binary64

/-- The fraction of a number as a whole number of `2 ^ -scale`, and its whole part; both without the
sign. -/
def split (mantissa : Nat) (exponent : Int) : Nat × Nat × Nat :=
  if 0 ≤ exponent then (mantissa * twoTo exponent.toNat, 0, 0)
  else
    let scale := (-exponent).toNat
    (mantissa / twoTo scale, mantissa % twoTo scale, scale)

/-- The microseconds of a fraction of a second. -/
def fractionMicros (fraction scale : Nat) : Nat :=
  match ofRatio false (fraction * 1000000) (twoTo scale) with
  | finite _ mantissa exponent =>
    if 0 ≤ exponent then mantissa * twoTo exponent.toNat
    else roundDiv mantissa (twoTo (-exponent).toNat)
  | _ => 0

end Binary64

/-- The duration of a number of seconds. -/
def durationOf : Json → Except Failure Int
  | .int n => boundedDuration (n * 1000000)
  | .bool b => .ok (if b then 1000000 else 0)
  | .float .nan => .error .durationNotNumber
  | .float (.infinite _) => .error .durationInfinite
  | .float (.finite negative mantissa exponent) =>
    let (whole, fraction, scale) := Binary64.split mantissa exponent
    let micros : Int := whole * 1000000 + Binary64.fractionMicros fraction scale
    boundedDuration (if negative then -micros else micros)
  | _ => .error .lifetime

/-- A number of seconds is above zero, or no number at all. -/
def isLifetime : Json → Bool
  | .int n => 0 < n
  | .bool b => b
  | .float .nan => true
  | .float (.infinite negative) => !negative
  | .float (.finite negative mantissa _) => !negative && mantissa != 0
  | _ => false

end TradingStatus
