import TradingStatus.Powers

/-! Numbers in double precision, held as exact integers: a mantissa below 2^53 times a power of two.
`ofRatio` rounds a fraction to the nearest of them and a tie to the even one. -/

namespace TradingStatus

/-- A double-precision number: no number, an infinity, or `mantissa * 2 ^ exponent` with a sign. -/
inductive Binary64
  | nan
  | infinite (negative : Bool)
  | finite (negative : Bool) (mantissa : Nat) (exponent : Int)
deriving DecidableEq, Inhabited

/-- The whole number nearest to `num / den`, the even one of two. -/
def roundDiv (num den : Nat) : Nat :=
  let q := num / den
  let r := num % den
  if 2 * r > den ∨ (2 * r = den ∧ q % 2 = 1) then q + 1 else q

namespace Binary64

/-- The lowest exponent of a finite number. -/
def minExponent : Int := -1074

/-- The highest exponent of a finite number. -/
def maxExponent : Int := 971

/-- Numerator and denominator of `num / den` times `2 ^ e`. -/
def scale (num den : Nat) (e : Int) : Nat × Nat :=
  if 0 ≤ e then (num * twoTo e.toNat, den) else (num, den * twoTo (-e).toNat)

/-- The greatest `e` with `2 ^ e ≤ num / den`, for positive numbers. -/
def floorLog2 (num den : Nat) : Int :=
  let e : Int := (num.log2 : Int) - den.log2
  let (a, b) := scale num den (-e)
  if b ≤ a then e else e - 1

/-- The number nearest to `num / den`, the one with an even mantissa of two. -/
def ofRatio (negative : Bool) (num den : Nat) : Binary64 :=
  if num = 0 then finite negative 0 minExponent
  else
    let e := max (floorLog2 num den - 52) minExponent
    let (a, b) := scale num den (-e)
    let m := roundDiv a b
    let (m, e) := if m = twoTo 53 then (twoTo 52, e + 1) else (m, e)
    if maxExponent < e then infinite negative else finite negative m e

/-- The number nearest to `digits * 10 ^ e`. Exponents far outside the range of finite numbers are
answered without computing the power. -/
def ofDecimal (negative : Bool) (digits : Nat) (e : Int) : Binary64 :=
  if digits = 0 then finite negative 0 minExponent
  else
    let bits : Int := digits.log2
    if e > 400 then infinite negative
    else if e < 0 ∧ bits + 3 * e < -1200 then finite negative 0 minExponent
    else if 0 ≤ e then ofRatio negative (digits * tenTo e.toNat) 1
    else ofRatio negative digits (tenTo (-e).toNat)

/-- Zero, with either sign. -/
def isZero : Binary64 → Bool
  | finite _ 0 _ => true
  | _ => false

end Binary64

end TradingStatus
