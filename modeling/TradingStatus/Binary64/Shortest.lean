import TradingStatus.Binary64

/-! The shortest decimal text of a double-precision number: the fewest digits that read back as the
number, and of those the nearest to it. -/

namespace TradingStatus.Binary64

/-- Of the multiples of `10 ^ k` next to `mantissa * 2 ^ exponent`, the nearest one that rounds to
it, if one does. -/
def onGrid? (mantissa : Nat) (exponent : Int) (k : Int) : Option Nat :=
  let ten (e : Int) : Nat := tenTo e.toNat
  let two (e : Int) : Nat := twoTo e.toNat
  let up := two (exponent - 2) * ten (-k)
  let den := two (2 - exponent) * ten k
  let below := if mantissa = twoTo 52 ∧ minExponent < exponent then 1 else 2
  let value := 4 * mantissa * up
  let low := (4 * mantissa - below) * up
  let high := (4 * mantissa + 2) * up
  let inside (c : Nat) : Bool :=
    if mantissa % 2 = 0 then low ≤ c * den && c * den ≤ high
    else low < c * den && c * den < high
  let c := value / den
  match inside c, inside (c + 1) with
  | true, true => some (roundDiv value den)
  | true, false => some c
  | false, true => some (c + 1)
  | false, false => none

/-- The first grid at or below `10 ^ k` on which the number has a neighbour that rounds to it. -/
def searchGrid (mantissa : Nat) (exponent : Int) : Nat → Int → Nat × Int
  | 0, k => (0, k)
  | fuel + 1, k =>
    match onGrid? mantissa exponent k with
    | some c => (c, k)
    | none => searchGrid mantissa exponent fuel (k - 1)

/-- The digits of a positive number, as `c * 10 ^ k` with as few digits in `c` as possible. -/
def shortestDigits (mantissa : Nat) (exponent : Int) : Nat × Int :=
  let top := ((mantissa.log2 + 1 : Int) + exponent) * 30103 / 100000 + 2
  searchGrid mantissa exponent 24 top

/-- Digits with the point after the first `point` of them. -/
def positional (digits : List Char) (point : Int) : List Char :=
  if point ≤ 0 then '0' :: '.' :: (List.replicate (-point).toNat '0' ++ digits)
  else if digits.length ≤ point.toNat then
    digits ++ List.replicate (point.toNat - digits.length) '0' ++ ['.', '0']
  else digits.take point.toNat ++ '.' :: digits.drop point.toNat

/-- Digits with the point after the first of them, and a power of ten. -/
def scientific (digits : List Char) (power : Int) : List Char :=
  let exponent := (toString power.natAbs).toList
  let exponent := if exponent.length < 2 then '0' :: exponent else exponent
  let sign := if power < 0 then '-' else '+'
  match digits with
  | [d] => d :: 'e' :: sign :: exponent
  | d :: rest => d :: '.' :: (rest ++ 'e' :: sign :: exponent)
  | [] => []

/-- A finite positive number, positionally from 0.0001 on and below 10^16. -/
def positiveText (mantissa : Nat) (exponent : Int) : List Char :=
  let (c, k) := shortestDigits mantissa exponent
  let digits := (toString c).toList
  let point : Int := digits.length + k
  if -4 < point ∧ point ≤ 16 then positional digits point else scientific digits (point - 1)

/-- The shortest text of a number that is neither infinite nor undefined. -/
def finiteText (negative : Bool) (mantissa : Nat) (exponent : Int) : String :=
  let text := if mantissa = 0 then ['0', '.', '0'] else positiveText mantissa exponent
  String.ofList (if negative then '-' :: text else text)

end TradingStatus.Binary64
