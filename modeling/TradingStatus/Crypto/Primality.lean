import TradingStatus.Crypto.Arithmetic

/-! Telling primes by the square roots of one: modulo a prime there are only two, so halving the exponent
of a power that is one leads to one again or to minus one. A number that passes for every base is taken
for a prime. -/

namespace TradingStatus.Primality

/-- The bases that are tried. -/
def bases : List Nat := [2, 3, 5, 7, 11, 13, 17, 19, 23, 29, 31, 37, 41, 43, 47, 53]

/-- The power of a base is one or minus one modulo `n`, and while it is one, so is that with half the
exponent, until the exponent is odd. The exponent is halved `halvings` times at most. -/
def passes (n base : Nat) : Nat → Nat → Bool
  | 0, _ => false
  | halvings + 1, exponent =>
    let power := powMod n (n.log2 + 1) (base % n) exponent
    power + 1 == n ||
      (power == 1 && (exponent % 2 == 1 || passes n base halvings (exponent / 2)))

/-- A number is a prime, or an odd one that passes for a prime with every base. -/
def isLikelyPrime (n : Nat) : Bool :=
  bases.contains n ||
    (n % 2 == 1 && 1 < n && bases.all fun base => passes n base (n.log2 + 1) ((n - 1) / 2))

end TradingStatus.Primality
