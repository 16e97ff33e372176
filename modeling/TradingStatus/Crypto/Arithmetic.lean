/-! Arithmetic modulo a number, for the curves: powers by repeated squaring, and numbers as bytes, the
lowest first. -/

namespace TradingStatus

/-- A power modulo `m`; the exponent has at most `bits` bits. -/
def powMod (m : Nat) : Nat → Nat → Nat → Nat
  | 0, _, _ => 1 % m
  | bits + 1, base, exponent =>
    let rest := powMod m bits (base * base % m) (exponent / 2)
    if exponent % 2 = 1 then rest * base % m else rest

/-- A multiple of an element by repeated doubling; the factor has at most `bits` bits. -/
def scalarMul {α : Type} (zero : α) (add : α → α → α) : Nat → Nat → α → α
  | 0, _, _ => zero
  | bits + 1, factor, x =>
    let rest := scalarMul zero add bits (factor / 2) (add x x)
    if factor % 2 = 1 then add rest x else rest

/-- The number that bytes write, the lowest first. -/
def ofBytesLE (bytes : List UInt8) : Nat := bytes.foldr (fun b n => b.toNat + 256 * n) 0

/-- The number that bytes write, the highest first. -/
def ofBytesBE (bytes : List UInt8) : Nat := bytes.foldl (fun n b => n * 256 + b.toNat) 0

/-- The lowest `count` bytes of a number, the lowest first. -/
def toBytesLE : Nat → Nat → List UInt8
  | 0, _ => []
  | count + 1, n => UInt8.ofNat (n % 256) :: toBytesLE count (n / 256)

/-- The lowest `count` bytes of a number, the highest first. -/
def toBytesBE (count n : Nat) : List UInt8 := (toBytesLE count n).reverse

theorem length_toBytesLE (count n : Nat) : (toBytesLE count n).length = count := by
  induction count generalizing n with
  | zero => rfl
  | succ count ih => simp [toBytesLE, ih]

end TradingStatus
