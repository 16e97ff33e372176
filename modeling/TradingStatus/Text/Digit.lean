import TradingStatus.Text.DigitTable

/-! Digits of every script: what a decimal digit is worth, and which further characters count as
digits. -/

namespace TradingStatus.Text

/-- The value of a decimal digit of any script. -/
def decimalDigit? (c : Char) : Option Nat :=
  decimalZeros.findSome? fun first =>
    if first ≤ c.toNat ∧ c.toNat < first + 10 then some (c.toNat - first) else none

/-- Decimal digits, superscripts, subscripts, circled numbers and the like. -/
def isDigit (c : Char) : Bool :=
  (decimalDigit? c).isSome ||
    otherDigits.any fun (first, last) => first ≤ c.toNat && c.toNat ≤ last

/-- A text of digits: one at least, and nothing else. -/
def isDigitText (s : String) : Bool := !s.isEmpty && s.toList.all isDigit

/-- The value of a digit of the ASCII alphabet. -/
def asciiDigit? (c : Char) : Option Nat :=
  if '0' ≤ c ∧ c ≤ '9' then some (c.toNat - '0'.toNat) else none

/-- The number that a text of ASCII digits writes. -/
def asciiNat? (cs : List Char) : Option Nat :=
  if cs.isEmpty then none
  else cs.foldlM (fun n c => (asciiDigit? c).map (n * 10 + ·)) 0

/-- The lowest `width` decimal digits of a number. -/
def decimalDigits : Nat → Nat → List Char
  | 0, _ => []
  | width + 1, n => decimalDigits width (n / 10) ++ [Char.ofNat ('0'.toNat + n % 10)]

/-- A number in `width` decimal digits. -/
def padded (width n : Nat) : String := String.ofList (decimalDigits width n)

theorem length_decimalDigits (width n : Nat) : (decimalDigits width n).length = width := by
  induction width generalizing n with
  | zero => rfl
  | succ width ih => simp [decimalDigits, ih]

end TradingStatus.Text
