import TradingStatus.Text.Blank
import TradingStatus.Text.Quoted

/-! Bytes as hexadecimal digits, two to a byte. Writing uses lower case and nothing else; reading
takes either case, and blanks between the bytes. -/

namespace TradingStatus.Text.Hex

/-- The value of a hexadecimal digit of either case. -/
def value? (c : Char) : Option Nat :=
  if '0' ≤ c ∧ c ≤ '9' then some (c.toNat - '0'.toNat)
  else if 'a' ≤ c ∧ c ≤ 'f' then some (c.toNat - 'a'.toNat + 10)
  else if 'A' ≤ c ∧ c ≤ 'F' then some (c.toNat - 'A'.toNat + 10)
  else none

/-- The digits of bytes. -/
def encode (bytes : List UInt8) : String :=
  String.ofList (bytes.flatMap fun b => hexDigits 2 b.toNat)

/-- The bytes that digits write. Spacing may stand between two bytes. -/
def decodeChars? : List Char → Option (List UInt8)
  | [] => some []
  | [c] => if isSpacing c then some [] else none
  | c :: d :: rest =>
    if isSpacing c then decodeChars? (d :: rest)
    else do
      let high ← value? c
      let low ← value? d
      return UInt8.ofNat (high * 16 + low) :: (← decodeChars? rest)

/-- The bytes that a text of digits writes. -/
def decode? (s : String) : Option (List UInt8) := decodeChars? s.toList

end TradingStatus.Text.Hex
