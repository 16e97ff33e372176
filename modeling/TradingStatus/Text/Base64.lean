/-! Bytes in base 64, six bits to a character, filled up with `=` to a multiple of four characters.
Reading takes characters of the alphabet only, and the fill that their number asks for; after full
groups any number of fill characters may follow. -/

namespace TradingStatus.Text.Base64

/-- The six bits that a character stands for. -/
def value? (c : Char) : Option Nat :=
  if 'A' ≤ c ∧ c ≤ 'Z' then some (c.toNat - 'A'.toNat)
  else if 'a' ≤ c ∧ c ≤ 'z' then some (c.toNat - 'a'.toNat + 26)
  else if '0' ≤ c ∧ c ≤ '9' then some (c.toNat - '0'.toNat + 52)
  else if c = '+' then some 62
  else if c = '/' then some 63
  else none

/-- The character that stands for six bits. -/
def char (n : Nat) : Char :=
  if n < 26 then Char.ofNat ('A'.toNat + n)
  else if n < 52 then Char.ofNat ('a'.toNat + (n - 26))
  else if n < 62 then Char.ofNat ('0'.toNat + (n - 52))
  else if n = 62 then '+'
  else '/'

/-- The characters of bytes. -/
def encodeBytes : List UInt8 → List Char
  | [] => []
  | [a] => [char (a.toNat / 4), char (a.toNat % 4 * 16), '=', '=']
  | [a, b] =>
    [char (a.toNat / 4), char (a.toNat % 4 * 16 + b.toNat / 16), char (b.toNat % 16 * 4), '=']
  | a :: b :: c :: rest =>
    char (a.toNat / 4) :: char (a.toNat % 4 * 16 + b.toNat / 16) ::
      char (b.toNat % 16 * 4 + c.toNat / 64) :: char (c.toNat % 64) :: encodeBytes rest

/-- Bytes as a text in base 64. -/
def encode (bytes : List UInt8) : String := String.ofList (encodeBytes bytes)

/-- The bytes that groups of six bits make up. Bits that fill no byte are dropped. -/
def pack : List Nat → List UInt8
  | a :: b :: c :: d :: rest =>
    UInt8.ofNat (a * 4 + b / 16) :: UInt8.ofNat (b % 16 * 16 + c / 4) ::
      UInt8.ofNat (c % 4 * 64 + d) :: pack rest
  | [a, b, c] => [UInt8.ofNat (a * 4 + b / 16), UInt8.ofNat (b % 16 * 16 + c / 4)]
  | [a, b] => [UInt8.ofNat (a * 4 + b / 16)]
  | _ => []

/-- The fill that may follow a number of characters. -/
def fillFits (count fill : Nat) : Bool :=
  match count % 4 with
  | 0 => 0 < count || fill == 0
  | 2 => fill == 2
  | 3 => fill == 1
  | _ => false

/-- The bytes that a text in base 64 writes. -/
def decode? (s : String) : Option (List UInt8) :=
  let isData := fun c => (value? c).isSome
  let data := s.toList.takeWhile isData
  let fill := s.toList.dropWhile isData
  if fill.all (· == '=') && fillFits data.length fill.length then some (pack (data.filterMap value?))
  else none

end TradingStatus.Text.Base64
