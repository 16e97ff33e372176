/-! Texts as bytes in UTF-8. `encode` writes a text; `decode` reads one, and tells of the first
sequence of bytes that no character is written as where it starts, how many bytes of it were taken,
and what is wrong with it. -/

namespace TradingStatus.Text.Utf8

/-- What is wrong with a sequence of bytes. -/
inductive Flaw
  /-- No character starts with the byte. -/
  | start
  /-- The bytes taken are followed by one that does not go on with them. -/
  | continuation
  /-- The bytes end within a character. -/
  | cutOff
deriving DecidableEq

/-- A sequence of bytes that is no character: its first byte, the number of bytes before it, and
the number of bytes that belong to it. -/
structure Error where
  flaw : Flaw
  byte : UInt8
  position : Nat
  length : Nat
deriving DecidableEq

/-- The bytes of a character. -/
def encodeChar (c : Char) : List UInt8 :=
  let n := c.toNat
  if n < 0x80 then [UInt8.ofNat n]
  else if n < 0x800 then [UInt8.ofNat (0xC0 + n / 0x40), UInt8.ofNat (0x80 + n % 0x40)]
  else if n < 0x10000 then
    [UInt8.ofNat (0xE0 + n / 0x1000), UInt8.ofNat (0x80 + n / 0x40 % 0x40),
      UInt8.ofNat (0x80 + n % 0x40)]
  else
    [UInt8.ofNat (0xF0 + n / 0x40000), UInt8.ofNat (0x80 + n / 0x1000 % 0x40),
      UInt8.ofNat (0x80 + n / 0x40 % 0x40), UInt8.ofNat (0x80 + n % 0x40)]

/-- The bytes of a text. -/
def encode (s : String) : List UInt8 := s.toList.flatMap encodeChar

/-- A byte that goes on with a character. -/
def isTail (b : UInt8) : Bool := 0x80 ≤ b.toNat && b.toNat ≤ 0xBF

/-- The second byte of a character of three bytes, given the first: no character is written longer
than it has to be, and halves of pairs are no characters. -/
def isSecondOfThree (a b : UInt8) : Bool :=
  isTail b && (a.toNat != 0xE0 || 0xA0 ≤ b.toNat) && (a.toNat != 0xED || b.toNat ≤ 0x9F)

/-- The second byte of a character of four bytes, given the first. -/
def isSecondOfFour (a b : UInt8) : Bool :=
  isTail b && (a.toNat != 0xF0 || 0x90 ≤ b.toNat) && (a.toNat != 0xF4 || b.toNat ≤ 0x8F)

/-- The six bits that a byte adds to a character. -/
def tailBits (b : UInt8) : Nat := b.toNat - 0x80

/-- The characters that bytes from a position on write. -/
def decodeFrom (position : Nat) : List UInt8 → Except Error (List Char)
  | [] => .ok []
  | a :: rest =>
    let fail (flaw : Flaw) (length : Nat) : Except Error (List Char) :=
      .error ⟨flaw, a, position, length⟩
    if a.toNat < 0x80 then do
      return Char.ofNat a.toNat :: (← decodeFrom (position + 1) rest)
    else if a.toNat < 0xC2 ∨ 0xF4 < a.toNat then fail .start 1
    else if a.toNat < 0xE0 then
      match rest with
      | [] => fail .cutOff 1
      | b :: rest =>
        if isTail b then do
          let n := (a.toNat - 0xC0) * 0x40 + tailBits b
          return Char.ofNat n :: (← decodeFrom (position + 2) rest)
        else fail .continuation 1
    else if a.toNat < 0xF0 then
      match rest with
      | [] => fail .cutOff 1
      | b :: rest =>
        if !isSecondOfThree a b then fail .continuation 1
        else
          match rest with
          | [] => fail .cutOff 2
          | c :: rest =>
            if isTail c then do
              let n := ((a.toNat - 0xE0) * 0x40 + tailBits b) * 0x40 + tailBits c
              return Char.ofNat n :: (← decodeFrom (position + 3) rest)
            else fail .continuation 2
    else
      match rest with
      | [] => fail .cutOff 1
      | b :: rest =>
        if !isSecondOfFour a b then fail .continuation 1
        else
          match rest with
          | [] => fail .cutOff 2
          | c :: rest =>
            if !isTail c then fail .continuation 2
            else
              match rest with
              | [] => fail .cutOff 3
              | d :: rest =>
                if isTail d then do
                  let n := (((a.toNat - 0xF0) * 0x40 + tailBits b) * 0x40 + tailBits c) * 0x40 +
                    tailBits d
                  return Char.ofNat n :: (← decodeFrom (position + 4) rest)
                else fail .continuation 3

/-- The text that bytes write. -/
def decode (bytes : List UInt8) : Except Error String :=
  (decodeFrom 0 bytes).map String.ofList

end TradingStatus.Text.Utf8
