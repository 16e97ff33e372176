import TradingStatus.Text.Hex

/-! Identifiers of receipts: sixteen random bytes in hexadecimal digits with hyphens between groups of
them, in the form of the fourth version of universally unique identifiers. -/

namespace TradingStatus.Receipt

/-- Bytes with the marks of the version and of the variant set. -/
def marked (bytes : List UInt8) : List UInt8 :=
  (bytes.modify 6 fun b => b % 16 + 0x40).modify 8 fun b => b % 64 + 0x80

/-- The identifier that is made of some bytes. -/
def idOfBytes (bytes : List UInt8) : String :=
  let bytes := marked bytes
  "-".intercalate [Text.Hex.encode (bytes.take 4), Text.Hex.encode ((bytes.drop 4).take 2),
    Text.Hex.encode ((bytes.drop 6).take 2), Text.Hex.encode ((bytes.drop 8).take 2),
    Text.Hex.encode (bytes.drop 10)]

end TradingStatus.Receipt
