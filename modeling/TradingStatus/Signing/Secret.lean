import TradingStatus.Failure
import TradingStatus.Signing.Scheme
import TradingStatus.Text.Blank
import TradingStatus.Text.Hex

/-! Secrets: texts that hold the seed of a private key. A secret is 64 hexadecimal digits, a document
between marked lines, or the bytes of a document in base 64; which one it is shows in the text. -/

namespace TradingStatus.Secret

/-- The three forms of a secret. -/
inductive Form
  | digits
  | lines
  | bytes
deriving DecidableEq

/-- How a document between marked lines begins. -/
def opening : List Char := "-----BEGIN".toList

/-- The form of a text without blanks at its ends. -/
def formOf (cs : List Char) : Form :=
  if cs.length = 64 ∧ cs.all fun c => (Text.Hex.value? c).isSome then .digits
  else if opening.isPrefixOf cs then .lines
  else .bytes

/-- The private key that a text of a form holds. -/
def keyOf? (scheme : SignatureScheme) (cs : List Char) : Form → Option PrivateKey
  | .digits => (Text.Hex.decode? (String.ofList cs)).map .ed25519
  | .lines =>
    if cs.all fun c => c.toNat < 0x80 then scheme.readPem cs else none
  | .bytes => (Text.Base64.decode? (String.ofList cs)).bind scheme.readDer

/-- The seed that a secret holds. -/
def seed (scheme : SignatureScheme) (secret : Option String) : Except Failure (List UInt8) :=
  match secret with
  | none => .error .secretMissing
  | some text =>
    if Text.isBlankText text then .error .secretMissing
    else
      let cs := Text.trimChars text.toList
      match keyOf? scheme cs (formOf cs) with
      | some (.ed25519 seed) => .ok seed
      | some .foreign => .error .secretOtherKey
      | none => .error .secretCorrupt

end TradingStatus.Secret
