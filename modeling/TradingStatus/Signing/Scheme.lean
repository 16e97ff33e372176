import TradingStatus.Crypto.Ed25519
import TradingStatus.Signing.PrivateKey

/-! Ways to sign, with the readers of the documents that keys come in. All that the rest of the
library relies on is that a signature verifies under the public key of the seed that made it, and
where it says so, that well-formed documents are read. -/

namespace TradingStatus

/-- A way to sign messages with keys made from seeds. Signing may fail, for a reason. -/
structure SignatureScheme where
  publicKey : List UInt8 → List UInt8
  sign : List UInt8 → List UInt8 → Except String (List UInt8)
  verify : List UInt8 → List UInt8 → List UInt8 → Bool
  /-- The key of a document between marked lines. -/
  readPem : List Char → Option PrivateKey
  /-- The key of a document in DER. -/
  readDer : List UInt8 → Option PrivateKey

namespace SignatureScheme

/-- Signatures verify under the public key of the seed that made them. -/
def Sound (scheme : SignatureScheme) : Prop :=
  ∀ seed message signature, scheme.sign seed message = .ok signature →
    scheme.verify (scheme.publicKey seed) signature message = true

/-- Ed25519, which never fails to sign. -/
def ed25519 : SignatureScheme where
  publicKey := Ed25519.publicKey
  sign seed message := .ok (Ed25519.sign seed message)
  verify := Ed25519.verify
  readPem := PrivateKey.ofPem?
  readDer := PrivateKey.ofDer?

/-- A scheme whose signing always fails for a reason. -/
def failing (scheme : SignatureScheme) (reason : String) : SignatureScheme :=
  { scheme with sign := fun _ _ => .error reason }

end SignatureScheme

end TradingStatus
