import TradingStatus.Signing.Payload
import TradingStatus.Signing.Secret

/-! Signers: a secret with the identifier of its key. The secret is read when something is signed, not
before, so a bad one is a failure to sign. -/

namespace TradingStatus

/-- A secret, which may be missing or bad, and the identifier of its key. -/
structure Signer where
  secret : Option String
  keyId : String

namespace Signer

/-- The signer of a secret under what has to be an identifier. -/
def ofParts (secret : Option String) (keyId : Json) : Except Failure Signer :=
  match keyId with
  | .str id => if Text.isBlankText id then .error (.blank "key_id") else .ok ⟨secret, Text.trim id⟩
  | _ => .error (.blank "key_id")

/-- The public key in hexadecimal digits. -/
def publicKeyHex (scheme : SignatureScheme) (signer : Signer) : Except Failure String :=
  return Text.Hex.encode (scheme.publicKey (← Secret.seed scheme signer.secret))

/-- The signature of some fields in hexadecimal digits. -/
def sign (scheme : SignatureScheme) (signer : Signer) (members : List (String × Json)) :
    Except Failure String := do
  let fields ← SignedFields.ofMembers members
  let seed ← Secret.seed scheme signer.secret
  match scheme.sign seed fields.payloadBytes with
  | .ok signature => return Text.Hex.encode signature
  | .error reason => throw (.signing reason)

end Signer

/-- A signature in hexadecimal digits is one of some fields under a public key in such digits. -/
def SignatureScheme.verifyFields (scheme : SignatureScheme) (members : List (String × Json))
    (signature publicKey : Json) : Bool :=
  match signature, publicKey, SignedFields.ofMembers members with
  | .str signature, .str publicKey, .ok fields =>
    match Text.Hex.decode? signature, Text.Hex.decode? publicKey with
    | some signature, some publicKey => scheme.verify publicKey signature fields.payloadBytes
    | _, _ => false
  | _, _, _ => false

end TradingStatus
