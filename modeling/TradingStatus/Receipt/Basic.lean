import TradingStatus.Status
import TradingStatus.Time.Timestamp

/-! Receipts: what was known of a market, from when until when it may be relied upon, and a signature
over all of it. A failure report stands in for a receipt where nothing can be signed. -/

namespace TradingStatus

/-- A receipt, signed or to be signed. Its texts are values that need not be texts, which shows when
they are to be signed. -/
structure Receipt where
  id : Json
  issuedAt : Option Timestamp
  expiresAt : Option Timestamp
  mic : Json
  status : MarketStatus
  source : StatusSource
  schemaVersion : Json
  keyId : Json
  reason : Json
  signature : Json

namespace Receipt

/-- The reason is part of a receipt only if an override is its source. -/
def reasonMember (receipt : Receipt) : List (String × Json) :=
  match receipt.source, receipt.reason with
  | .override, .null => []
  | .override, reason => [("reason", reason)]
  | _, _ => []

/-- The members that the signature is over. -/
def signedMembers (receipt : Receipt) : Except Failure (List (String × Json)) := do
  let issuedAt ← Timestamp.isoUtc receipt.issuedAt
  let expiresAt ← Timestamp.isoUtc receipt.expiresAt
  return [
    ("receipt_id", receipt.id),
    ("issued_at", .str issuedAt),
    ("expires_at", .str expiresAt),
    ("mic", receipt.mic),
    ("status", .str receipt.status.name),
    ("source", .str receipt.source.name),
    ("schema_version", receipt.schemaVersion),
    ("signing_key_id", receipt.keyId)] ++ receipt.reasonMember

def toJson (receipt : Receipt) : Except Failure Json :=
  return .obj ((← receipt.signedMembers) ++ [("signature", receipt.signature)])

end Receipt

/-- The report that nothing can be signed, with a message. -/
def failureReport (message : String) : Json :=
  .obj [
    ("error", .str "CRITICAL_FAILURE"),
    ("message", .str message),
    ("status", .str MarketStatus.unknown.name),
    ("source", .str StatusSource.system.name)]

/-- What a failure report says to those who rely on receipts. -/
def offlineMessage : String :=
  "Oracle signature system offline. Treat all market state as UNKNOWN and halt all execution until " ++
    "service is restored."

end TradingStatus
