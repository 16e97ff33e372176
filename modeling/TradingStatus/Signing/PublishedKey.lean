import TradingStatus.Platform
import TradingStatus.Text.Blank

/-! Published keys: what is needed to verify a signature, and the window in which the key is in use. The
window holds its first instant and not its last; without a last one it has no end. -/

namespace TradingStatus

/-- A public key with its identifier and the window in which it is in use. -/
structure PublishedKey where
  id : String
  publicKey : String
  validFrom : Option Timestamp
  validUntil : Option Timestamp
  algorithm : Json
  format : Json

namespace PublishedKey

variable [Platform]

/-- The algorithm and the format of keys unless others are given. -/
def defaultAlgorithm : Json := .str "Ed25519"
def defaultFormat : Json := .str "hex"

/-- An end of a window as it is given: an instant, or a value that has to be read. -/
inductive Bound
  | instant (t : Timestamp)
  | value (value : Json)

/-- The end of a window; without an offset it is in UTC. -/
def Bound.read (bound : Bound) (field : String) : Except Failure (Option Timestamp) :=
  match bound with
  | .instant t => .ok (some t.assumeUtc)
  | .value .null => .ok none
  | .value (.str text) =>
    if Text.isBlankText text then .error (.keyInstant field (.str text))
    else
      match Platform.readTimestamp (Text.trim text) with
      | .ok t => .ok (some t.assumeUtc)
      | .error .outOfRange => .error .outOfRange
      | .error .malformed => .error (.keyInstantText field text)
  | .value other => .error (.showing other (.keyInstant field other))

/-- A window that ends does so after its start. -/
def checkWindow (start finish : Option Timestamp) : Except Failure Unit :=
  match start, finish with
  | _, none => .ok ()
  | none, some _ => .error (.absentCompared "<=" false true)
  | some start, some finish => do
    if ← start.isBefore finish then return () else throw .keyWindow

/-- The key of values that have to be texts, with a window. -/
def ofParts (id publicKey : Json) (validFrom validUntil : Option Timestamp)
    (algorithm format : Json) : Except Failure PublishedKey :=
  match id with
  | .str id =>
    if Text.isBlankText id then .error (.blank "key_id")
    else
      match publicKey with
      | .str publicKey => do
        checkWindow validFrom validUntil
        return ⟨id, publicKey, validFrom, validUntil, algorithm, format⟩
      | _ => .error (.notText "public_key")
  | _ => .error (.blank "key_id")

/-- The key of values whose window has yet to be read; it has to have a start. -/
def ofBounds (id publicKey : Json) (start finish : Bound) : Except Failure PublishedKey := do
  let some validFrom ← start.read "valid_from" | throw .keyWithoutStart
  let validUntil ← finish.read "valid_until"
  ofParts id publicKey (some validFrom) validUntil defaultAlgorithm defaultFormat

/-- The key of an entry in a document. -/
def ofJson (entry : Json) : Except Failure PublishedKey :=
  match entry with
  | .obj members =>
    ofBounds (Json.member members "key_id") (Json.member members "public_key")
      (.value (Json.member members "valid_from")) (.value (Json.member members "valid_until"))
  | value => .error (.showing value (.keyEntry value))

/-- The window holds what a clock shows. -/
def isValidAt (key : PublishedKey) (clock : Option Timestamp) : Except Failure Bool :=
  match clock, key.validFrom with
  | none, start => .error (.absentCompared "<" true start.isNone)
  | some _, none => .error (.absentCompared "<" false true)
  | some now, some start => do
    if ← now.isBefore start then return false
    else
      match key.validUntil with
      | none => return true
      | some finish => now.isBefore finish

def toJson (key : PublishedKey) : Except Failure Json := do
  let validFrom ← Timestamp.isoUtc key.validFrom
  let validUntil ← match key.validUntil with
    | none => pure Json.null
    | some t => do pure (.str (← Timestamp.isoUtc (some t)))
  return .obj [
    ("key_id", .str key.id),
    ("algorithm", key.algorithm),
    ("format", key.format),
    ("public_key", .str key.publicKey),
    ("valid_from", .str validFrom),
    ("valid_until", validUntil)]

end PublishedKey

end TradingStatus
