import TradingStatus.Status
import TradingStatus.Text.Blank
import TradingStatus.Text.Upper

/-! Overrides: states that an operator forces on a market for a reason and until some instant. -/

namespace TradingStatus

/-- A forced state, its reason, and when it ends. -/
structure Override where
  status : MarketStatus
  reason : String
  expires : Timestamp
  overridable : status.isOverridable = true
deriving DecidableEq

namespace Override

variable [Platform]

/-- An override counts until it ends. -/
def isActive (override : Override) (clock : Option Timestamp) : Except Failure Bool :=
  match clock with
  | none => .error (.absentCompared ">" false true)
  | some now => now.isBefore override.expires

/-- The state that an entry names, whatever the case of its letters and the blanks around it. -/
def statusOfEntry (value : Json) :
    Except Failure { status : MarketStatus // status.isOverridable = true } :=
  match value.text?.bind fun s => MarketStatus.ofName? (Text.upper (Text.trim s)) with
  | none => .error (.showing value (.overrideStatus value))
  | some status =>
    if h : status.isOverridable = true then .ok ⟨status, h⟩
    else .error (.showing value (.overrideStatus value))

/-- The reason of an entry, without the blanks around it. -/
def reasonOfEntry (value : Json) : Except Failure String :=
  match value with
  | .str reason =>
    if Text.isBlankText reason then .error .overrideReason else .ok (Text.trim reason)
  | _ => .error .overrideReason

/-- The end that an entry names; without an offset it is in UTC. -/
def expiresOfEntry (value : Json) : Except Failure Timestamp :=
  match value with
  | .str text =>
    match Platform.readTimestamp text with
    | .ok t => .ok t.assumeUtc
    | .error _ => .error (.overrideExpiresText text)
  | value => .error (.showing value (.overrideExpires value))

/-- The override of an entry. -/
def ofEntry (entry : Json) : Except Failure Override :=
  match entry with
  | .obj members => do
    let status ← statusOfEntry (Json.member members "status")
    let reason ← reasonOfEntry (Json.member members "reason")
    let expires ← expiresOfEntry (Json.member members "expires")
    return ⟨status.val, reason, expires, status.property⟩
  | value => .error (.showing value (.overrideEntry value))

end Override

end TradingStatus
