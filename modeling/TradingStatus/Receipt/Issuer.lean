import TradingStatus.Override.Store
import TradingStatus.Receipt.Basic
import TradingStatus.Schedule.Basic

/-! The issuing of receipts. For a market, three tiers are tried in turn: an active override, the
schedule, and a receipt that says that nothing is known. A tier fails when anything that it needs
fails, and the first that does not fail ends the search; if all fail, nothing is signed.

All that can fail is given as functions. Identifiers and signatures are numbered, so that it shows how
many were made. -/

namespace TradingStatus

/-- How many identifiers and how many signatures have been asked for. -/
structure Tally where
  ids : Nat
  signs : Nat
deriving DecidableEq

/-- What issues receipts. -/
structure Issuer where
  calendar : Calendar
  /-- What the schedule says about a market at what a clock shows. -/
  verdict : String → Option Timestamp → Logged (Except Failure Verdict)
  lookup? : Option OverrideLookup
  /-- The identifier by its number, counted from one. -/
  newId : Nat → Json
  /-- The signature by its number, counted from one. -/
  sign : Nat → List (String × Json) → Except Failure String
  keyId : String
  schemaVersion : Json
  /-- The microseconds for which a receipt may be relied upon. -/
  lifetime : Int
  /-- How its clock goes on. -/
  clockRule : Timestamp.Rule

/-- The tiers that sign; the last one is for receipts about the service itself. -/
inductive Tier
  | override
  | schedule
  | safetyNet
  | liveness
deriving DecidableEq

/-- What issuing comes to. -/
inductive Outcome
  | signed (tier : Tier) (receipt : Receipt)
  | unsigned

namespace Tier

def number : Tier → Nat
  | override => 0
  | schedule => 1
  | safetyNet => 2
  | liveness => 4

def name : Tier → String
  | override => "OVERRIDE"
  | schedule => "SCHEDULE"
  | safetyNet => "SAFETY_NET"
  | liveness => "LIVENESS"

end Tier

namespace Outcome

/-- The number and the name of the tier that an outcome comes from; a fourth one stands for none. -/
def tier : Outcome → Nat × String
  | signed tier _ => (tier.number, tier.name)
  | unsigned => (3, "CATASTROPHIC")

/-- Whether something is signed, and if so, whether it says anything. -/
def kind : Outcome → String
  | signed _ receipt => if receipt.status = .unknown then "DELIBERATE_UNKNOWN" else "SIGNED"
  | unsigned => "FATAL_UNSIGNED"

/-- The receipt, if there is one. -/
def receipt? : Outcome → Option Receipt
  | signed _ receipt => some receipt
  | unsigned => none

end Outcome

namespace Issuer

/-- The market of receipts about the service itself. -/
def livenessMic : String := "ALL"

/-- The version of the form of receipts unless another one is given. -/
def defaultSchemaVersion : Json := .str "v5.0"

/-- What a receipt is to say. -/
structure Content where
  mic : String
  status : MarketStatus
  source : StatusSource
  reason : Option String

/-- The receipt to be signed, with an identifier and what a clock shows. -/
def draft (issuer : Issuer) (clock : Option Timestamp) (content : Content) (id : Json) :
    Except Failure Receipt :=
  match clock with
  | none => .error .absentExtended
  | some now => do
    let expiresAt ← now.addMicros issuer.clockRule issuer.lifetime
    return {
      id, issuedAt := some now, expiresAt := some expiresAt, mic := .str content.mic
      status := content.status, source := content.source, schemaVersion := issuer.schemaVersion
      keyId := .str issuer.keyId, reason := .ofText? content.reason, signature := .null }

/-- A signed receipt. An identifier is made first, whether or not it comes to signing. -/
def issueSigned (issuer : Issuer) (clock : Option Timestamp) (content : Content) (tally : Tally) :
    Except Failure Receipt × Tally :=
  let tally := { tally with ids := tally.ids + 1 }
  match issuer.draft clock content (issuer.newId tally.ids) with
  | .error failure => (.error failure, tally)
  | .ok receipt =>
    match receipt.signedMembers with
    | .error failure => (.error failure, tally)
    | .ok members =>
      let tally := { tally with signs := tally.signs + 1 }
      match issuer.sign tally.signs members with
      | .error failure => (.error failure, tally)
      | .ok signature => (.ok { receipt with signature := .str signature }, tally)

/-- A signed receipt, or a line that says under a heading why there is none. -/
def trySigned (issuer : Issuer) (heading : String) (clock : Option Timestamp) (content : Content)
    (tally : Tally) : Logged (Option Receipt × Tally) :=
  match issuer.issueSigned clock content tally with
  | (.ok receipt, tally) => pure (some receipt, tally)
  | (.error failure, tally) => do
    Logged.write .error (heading ++ failure.message)
    return (none, tally)

/-- The override that counts for a market at what a clock shows, if there is one. -/
def activeOverride (issuer : Issuer) (mic : String) (clock : Option Timestamp) :
    Logged (Option Override) :=
  match issuer.lookup? with
  | none => pure none
  | some lookup => do
    let found ← lookup mic
    match found with
    | .error failure => unavailable failure
    | .ok none => return none
    | .ok (some override) =>
      match override.isActive clock with
      | .error failure => unavailable failure
      | .ok true => return some override
      | .ok false => do
        Logged.write .debug ("Ignoring expired override for " ++ mic)
        return none
where
  /-- The line that says why overrides cannot be had. -/
  unavailable (failure : Failure) : Logged (Option Override) := do
    Logged.write .warning ("ORACLE_TIER_0_UNAVAILABLE: " ++ mic ++ ": " ++ failure.message)
    return none

/-- The receipt of an active override. -/
def tryOverride (issuer : Issuer) (mic : String) (clock : Option Timestamp) (tally : Tally) :
    Logged (Option Receipt × Tally) := do
  match ← issuer.activeOverride mic clock with
  | none => return (none, tally)
  | some override =>
    issuer.trySigned ("ORACLE_TIER_0_SIGNING_FAILURE: " ++ mic ++ ": ") clock
      ⟨mic, override.status, .override, some override.reason⟩ tally

/-- The receipt of what the schedule says. -/
def trySchedule (issuer : Issuer) (mic : String) (clock : Option Timestamp) (tally : Tally) :
    Logged (Option Receipt × Tally) := do
  let heading := "ORACLE_TIER_1_FAILURE: " ++ mic ++ ": "
  match ← issuer.verdict mic clock with
  | .error failure =>
    Logged.write .error (heading ++ failure.message)
    return (none, tally)
  | .ok verdict =>
    issuer.trySigned heading clock ⟨mic, verdict.status, verdict.source, none⟩ tally

/-- The receipt that says that nothing is known. -/
def trySafetyNet (issuer : Issuer) (mic : String) (clock : Option Timestamp) (tally : Tally) :
    Logged (Option Receipt × Tally) :=
  issuer.trySigned ("ORACLE_TIER_2_CATASTROPHIC: " ++ mic ++ ": ") clock
    ⟨mic, .unknown, .system, none⟩ tally

/-- Issues a receipt for a market of the calendar. -/
def issueFor (issuer : Issuer) (mic : String) (clock : Option Timestamp) (tally : Tally) :
    Logged (Outcome × Tally) := do
  let (receipt?, tally) ← issuer.tryOverride mic clock tally
  if let some receipt := receipt? then return (.signed .override receipt, tally)
  let (receipt?, tally) ← issuer.trySchedule mic clock tally
  if let some receipt := receipt? then return (.signed .schedule receipt, tally)
  let (receipt?, tally) ← issuer.trySafetyNet mic clock tally
  if let some receipt := receipt? then return (.signed .safetyNet receipt, tally)
  return (.unsigned, tally)

/-- Issues a receipt for a market; one that is not in the calendar is refused before anything is
tried. -/
def issue (issuer : Issuer) (mic : String) (clock : Option Timestamp) (tally : Tally) :
    Logged (Except Failure Outcome × Tally) :=
  match issuer.calendar.get mic with
  | .error failure => pure (.error failure, tally)
  | .ok _ => do
    let (outcome, tally) ← issuer.issueFor mic clock tally
    return (.ok outcome, tally)

/-- Issues a receipt about the service itself. -/
def issueLiveness (issuer : Issuer) (clock : Option Timestamp) (tally : Tally) :
    Logged (Outcome × Tally) := do
  let (receipt?, tally) ← issuer.trySigned "ORACLE_LIVENESS_FAILURE: " clock
    ⟨livenessMic, .ok, .system, none⟩ tally
  match receipt? with
  | some receipt => return (.signed .liveness receipt, tally)
  | none => return (.unsigned, tally)

end Issuer

end TradingStatus
