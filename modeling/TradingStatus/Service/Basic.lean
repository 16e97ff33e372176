import TradingStatus.Receipt.Issuer
import TradingStatus.Signing.KeyRegistry

/-! The service: every request is answered with a code and a document. What is wrong with a request is
answered before a receipt is tried, and a receipt that cannot be signed is answered by a failure
report. -/

namespace TradingStatus

/-- An answer to a request. -/
structure Response where
  code : Nat
  body : Json

/-- What answers requests. -/
structure Service where
  issuer : Issuer
  /-- The sessions to come of a market at what a clock shows. -/
  outlook : String → Option Timestamp → Logged (Except Failure Outlook)
  keys : KeyRegistry
  /-- Whether an access key is accepted, if any is. -/
  accepts? : Option (String → Bool)
  note : Json

namespace Service

/-- What schedules are accompanied by unless another note is given. -/
def defaultNote : Json :=
  .str "Times are UTC. Schedule-based only — does not reflect real-time halts or overrides."

/-- The answer for a market that is not in the calendar. -/
def unknownMarket (mic : String) (supported : List String) : Response :=
  ⟨400, .obj [
    ("error", .str "UNKNOWN_MIC"),
    ("message", .str ("Unsupported exchange: " ++ mic ++
      ". See /v5/exchanges for supported markets.")),
    ("supported", .arr (supported.map .str))]⟩

/-- The answer where nothing can be signed. -/
def offline : Response := ⟨500, failureReport offlineMessage⟩

/-- The answer for what issuing comes to. -/
def respond : Outcome → Except Failure Response
  | .signed _ receipt => return ⟨200, ← receipt.toJson⟩
  | .unsigned => return offline

/-- The answer of a receipt for a market identifier. -/
def receiptFor (service : Service) (mic : String) (clock : Option Timestamp) (tally : Tally) :
    Logged (Except Failure Response × Tally) := do
  match ← service.issuer.issue mic clock tally with
  | (.error (.unknownMarket mic supported), tally) => return (.ok (unknownMarket mic supported), tally)
  | (.error failure, tally) => return (.error failure, tally)
  | (.ok outcome, tally) => return (respond outcome, tally)

/-- A receipt for everyone. -/
def demo (service : Service) (mic : Option String) (clock : Option Timestamp) (tally : Tally) :
    Logged (Except Failure Response × Tally) :=
  service.receiptFor (Mic.orDefault mic Mic.default) clock tally

/-- The answer to those without an accepted access key. -/
def refusal? (service : Service) (key : Option String) : Option Response :=
  match key with
  | none => some required
  | some key =>
    if Text.isBlankText key then some required
    else
      match service.accepts? with
      | none => some invalid
      | some accepts => if accepts key then none else some invalid
where
  /-- No access key is given. -/
  required : Response :=
    ⟨401, .obj [("error", .str "API_KEY_REQUIRED"), ("message", .str "Include X-Oracle-Key header")]⟩
  /-- The access key is not accepted. -/
  invalid : Response := ⟨403, .obj [("error", .str "INVALID_API_KEY")]⟩

/-- A receipt for those with an accepted access key. -/
def status (service : Service) (mic key : Option String) (clock : Option Timestamp) (tally : Tally) :
    Logged (Except Failure Response × Tally) :=
  match service.refusal? key with
  | some response => pure (.ok response, tally)
  | none => service.demo mic clock tally

/-- The lunch hours of a market for the public. -/
def lunchJson (lunch : Option Hours) : Json :=
  match lunch with
  | none => .null
  | some hours => .obj [("start", .str hours.opening.text), ("end", .str hours.closing.text)]

/-- What the schedule of a market says, as a document. -/
def scheduleJson (market : Market) (note : Json) (clock : Option Timestamp) (verdict : Verdict)
    (outlook : Outlook) : Except Failure Json := do
  let (opens, closes) ← match outlook.session? with
    | none => pure (Json.null, Json.null)
    | some session => do
      pure (Json.str (← session.opens.isoUtc), Json.str (← session.closes.isoUtc))
  return .obj [
    ("mic", .str market.mic),
    ("name", .str market.name),
    ("timezone", .str market.timezone),
    ("queried_at", .str (← Timestamp.isoUtc clock)),
    ("current_status", .str verdict.status.name),
    ("next_open", opens),
    ("next_close", closes),
    ("lunch_break", lunchJson market.lunch),
    ("note", note)]

/-- The verdict and the outlook of a market; the outlook is asked for only if there is a verdict. -/
def prospects (service : Service) (mic : String) (clock : Option Timestamp) :
    Logged (Except Failure (Verdict × Outlook)) := do
  match ← service.issuer.verdict mic clock with
  | .error failure => return .error failure
  | .ok verdict =>
    match ← service.outlook mic clock with
    | .error failure => return .error failure
    | .ok outlook => return .ok (verdict, outlook)

/-- The schedule of a market, unsigned. -/
def schedule (service : Service) (mic : Option String) (clock : Option Timestamp) :
    Logged (Except Failure Response) := do
  let mic := Mic.orDefault mic Mic.default
  match service.issuer.calendar.find? mic with
  | none => return .ok (unknownMarket mic service.issuer.calendar.supported)
  | some market =>
    match ← service.prospects mic clock with
    | .error failure =>
      Logged.write .error ("ORACLE_TOP_LEVEL_ERROR: schedule " ++ mic ++ ": " ++ failure.message)
      return .ok offline
    | .ok (verdict, outlook) =>
      return (scheduleJson market service.note clock verdict outlook).map (⟨200, ·⟩)

/-- The markets of the calendar. -/
def exchanges (service : Service) : Response :=
  ⟨200, .obj [("exchanges", service.issuer.calendar.directory)]⟩

/-- The published keys. -/
def keyList (service : Service) : Except Failure Response :=
  return ⟨200, ← service.keys.toJson⟩

/-- A receipt about the service itself. -/
def health (service : Service) (clock : Option Timestamp) (tally : Tally) :
    Logged (Except Failure Response × Tally) := do
  let (outcome, tally) ← service.issuer.issueLiveness clock tally
  return (respond outcome, tally)

end Service

end TradingStatus
