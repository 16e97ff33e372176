import TradingStatus.Service.Basic
import TradingStatus.Signing.Signer
import TradingStatus.Time.Duration

/-! Desks: a service with all that changes around it. Events move the clock, change overrides, or break
and mend the schedule; requests are answered from what there is at the time, and all that they change
is how many identifiers and signatures have been asked for. -/

namespace TradingStatus

/-- What a service is set up with, once for all. -/
structure DeskSetup where
  schedule : Schedule
  scheme : SignatureScheme
  signer : Signer
  /-- The identifiers of receipts by their numbers, counted from one. -/
  newId : Nat → Json
  /-- The signatures, by their numbers, for which the signing backend does not answer. -/
  signFailures : List Nat
  /-- What the signing backend says where it does not answer. -/
  signFault : String := "signing backend unavailable"
  /-- What the schedule says where it does not answer. -/
  scheduleFault : String := "boom"
  schemaVersion : Json
  lifetime : Int
  /-- How the clock goes on. -/
  clockRule : Timestamp.Rule := .fixed
  keys : KeyRegistry
  accepts? : Option (String → Bool)
  note : Json

/-- All that changes around a service. -/
structure Desk where
  clock : Option Timestamp
  files : Files
  store : OverrideStore
  /-- The schedule answers no question about the present. -/
  verdictBroken : Bool
  /-- The schedule answers no question about sessions to come. -/
  outlookBroken : Bool
  tally : Tally

/-- What can happen around a service. -/
inductive DeskEvent
  | now (clock : Option Timestamp)
  | put (mic : String) (entry : Json)
  | clear (mic : String)
  | write (path : String) (node : FileNode)
  | breakSchedule (verdict outlook : Bool)

namespace Desk

variable [Platform]

/-- What an event leaves behind. -/
def after (desk : Desk) : DeskEvent → Desk
  | .now clock => { desk with clock }
  | .put mic entry =>
    match desk.store with
    | .table entries => { desk with store := .table (entries.put mic entry) }
    | _ => desk
  | .clear mic =>
    match desk.store with
    | .table entries => { desk with store := .table (entries.clear mic) }
    | _ => desk
  | .write path node => { desk with files := desk.files.write path node }
  | .breakSchedule verdict outlook =>
    { desk with verdictBroken := verdict, outlookBroken := outlook }

/-- A signature by its number. -/
def signNumbered (setup : DeskSetup) (n : Nat) (members : List (String × Json)) :
    Except Failure String :=
  if setup.signFailures.contains n then .error (.signingUnavailable setup.signFault)
  else setup.signer.sign setup.scheme members

/-- The issuer as it works at present. -/
def issuer (desk : Desk) (setup : DeskSetup) : Issuer where
  calendar := setup.schedule.calendar
  verdict mic clock :=
    if desk.verdictBroken then pure (.error (.engineBroken setup.scheduleFault))
    else setup.schedule.reportVerdict mic clock
  lookup? := desk.store.lookup? desk.files
  newId := setup.newId
  sign := signNumbered setup
  keyId := setup.signer.keyId
  schemaVersion := setup.schemaVersion
  lifetime := setup.lifetime
  clockRule := setup.clockRule

/-- The service as it works at present. -/
def service (desk : Desk) (setup : DeskSetup) : Service where
  issuer := desk.issuer setup
  outlook mic clock :=
    if desk.outlookBroken then pure (.error (.engineBroken setup.scheduleFault))
    else setup.schedule.reportOutlook mic clock
  keys := setup.keys
  accepts? := setup.accepts?
  note := setup.note

end Desk

/-- What can be asked of a service. -/
inductive Request
  | demo (mic : Option String)
  | status (mic key : Option String)
  | schedule (mic : Option String)
  | exchanges
  | keys
  | health

namespace Desk

variable [Platform]

/-- The answer to a request, and what it leaves behind. -/
def answer (desk : Desk) (setup : DeskSetup) (request : Request) :
    Logged (Except Failure Response × Desk) := do
  let service := desk.service setup
  let counted := fun (result : Except Failure Response × Tally) =>
    (result.1, { desk with tally := result.2 })
  match request with
  | .demo mic => return counted (← service.demo mic desk.clock desk.tally)
  | .status mic key => return counted (← service.status mic key desk.clock desk.tally)
  | .schedule mic => return (← service.schedule mic desk.clock, desk)
  | .exchanges => return (.ok service.exchanges, desk)
  | .keys => return (service.keyList, desk)
  | .health => return counted (← service.health desk.clock desk.tally)

/-- The outcome of issuing for a market, and what it leaves behind. -/
def issue (desk : Desk) (setup : DeskSetup) (mic : String) :
    Logged (Except Failure Outcome × Desk) := do
  let (outcome, tally) ← (desk.issuer setup).issue mic desk.clock desk.tally
  return (outcome, { desk with tally })

/-- The outcome of issuing for the service itself, and what it leaves behind. -/
def issueLiveness (desk : Desk) (setup : DeskSetup) : Logged (Outcome × Desk) := do
  let (outcome, tally) ← (desk.issuer setup).issueLiveness desk.clock desk.tally
  return (outcome, { desk with tally })

end Desk

/-- The number of seconds that receipts live unless another one is given. -/
def defaultLifetimeSeconds : Json := .int 60

/-- The lifetime of receipts for a number of seconds, which has to be above zero. -/
def lifetimeOf (seconds : Json) : Except Failure Int :=
  if isLifetime seconds then durationOf seconds else .error .lifetime

end TradingStatus
