import TradingStatus.Market.CalendarFile
import TradingStatus.Settings.Basic

/-! Installations: settings with the files around them, and what they are put together to. The calendar
is read once and kept; all else is read anew each time. -/

namespace TradingStatus

/-- Settings with what they are put to use with. -/
structure Installation where
  settings : Settings
  files : Files
  zones : ZoneDatabase
  scheme : SignatureScheme
  /-- The calendar, once it has been read. -/
  calendar? : Option Calendar

namespace Installation

variable [Platform]

/-- The installation in an environment of a program that lies in a directory. -/
def load (files : Files) (zones : ZoneDatabase) (scheme : SignatureScheme) (env : Environment)
    (installed : String) (variablesPath : Option String) : Except Failure Installation := do
  let settings ← Settings.load files env installed variablesPath
  return { settings, files, zones, scheme, calendar? := none }

/-- A failure that is the fault of the calendar's document. -/
def blamesDocument (failure : Failure) : Bool :=
  failure.kind.isValue || failure.kind.isFile || failure.kind == .sort

/-- The calendar, and the installation that keeps it. -/
def calendar (installation : Installation) : Logged (Except Failure Calendar × Installation) :=
  match installation.calendar? with
  | some calendar => pure (.ok calendar, installation)
  | none => do
    let path := installation.settings.marketsPath
    match ← Calendar.load installation.zones installation.files (some path) with
    | .ok calendar => return (.ok calendar, { installation with calendar? := some calendar })
    | .error failure =>
      let failure := if blamesDocument failure then .calendar path failure else failure
      return (.error failure, installation)

/-- The signer of receipts. -/
def signer (installation : Installation) : Except Failure Signer :=
  Signer.ofParts installation.settings.secret (.str installation.settings.keyId)

/-- The public key, under the identifier and with the window that the settings give. -/
def published (installation : Installation) (publicKey : String) : Except Failure PublishedKey :=
  PublishedKey.ofBounds (.str installation.settings.keyId) (.str (Text.trim publicKey))
    (.value (.str installation.settings.validFrom))
    (.value (.ofText? installation.settings.validUntil))

/-- The key that receipts are signed with, as it is published. Without a public key in the settings it
is made from the secret; where that cannot be done, no key is published. -/
def activeKey (installation : Installation) : Logged (Except Failure (Option PublishedKey)) :=
  match installation.settings.publicKey with
  | none | some "" =>
    match installation.signer with
    | .error failure => pure (.error failure)
    | .ok signer =>
      match signer.publicKeyHex installation.scheme with
      | .ok publicKey => return (installation.published publicKey).map some
      | .error failure => do
        Logged.write .warning ("Active signing key cannot be published: " ++ failure.message)
        return .ok none
  | some publicKey => return (installation.published publicKey).map some

/-- An entry is one of the active key. -/
def isOf (active : Option PublishedKey) (entry : Json) : Bool :=
  match active, entry with
  | some key, .obj members => (Json.member members "key_id").text? == some key.id
  | _, _ => false

/-- The keys that a document lists, except the active one. -/
def listedKeys (path : String) (active : Option PublishedKey) (document : Json) :
    Except Failure (List PublishedKey) :=
  if document.isVacant then .ok []
  else
    match document with
    | .arr entries => (entries.filter fun entry => !isOf active entry).mapM PublishedKey.ofJson
    | _ => .error (.keysNotList path)

/-- The keys in the file of published keys, except the active one. -/
def otherKeys (installation : Installation) (active : Option PublishedKey) :
    Logged (Except Failure (List PublishedKey)) :=
  let path := installation.settings.keysPath
  if !installation.files.hasPath path then pure (.ok [])
  else do return (← installation.files.load (some path)).bind (listedKeys path active)

/-- The published keys, the active one first. -/
def keyRegistry (installation : Installation) : Logged (Except Failure KeyRegistry) := do
  match ← installation.activeKey with
  | .error failure => return .error failure
  | .ok active =>
    let others ← installation.otherKeys active
    return others.bind fun others => KeyRegistry.ofKeys (active.toList ++ others)

/-- The override of a market in the file of overrides. -/
def override (installation : Installation) : OverrideLookup :=
  OverrideStore.lookupFile installation.files installation.settings.overridesPath

/-- What a service is set up with, given the calendar and the keys. -/
def setup (installation : Installation) (newId : Nat → Json) (calendar : Calendar) :
    Except Failure (KeyRegistry → DeskSetup) := do
  let schedule ← Schedule.ofParts (some calendar) Schedule.defaultLookahead
  let signer ← installation.signer
  let lifetime ← lifetimeOf defaultLifetimeSeconds
  return fun keys => {
    schedule, scheme := installation.scheme, signer, newId, signFailures := []
    schemaVersion := Issuer.defaultSchemaVersion, lifetime, keys, accepts? := none
    note := Service.defaultNote }

/-- What the installation's service is set up with, and the installation that keeps the calendar. -/
def deskSetup (installation : Installation) (newId : Nat → Json) :
    Logged (Except Failure DeskSetup × Installation) := do
  let (calendar, installation) ← installation.calendar
  match calendar.bind (installation.setup newId) with
  | .error failure => return (.error failure, installation)
  | .ok setup => return ((← installation.keyRegistry).map setup, installation)

/-- The desk that the installation's service is at. -/
def desk (installation : Installation) (clock : Option Timestamp) : Desk where
  clock
  files := installation.files
  store := .file installation.settings.overridesPath
  verdictBroken := false
  outlookBroken := false
  tally := ⟨0, 0⟩

end Installation

end TradingStatus
