import TradingStatus.Files.Basic
import TradingStatus.Market.Mic
import TradingStatus.Schedule.Basic
import TradingStatus.Service.Desk
import TradingStatus.Settings.Home

/-! The settings of an installation: what variables say, what is the same everywhere, and where the
documents lie. A file of assignments may hold variables that the environment does not. -/

namespace TradingStatus

/-- What a program is installed with. -/
structure Settings where
  /-- The file of assignments. -/
  variablesPath : String
  secret : Option String
  publicKey : Option String
  keyId : String
  validFrom : String
  validUntil : Option String
  /-- The directory that the documents lie below. -/
  home : String

namespace Settings

/-- The file of assignments unless another one is given. -/
def defaultVariablesPath : String := ".env"

/-- The identifier of the key and the start of its window unless variables give others. -/
def defaultKeyId : String := "key_2026_v1"
def defaultValidFrom : String := "2026-01-01T00:00:00Z"

/-- The paths of the documents, from the home directory on. -/
def keysName : String := "config/keys.json"
def marketsName : String := "config/markets.json"
def overridesName : String := "config/overrides.json"

/-- The variables that settings are made of, besides the one that names the home directory. -/
def secretVariable : String := "ED25519_PRIVATE_KEY"
def publicKeyVariable : String := "ED25519_PUBLIC_KEY"
def keyIdVariable : String := "PUBLIC_KEY_ID"
def validFromVariable : String := "PUBLIC_KEY_VALID_FROM"
def validUntilVariable : String := "PUBLIC_KEY_VALID_UNTIL"

/-- All variables that settings are made of. -/
def variableNames : List String :=
  [secretVariable, publicKeyVariable, keyIdVariable, validFromVariable, validUntilVariable,
    Home.variableName]

/-- The value of a variable, unless it is empty. -/
def filled? (env : Environment) (name : String) : Option String :=
  match env.value? name with
  | some "" => none
  | value => value

/-- The settings in an environment of a program that lies in a directory. -/
def ofEnvironment (env : Environment) (installed variablesPath : String) : Settings where
  variablesPath
  secret := env.value? secretVariable
  publicKey := env.value? publicKeyVariable
  keyId := (filled? env keyIdVariable).getD defaultKeyId
  validFrom := (filled? env validFromVariable).getD defaultValidFrom
  validUntil := filled? env validUntilVariable
  home := Home.directory env installed

/-- The path of the file of assignments that a text means. -/
def variablesPathOf (path : Option String) : String :=
  match path with
  | none | some "" => defaultVariablesPath
  | some path => Path.tidy path

/-- The assignments of a file; where there is no file there are none. -/
def assignments (files : Files) (path : String) : Except Failure (List Assignment) :=
  match files.find? path with
  | some (.file bytes) =>
    match Text.Utf8.decode bytes with
    | .ok text => .ok (Assignment.ofText text)
    | .error error => .error (.encoding error)
  | _ => .ok []

/-- The settings in an environment with a file of assignments. -/
def load (files : Files) (env : Environment) (installed : String) (variablesPath : Option String) :
    Except Failure Settings := do
  let path := variablesPathOf variablesPath
  let env ← env.extend (← assignments files path)
  return ofEnvironment env installed path

/-- The paths of the documents. -/
def keysPath (settings : Settings) : String := Home.path settings.home [keysName]
def marketsPath (settings : Settings) : String := Home.path settings.home [marketsName]
def overridesPath (settings : Settings) : String := Home.path settings.home [overridesName]

/-- All settings by name. -/
def members (settings : Settings) : List (String × Json) := [
  ("private_key", .ofText? settings.secret),
  ("public_key", .ofText? settings.publicKey),
  ("public_key_id", .str settings.keyId),
  ("public_key_valid_from", .str settings.validFrom),
  ("public_key_valid_until", .ofText? settings.validUntil),
  ("default_mic", .str Mic.default),
  ("lookahead_days", .int Schedule.defaultLookahead),
  ("receipt_ttl_seconds", defaultLifetimeSeconds),
  ("schedule_note", Service.defaultNote),
  ("schema_version", Issuer.defaultSchemaVersion),
  ("keys_filepath", .str settings.keysPath),
  ("markets_filepath", .str settings.marketsPath),
  ("overrides_filepath", .str settings.overridesPath)]

/-- The setting of a name, or what stands in for it. -/
def getD (settings : Settings) (name : String) (default : Json) : Json :=
  (settings.members.lookup name).getD default

/-- The setting of a name. -/
def get (settings : Settings) (name : String) : Except Failure Json :=
  match settings.members.lookup name with
  | some value => .ok value
  | none => .error (.parameterMissing name)

end Settings

end TradingStatus
