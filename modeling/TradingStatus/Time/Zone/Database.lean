import TradingStatus.Files.Path
import TradingStatus.Time.Zone.Americas
import TradingStatus.Time.Zone.Asia
import TradingStatus.Time.Zone.Elsewhere
import TradingStatus.Time.Zone.Europe

/-! Zone databases. A database finds zones by name; `named` also says why a text is no zone's name.
Names are paths below the database, so they are relative, without detours, and never lead out. -/

namespace TradingStatus

/-- A collection of zones by name, with the folders that it is kept in. -/
structure ZoneDatabase where
  find? : String → Option Zone
  folders : List String

namespace ZoneDatabase

/-- A name leads out of the database, or to all of it: put below a folder, it does not stay there. -/
def leadsOut (name : String) : Bool :=
  !"_/".toList.isPrefixOf (Path.normalize ("_/" ++ name)).toList

/-- A name leads to a folder of the database and asks there for what can be no file, having a null
character. -/
def holdsNul (zones : ZoneDatabase) (name : String) : Bool :=
  let names := Path.names name
  let folder := "/".intercalate names.dropLast
  (folder == "" || zones.folders.contains folder) &&
    names.getLast?.any fun last => last.toList.contains '\x00'

/-- The zone of a name. -/
def named (zones : ZoneDatabase) (name : String) : Except Failure Zone :=
  if Path.isAbsolute name then .error (.zoneAbsolute name)
  else if Path.normalize name ≠ name then .error (.zoneNotNormalized name)
  else if leadsOut name then .error (.zoneOutside name)
  else if zones.holdsNul name then .error .zoneNul
  else
    match zones.find? name with
    | some zone => .ok zone
    | none => .error (.zoneUnknown name)

/-- The recorded zones. -/
def records : List (String × ZoneRecord) := [
  ("America/New_York", .newYork),
  ("Europe/London", .london),
  ("Europe/Paris", .paris),
  ("Asia/Tokyo", .tokyo),
  ("Asia/Hong_Kong", .hongKong),
  ("Asia/Singapore", .singapore),
  ("Asia/Kolkata", .kolkata),
  ("Asia/Kathmandu", .kathmandu),
  ("Australia/Lord_Howe", .lordHowe),
  ("Pacific/Apia", .apia),
  ("Europe/Dublin", .dublin),
  ("Africa/Cairo", .cairo),
  ("Asia/Jerusalem", .jerusalem),
  ("America/Sao_Paulo", .saoPaulo),
  ("America/Nuuk", .nuuk),
  ("Pacific/Marquesas", .marquesas),
  ("UTC", .universal),
  ("Etc/GMT+12", .dateLine),
  ("EST5EDT", .newYork),
  ("US/Eastern", .newYork)]

/-- The folders that the zones of the world are kept in. -/
def worldFolders : List String := [
  "Africa", "America", "America/Argentina", "America/Indiana", "America/Kentucky",
  "America/North_Dakota", "Antarctica", "Arctic", "Asia", "Atlantic", "Australia", "Brazil",
  "Canada", "Chile", "Etc", "Europe", "Indian", "Mexico", "Pacific", "US"]

/-- The database of the recorded zones. -/
def standard : ZoneDatabase where
  find? name := (records.lookup name).map ZoneRecord.zone
  folders := worldFolders

end ZoneDatabase

end TradingStatus
