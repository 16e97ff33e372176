import Std.Time.DateTime.Timestamp
import TradingStatus.CommandLine.Run
import TradingStatus.Platform.Standard
import TradingStatus.Receipt.Identifier

/-! The program. All that it does by itself is to fetch what a run depends on and to print what comes of
it: the variables and files that the settings ask for, the time, and bytes for identifiers. -/

namespace TradingStatus.CommandLine

/-- What a path leads to on this machine. A file that cannot be read counts as a directory. -/
def fetchNode (path : String) : IO (Option FileNode) := do
  try return some (.file (← IO.FS.readBinFile path).toList)
  catch
    | .noFileOrDirectory .. => return none
    | _ => return some .directory

/-- The files with what a path leads to on this machine. -/
def fetchFile (files : Files) (path : String) : IO Files := do
  match ← fetchNode path with
  | some node => return (files.write path node).withPassage path
  | none => return files

/-- The variables of some names. -/
def fetchEnvironment (names : List String) : IO Environment :=
  names.filterMapM fun name => do return (← IO.getEnv name).map (name, ·)

/-- The time. -/
def fetchClock : IO (Option Timestamp) := do
  let nanoseconds := (← Std.Time.Timestamp.now).toNanosecondsSinceUnixEpoch.toInt
  return (Reading.ofMicros? (nanoseconds / 1000)).map .utc

/-- An identifier that is not in use. -/
def fetchId : IO Json := do
  return .str (Receipt.idOfBytes (← IO.getRandomBytes 16).toList)

/-- The installation on this machine. -/
def fetchInstallation : IO (Except Failure Installation) := do
  let directory := (toString (← IO.currentDir)).splitOn "/"
  let installed := "/".intercalate ((toString (← IO.appPath)).splitOn "/").dropLast
  let path := Settings.defaultVariablesPath
  let files ← fetchFile ⟨directory.filter (· != ""), []⟩ path
  let assigned := (Settings.assignments files path).toOption.getD []
  let env ← fetchEnvironment (Settings.variableNames ++ Environment.namesIn assigned)
  match Settings.load files env installed none with
  | .error failure => return .error failure
  | .ok settings =>
    let paths := [settings.marketsPath, settings.keysPath, settings.overridesPath]
    return .ok {
      settings, files := ← paths.foldlM fetchFile files, zones := .standard, scheme := .ed25519
      calendar? := none }

/-- The level of the lines that are printed. -/
def fetchLevel : IO (Except Failure LogLevel) := do
  return LogLevel.ofName (Text.upper ((← IO.getEnv "ORACLE_LOG_LEVEL").getD "INFO"))

/-- Prints the lines of a journal that pass a level. -/
def printLog (level : Except Failure LogLevel) (log : List LogLine) : IO Unit :=
  match level with
  | .error _ => return ()
  | .ok level =>
    (LogLine.passing level log).forM fun line => IO.eprintln (line.level.name ++ " " ++ line.text)

/-- What arguments may be. -/
def usage : String :=
  "arguments: [-h] [--schedule | --exchanges | --keys | --health] [market identifier]"

/-- Prints a failure, and tells that the run did not succeed. -/
def printFailure (failure : Failure) : IO UInt32 := do
  IO.eprintln failure.message
  return 1

/-- Runs what arguments ask for. -/
def perform (arguments : Arguments) : IO UInt32 := do
  match ← fetchInstallation with
  | .error failure => printFailure failure
  | .ok installation =>
    let level ← fetchLevel
    let ids := [← fetchId, ← fetchId, ← fetchId]
    let result := runAt level installation (fun n => ids.getD (n - 1) .null) (← fetchClock) arguments
    printLog level result.log
    match result.value with
    | .error failure => printFailure failure
    | .ok exit => do
      IO.print exit.output
      return exit.code.toUInt32

end TradingStatus.CommandLine

open TradingStatus.CommandLine in
def main (texts : List String) : IO UInt32 := do
  match Arguments.ofTexts texts with
  | .error .help => do
    IO.println usage
    return 0
  | .error .refused => do
    IO.eprintln usage
    return 2
  | .ok arguments => perform arguments
