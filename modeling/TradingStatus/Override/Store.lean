import TradingStatus.Files.Document
import TradingStatus.Override.Table

/-! Where overrides are looked up: nowhere, in a table, in a file, or in a service that does not
answer. A file is read anew at every look-up, and a missing one holds no overrides. -/

namespace TradingStatus

/-- A place where overrides are looked up. -/
inductive OverrideStore
  | absent
  | table (table : OverrideTable)
  | file (path : String)
  /-- A service that does not answer for a market, for a reason of its own. -/
  | silent (reason : String → String := fun mic => "KV timeout for " ++ mic)

/-- How overrides are looked up by market identifier. -/
abbrev OverrideLookup := String → Logged (Except Failure (Option Override))

namespace OverrideStore

variable [Platform]

/-- The override that a document holds under an identifier. -/
def lookupDocument (path mic : String) (document : Json) : Except Failure (Option Override) :=
  match document with
  | .obj members =>
    match Json.member members mic with
    | .null => .ok none
    | entry => (Override.ofEntry entry).map some
  | _ => .error (.overrideFile path)

/-- The override that a file holds under an identifier. -/
def lookupFile (files : Files) (path : String) : OverrideLookup := fun mic =>
  if !files.hasPath path then return .ok none
  else do
    match ← files.load (some path) with
    | .ok document => return lookupDocument path mic document
    | .error failure => return .error failure

/-- How a store is looked up, unless there is none. -/
def lookup? (store : OverrideStore) (files : Files) : Option OverrideLookup :=
  match store with
  | .absent => none
  | .table entries => some fun mic => return entries.lookup mic
  | .file path => some (lookupFile files path)
  | .silent reason => some fun mic => return .error (.storeSilent (reason mic))

end OverrideStore

end TradingStatus
