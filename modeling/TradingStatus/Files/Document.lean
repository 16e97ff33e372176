import TradingStatus.Files.Basic
import TradingStatus.Journal.Logged
import TradingStatus.Platform
import TradingStatus.Text.Blank
import TradingStatus.Text.Lines

/-! JSON documents in files. `loadStrict` fails where there is no document; `load` writes a line in
the journal instead and answers null, unless the bytes of the file are no text, a number in it is too
long, or it goes too deep. -/

namespace TradingStatus.Files

variable [Platform]

/-- The document that the bytes of a file write. -/
def documentOf (bytes : List UInt8) : Except Failure Json :=
  match Text.Utf8.decode bytes with
  | .error error => .error (.encoding error)
  | .ok text =>
    match Json.load (String.ofList (Text.unifyLineEnds text.toList)) with
    | .error error => .error (.document error)
    | .ok document => .ok document

/-- The document that a path leads to. -/
def loadStrict (files : Files) (path : Option String) : Except Failure Json :=
  match path with
  | none => .error .pathAbsent
  | some path => do documentOf (← files.read path)

/-- A failure that leaves a document out rather than ending what needs it. -/
def isRecoverable (failure : Failure) : Bool :=
  failure.kind.isFile || failure.kind == .sort || failure.kind == .document

/-- The document that a path leads to, or null. -/
def load (files : Files) (path : Option String) : Logged (Except Failure Json) :=
  match path with
  | none => do
    Logged.write .error "filepath is empty"
    return .ok .null
  | some path =>
    if Text.isBlankText path then do
      Logged.write .error "filepath is empty"
      return .ok .null
    else if !files.hasPath path then do
      Logged.write .warning ("File not found: " ++ path)
      return .ok .null
    else
      match files.loadStrict (some path) with
      | .ok document => return .ok document
      | .error failure =>
        if isRecoverable failure then do
          Logged.write .error ("Error loading JSON file " ++ path ++ ": " ++ failure.message)
          return .ok .null
        else return .error failure

end TradingStatus.Files
