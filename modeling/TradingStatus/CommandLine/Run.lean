import TradingStatus.CommandLine.Arguments
import TradingStatus.Settings.Installation

/-! Runs of the command line: the service of the installation is asked once, and the document that it
answers is printed. -/

namespace TradingStatus.CommandLine

variable [Platform]

/-- How a run ends, and what it prints. -/
structure Exit where
  code : Nat
  output : String
deriving DecidableEq

/-- How a run with an answer ends. -/
def Exit.ofResponse (response : Response) : Exit :=
  ⟨if response.code = 200 then 0 else 1, response.body.indented ++ "\n"⟩

/-- The market identifier that arguments name. -/
def Arguments.micOrDefault (arguments : Arguments) : String :=
  match arguments.mic with
  | none | some "" => Mic.default
  | some mic => mic

/-- What arguments ask of the service. -/
def Arguments.request (arguments : Arguments) : Request :=
  match arguments.choice with
  | none => .demo (some arguments.micOrDefault)
  | some .schedule => .schedule (some arguments.micOrDefault)
  | some .exchanges => .exchanges
  | some .keys => .keys
  | some .health => .health

/-- A run in an installation. A bad calendar keeps it from starting. -/
def run (installation : Installation) (newId : Nat → Json) (clock : Option Timestamp)
    (arguments : Arguments) : Logged (Except Failure Exit) := do
  match ← installation.deskSetup newId with
  | (.error failure, _) =>
    if failure.kind == .calendar then
      Logged.write .error ("Cannot start oracle: " ++ failure.message)
      return .ok ⟨2, ""⟩
    else return .error failure
  | (.ok setup, installation) =>
    let (response, _) ← (installation.desk clock).answer setup arguments.request
    return response.map Exit.ofResponse

/-- A run in an installation whose journal has a level. -/
def runAt (level : Except Failure LogLevel) (installation : Installation) (newId : Nat → Json)
    (clock : Option Timestamp) (arguments : Arguments) : Logged (Except Failure Exit) :=
  (run installation newId clock arguments).heard level

end TradingStatus.CommandLine
