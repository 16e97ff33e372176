import TradingStatus.Failure

/-! Levels of the lines in a journal. -/

namespace TradingStatus

/-- How much a line matters. -/
inductive LogLevel
  | debug
  | info
  | success
  | warning
  | error
  | critical
deriving DecidableEq

namespace LogLevel

/-- The rank of a level. -/
def rank : LogLevel → Nat
  | debug => 10
  | info => 20
  | success => 25
  | warning => 30
  | error => 40
  | critical => 50

/-- The name that lines of a level carry. -/
def name : LogLevel → String
  | debug => "DEBUG"
  | info => "INFO"
  | success => "SUCCESS"
  | warning => "WARNING"
  | error => "ERROR"
  | critical => "CRITICAL"

/-- The level that a setting names; two levels have a second name, and the level that is not set is
that of warnings. -/
def ofName (name : String) : Except Failure LogLevel :=
  match name with
  | "DEBUG" => .ok debug
  | "INFO" => .ok info
  | "SUCCESS" => .ok success
  | "WARNING" | "WARN" | "NOTSET" => .ok warning
  | "ERROR" => .ok error
  | "CRITICAL" | "FATAL" => .ok critical
  | _ => .error (.logLevel name)

end LogLevel

end TradingStatus
