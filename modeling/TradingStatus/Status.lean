import TradingStatus.Platform

/-! The states that a market can be in, and where the knowledge of a state comes from. -/

namespace TradingStatus

/-- The state of a market; `ok` is the state of the service itself. -/
inductive MarketStatus
  | opened
  | closed
  | halted
  | unknown
  | ok
deriving DecidableEq

namespace MarketStatus

def name : MarketStatus → String
  | opened => "OPEN"
  | closed => "CLOSED"
  | halted => "HALTED"
  | unknown => "UNKNOWN"
  | ok => "OK"

/-- The state with a name. -/
def ofName? : String → Option MarketStatus
  | "OPEN" => some opened
  | "CLOSED" => some closed
  | "HALTED" => some halted
  | "UNKNOWN" => some unknown
  | "OK" => some ok
  | _ => none

/-- A state that an operator may force on a market. -/
def isOverridable : MarketStatus → Bool
  | ok => false
  | _ => true

/-- The state that a value names. -/
def ofJson [Platform] (value : Json) : Except Failure MarketStatus :=
  match value.text?.bind ofName? with
  | some status => .ok status
  | none => .error (.showing value (.statusName value))

theorem ofName?_name (status : MarketStatus) : ofName? status.name = some status := by
  cases status <;> rfl

theorem ofName?_eq_some_iff {s : String} {status : MarketStatus} :
    ofName? s = some status ↔ s = status.name := by
  constructor
  · intro h
    unfold ofName? at h
    split at h <;> simp_all [name] <;> subst h <;> rfl
  · rintro rfl
    exact ofName?_name status

end MarketStatus

/-- Where a state comes from. -/
inductive StatusSource
  | schedule
  | override
  | system
deriving DecidableEq

namespace StatusSource

def name : StatusSource → String
  | schedule => "SCHEDULE"
  | override => "OVERRIDE"
  | system => "SYSTEM"

/-- The source with a name. -/
def ofName? : String → Option StatusSource
  | "SCHEDULE" => some schedule
  | "OVERRIDE" => some override
  | "SYSTEM" => some system
  | _ => none

/-- The source that a value names. -/
def ofJson [Platform] (value : Json) : Except Failure StatusSource :=
  match value.text?.bind ofName? with
  | some source => .ok source
  | none => .error (.showing value (.sourceName value))

end StatusSource

end TradingStatus
