import TradingStatus.Market.Hours
import TradingStatus.Platform
import TradingStatus.Time.Date.Iso

/-! Days whose session ends early. -/

namespace TradingStatus

/-- The date of a value, which has to be a text. -/
def Date.ofJson : Json → Except Failure Date
  | .str text =>
    match Date.ofIso text with
    | .ok date => .ok date
    | .error .malformed => .error (.dateText text)
    | .error (.noDate error) => .error (.date error)
  | _ => .error .dateNotText

/-- A day with the time at which its session ends. -/
structure EarlyClose where
  day : Date
  closing : ClockTime
deriving DecidableEq

namespace EarlyClose

/-- An early close on what has to be a day, at what has to be a time. -/
def ofParts (day : Option Date) (closing : Json) : Except Failure EarlyClose :=
  match day with
  | none => .error .earlyCloseDay
  | some day => return ⟨day, ← ClockTime.ofJson closing "close"⟩

/-- The early close of an entry in the document of a market. -/
def ofJson [Platform] (entry : Json) (mic : String) : Except Failure EarlyClose :=
  match entry with
  | .obj members =>
    match Json.member members "date" with
    | .str text => do
      let day ← Date.ofJson (.str text)
      ofParts (some day) (Json.member members "close")
    | value => .error (.showing value (.earlyCloseDate mic value))
  | value => .error (.showing value (.earlyCloseEntry mic value))

def toJson (early : EarlyClose) : Json :=
  .obj [("date", .str early.day.isoText), ("close", .str early.closing.text)]

end EarlyClose

end TradingStatus
