import TradingStatus.Market.Basic

/-! Markets as documents. A market is written under its identifier as an object; what is written is
read back as the same market. -/

namespace TradingStatus.Market

variable [Platform]

/-- The hours under a name of a document's sessions. -/
def sessionHours (sessions : List (String × Json)) (key label mic : String) :
    Except Failure (Part Hours) :=
  match Json.member sessions key with
  | .null => .ok .absent
  | .obj bounds =>
    return .given (← Hours.ofBounds (Json.member bounds "open") (Json.member bounds "close"))
  | value => .error (.showing value (.marketHours label mic value))

/-- The early closes of a document; anything vacant stands for none. -/
def earlyCloseEntries (value : Json) (mic : String) : Except Failure (List Json) :=
  if value.isVacant then .ok []
  else
    match value with
    | .arr items => .ok items
    | value => .error (.showing value (.marketEarlyCloses mic value))

/-- The market of a document's entry. -/
def ofJson (zones : ZoneDatabase) (mic : String) (entry : Json) : Except Failure Market :=
  match entry with
  | .obj members =>
    match Json.member members "sessions_hours" with
    | .obj sessions => do
      let hours ← sessionHours sessions "regular" "Regular" mic
      let .given hours := hours | throw (.marketWithoutHours mic)
      let entries ← earlyCloseEntries (Json.member members "early_closes") mic
      let holidays ← Holidays.ofJson mic (Json.member members "holidays")
      let earlyCloses ← entries.mapM (EarlyClose.ofJson · mic)
      let lunch ← sessionHours sessions "lunch_break" "Lunch_break" mic
      let market ← ofDraft zones {
        mic := .str (Mic.normalize mic)
        name := Json.member members "name"
        timezone := Json.member members "timezone"
        hours := .given hours
        lunch, earlyCloses }
      return { market with holidays }
    | value => .error (.showing value (.marketSessions mic value))
  | value => .error (.showing value (.marketEntry mic value))

/-- The market in a directory of markets. -/
def directoryEntry (market : Market) : Json :=
  .obj [("mic", .str market.mic), ("name", .str market.name), ("timezone", .str market.timezone)]

def toJson (market : Market) : Json :=
  .obj [
    ("mic", .str market.mic),
    ("name", .str market.name),
    ("timezone", .str market.timezone),
    ("sessions_hours", .obj [
      ("regular", market.hours.toJson),
      ("lunch_break", (market.lunch.map Hours.toJson).getD .null)]),
    ("holidays", market.holidays.toJson),
    ("early_closes", .arr (market.earlyCloses.map EarlyClose.toJson))]

end TradingStatus.Market
