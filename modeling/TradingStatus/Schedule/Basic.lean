import TradingStatus.Journal.Logged
import TradingStatus.Market.Calendar
import TradingStatus.Schedule.Session

/-! Schedules: a calendar with the number of days that are looked ahead. A schedule is asked for a
market by its identifier and for an instant by what a clock shows; where it cannot vouch for an
answer, it says so in the journal. -/

namespace TradingStatus

/-- A calendar that looks some days ahead. -/
structure Schedule where
  calendar : Calendar
  lookahead : Nat
  lookahead_pos : 0 < lookahead

namespace Schedule

/-- The days that are looked ahead unless something else is asked for. -/
def defaultLookahead : Nat := 14

/-- The schedule of what has to be a calendar, looking ahead one day at least. -/
def ofParts (calendar : Option Calendar) (lookahead : Int) : Except Failure Schedule :=
  match calendar with
  | none => .error .notCalendar
  | some calendar =>
    if h : 0 < lookahead.toNat then .ok ⟨calendar, lookahead.toNat, h⟩ else .error .lookahead

/-- What the schedule says about a market at what a clock shows. -/
def verdict (schedule : Schedule) (mic : String) (clock : Option Timestamp) :
    Except Failure Verdict := do
  let market ← schedule.calendar.get mic
  market.verdict (← Timestamp.instant clock)

/-- The sessions to come of a market at what a clock shows. -/
def outlook (schedule : Schedule) (mic : String) (clock : Option Timestamp) :
    Except Failure Outlook := do
  let market ← schedule.calendar.get mic
  market.outlook schedule.lookahead (← Timestamp.instant clock)

/-- How the lines about missing holidays begin. -/
def gapText (mic : String) : String := "CALENDAR_COVERAGE_GAP: " ++ mic

/-- The lines that a verdict is worth. -/
def verdictLog (mic : String) : Except Failure Verdict → List LogLine
  | .ok (.unverified year) =>
    [⟨.warning, gapText mic ++ " has no verified holidays for " ++ toString year⟩]
  | _ => []

/-- The lines that an outlook is worth. -/
def outlookLog (mic : String) : Except Failure Outlook → List LogLine
  | .ok (.unverified year) =>
    [⟨.warning, gapText mic ++ " lookahead reached unverified year " ++ toString year⟩]
  | _ => []

/-- The verdict with the lines that it is worth. -/
def reportVerdict (schedule : Schedule) (mic : String) (clock : Option Timestamp) :
    Logged (Except Failure Verdict) :=
  let verdict := schedule.verdict mic clock
  ⟨verdict, verdictLog mic verdict⟩

/-- The outlook with the lines that it is worth. -/
def reportOutlook (schedule : Schedule) (mic : String) (clock : Option Timestamp) :
    Logged (Except Failure Outlook) :=
  let outlook := schedule.outlook mic clock
  ⟨outlook, outlookLog mic outlook⟩

end Schedule

end TradingStatus
