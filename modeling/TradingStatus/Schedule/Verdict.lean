import TradingStatus.Market.Basic
import TradingStatus.Status

/-! What the trading hours of a market say about an instant. Only the wall clock of the market counts:
whether its year has been looked at, then whether its day is a trading day, then its minute. -/

namespace TradingStatus

/-- What a schedule says about an instant. -/
inductive Verdict
  /-- The holidays of the local year have not been looked at, so nothing can be said. -/
  | unverified (year : Int)
  | closed
  | opened
deriving DecidableEq

namespace Verdict

/-- The state that is reported. -/
def status : Verdict → MarketStatus
  | unverified _ => .unknown
  | closed => .closed
  | opened => .opened

/-- The source that is reported. -/
def source : Verdict → StatusSource
  | unverified _ => .system
  | _ => .schedule

end Verdict

namespace Market

/-- The market trades on a day: neither a weekend nor a holiday. -/
def tradesOn (market : Market) (day : Date) : Bool := !day.isWeekend && !market.isHoliday day

/-- The session of a day goes on at a minute: from the opening on, before the closing of that day and
not during the lunch break of that day. -/
def inSession (market : Market) (w : WallClock) : Bool :=
  market.hours.opening.minuteOfDay ≤ w.minute && w.minute < (market.closingOn w.date).minuteOfDay &&
    !(market.lunchOn w.date).any (·.contains w.minute)

/-- What the trading hours say about what the wall clock shows. -/
def verdictOn (market : Market) (w : WallClock) : Verdict :=
  if !market.covers w.date.year then .unverified w.date.year
  else if market.tradesOn w.date && market.inSession w then .opened
  else .closed

/-- What the trading hours say about an instant. -/
def verdict (market : Market) (t : Instant) : Except Failure Verdict :=
  return market.verdictOn (← market.zone.wallClock t)

end Market

end TradingStatus
