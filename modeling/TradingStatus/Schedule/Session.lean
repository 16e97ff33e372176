import TradingStatus.Schedule.Verdict

/-! The session of a market that is going on or comes next. Days are looked at one by one from the
local day on, and looking ends where the holidays of a year have not been looked at. -/

namespace TradingStatus

/-- A session from one instant up to another. -/
structure Session where
  opens : Instant
  closes : Instant
deriving DecidableEq

/-- What is known of the sessions to come. -/
inductive Outlook
  | session (session : Session)
  /-- The days before the given year have no session, and nothing is known of that year. -/
  | unverified (year : Int)
  /-- None of the days looked at has a session. -/
  | nothing
deriving DecidableEq

/-- The session, if there is one. -/
def Outlook.session? : Outlook → Option Session
  | session s => some s
  | _ => none

namespace Session

def toJson (s : Session) : Except Failure Json :=
  return .obj [("next_open", .str (← s.opens.isoUtc)), ("next_close", .str (← s.closes.isoUtc))]

end Session

namespace Market

/-- The instant at which the wall clocks of a market show a time of a day. -/
def instantOn (market : Market) (day : Date) (time : ClockTime) : Except Failure Instant :=
  market.zone.instantOf ⟨day, time.minuteOfDay, time.minuteOfDay_lt⟩

/-- What is left of the session of a trading day: all of it before the opening, the part after the
lunch break during that break, otherwise the part from now on. -/
def sessionOn (market : Market) (day : Date) (now : Instant) : Except Failure (Option Session) := do
  let opens ← market.instantOn day market.hours.opening
  let closes ← market.instantOn day (market.closingOn day)
  if closes ≤ now then return none
  else if now < opens then return some ⟨opens, closes⟩
  else
    match market.lunchOn day with
    | none => return some ⟨now, closes⟩
    | some lunch =>
      let lunchStart ← market.instantOn day lunch.opening
      let lunchEnd ← market.instantOn day lunch.closing
      if lunchStart ≤ now ∧ now < lunchEnd then return some ⟨lunchEnd, closes⟩
      else return some ⟨now, closes⟩

/-- The first session within a number of days from a day number on. -/
def sessionWithin (market : Market) (now : Instant) : Nat → Int → Except Failure Outlook
  | 0, _ => .ok .nothing
  | days + 1, n =>
    match Date.ofDayNumber? n with
    | none => .error .outOfRange
    | some day =>
      if !market.covers day.year then .ok (.unverified day.year)
      else if !market.tradesOn day then sessionWithin market now days (n + 1)
      else
        match sessionOn market day now with
        | .error failure => .error failure
        | .ok (some session) => .ok (.session session)
        | .ok none => sessionWithin market now days (n + 1)

/-- The session that is going on or comes next within a number of days from the local day on. -/
def outlook (market : Market) (lookahead : Nat) (now : Instant) : Except Failure Outlook := do
  let today ← market.zone.wallClock now
  market.sessionWithin now lookahead today.date.dayNumber

end Market

end TradingStatus
