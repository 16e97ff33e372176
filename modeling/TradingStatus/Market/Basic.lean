import TradingStatus.Market.Holidays
import TradingStatus.Market.Mic
import TradingStatus.Time.WallClock
import TradingStatus.Time.Zone.Database

/-! Markets: where one is, when it trades on an ordinary day, and which days are no ordinary days. A
market is checked once, when it is put together from a draft; from then on its lunch break lies
within its hours, and every early close lies after its opening and not after its closing. -/

namespace TradingStatus

/-- A session that closes early is no empty one, and does not outlast the ordinary one. -/
def EarlyClose.fits (early : EarlyClose) (hours : Hours) : Bool :=
  hours.opening.minuteOfDay < early.closing.minuteOfDay &&
    early.closing.minuteOfDay ≤ hours.closing.minuteOfDay

/-- A market with its trading hours, all in the time of its zone. -/
structure Market where
  mic : String
  name : String
  timezone : String
  zone : Zone
  hours : Hours
  lunch : Option Hours
  holidays : Holidays
  earlyCloses : List EarlyClose
  lunch_within : ∀ l ∈ lunch, l.within hours = true
  earlyCloses_fit : ∀ e ∈ earlyCloses, e.fits hours = true

namespace Market

/-- A part of a draft: left out, given, or something that does not belong there. -/
inductive Part (α : Type)
  | absent
  | given (value : α)
  | unsuitable

/-- What a market is put together from, unchecked. -/
structure Draft where
  mic : Json
  name : Json
  timezone : Json
  hours : Part Hours
  lunch : Part Hours
  earlyCloses : List EarlyClose

/-- A text that is not blank. -/
def nonBlank (value : Json) (field : String) : Except Failure String :=
  match value with
  | .str text => if Text.isBlankText text then .error (.blank field) else .ok text
  | _ => .error (.blank field)

/-- The zone that a value names. -/
def zoneOf (zones : ZoneDatabase) (value : Json) : Except Failure (String × Zone) :=
  match value with
  | .str name =>
    if Text.isBlankText name then .error (.timezone name)
    else
      match zones.named name with
      | .ok zone => .ok (name, zone)
      | .error _ => .error (.timezone name)
  | _ => .error (.notText "timezone")

/-- Lunch hours that have to lie within the trading hours. -/
def checkLunch (mic : String) (hours : Hours) (lunch : Part Hours) :
    Except Failure { lunch : Option Hours // ∀ l ∈ lunch, l.within hours = true } :=
  match lunch with
  | .absent => .ok ⟨none, by simp⟩
  | .unsuitable => .error .lunchNotHours
  | .given l =>
    if h : l.within hours = true then .ok ⟨some l, by simpa using h⟩
    else .error (.lunchOutside mic)

/-- Early closes that have to fit the trading hours. -/
def checkEarlyCloses (mic : String) (hours : Hours) (closes : List EarlyClose) :
    Except Failure (PLift (∀ e ∈ closes, e.fits hours = true)) :=
  match h : closes.find? fun e => !e.fits hours with
  | some e => .error (.earlyCloseOutside mic e.day)
  | none => .ok ⟨by simpa using h⟩

/-- The market of a draft, without any holidays. -/
def ofDraft (zones : ZoneDatabase) (draft : Draft) : Except Failure Market := do
  let mic ← nonBlank draft.mic "mic"
  let name ← nonBlank draft.name "name"
  let (timezone, zone) ← zoneOf zones draft.timezone
  match draft.hours with
  | .given hours =>
    let lunch ← checkLunch mic hours draft.lunch
    let fit ← checkEarlyCloses mic hours draft.earlyCloses
    return {
      mic, name, timezone, zone, hours, lunch := lunch.val, holidays := .empty
      earlyCloses := draft.earlyCloses, lunch_within := lunch.property, earlyCloses_fit := fit.down }
  | _ => throw .regularNotHours

/-- The market of a draft whose holidays are listed by years written as texts. -/
def ofDraftWithYears (zones : ZoneDatabase) (draft : Draft) (years : List (String × List Date)) :
    Except Failure Market := do
  let market ← ofDraft zones draft
  return { market with holidays := ← Holidays.ofYearTexts years }

/-- The holidays of a year have been looked at. -/
def covers (market : Market) (year : Int) : Bool := market.holidays.covers year

/-- A day is a holiday. -/
def isHoliday (market : Market) (day : Date) : Bool := market.holidays.includes day

/-- The early close of a day, the first one if several are listed. -/
def earlyClose? (market : Market) (day : Date) : Option EarlyClose :=
  market.earlyCloses.find? fun e => e.day == day

/-- The time at which the session of a day closes. -/
def closingOn (market : Market) (day : Date) : ClockTime :=
  match market.earlyClose? day with
  | some early => early.closing
  | none => market.hours.closing

/-- The lunch break of a day: days that close early have none. -/
def lunchOn (market : Market) (day : Date) : Option Hours :=
  match market.earlyClose? day with
  | some _ => none
  | none => market.lunch

theorem fits_of_earlyClose? {market : Market} {day : Date} {early : EarlyClose}
    (h : market.earlyClose? day = some early) : early.fits market.hours = true :=
  market.earlyCloses_fit early (List.mem_of_find?_eq_some h)

end Market

end TradingStatus
