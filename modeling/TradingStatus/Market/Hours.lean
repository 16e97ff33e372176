import TradingStatus.Market.ClockTime

/-! Hours of the day: an interval that holds its first minute and not its last. -/

namespace TradingStatus

/-- The hours from one time of the day up to a later one. -/
structure Hours where
  opening : ClockTime
  closing : ClockTime
  opening_lt_closing : opening.minuteOfDay < closing.minuteOfDay
deriving DecidableEq

namespace Hours

/-- The hours between two times. -/
def between (opening closing : ClockTime) : Except Failure Hours :=
  if h : opening.minuteOfDay < closing.minuteOfDay then .ok ⟨opening, closing, h⟩
  else .error .hoursOrder

/-- The hours between two values that have to be times. -/
def ofBounds (opening closing : Json) : Except Failure Hours := do
  between (← ClockTime.ofJson opening "open") (← ClockTime.ofJson closing "close")

/-- The minute of the day lies within the hours. -/
def contains (hours : Hours) (minute : Int) : Bool :=
  hours.opening.minuteOfDay ≤ minute && minute < hours.closing.minuteOfDay

/-- Some hours lie within others. -/
def within (inner outer : Hours) : Bool :=
  outer.opening.minuteOfDay ≤ inner.opening.minuteOfDay &&
    inner.closing.minuteOfDay ≤ outer.closing.minuteOfDay

def toJson (hours : Hours) : Json :=
  .obj [("open", .str hours.opening.text), ("close", .str hours.closing.text)]

/-- Hours are read back from their bounds. -/
theorem ofBounds_text (hours : Hours) :
    ofBounds (.str hours.opening.text) (.str hours.closing.text) = .ok hours := by
  simp [ofBounds, ClockTime.ofJson, ClockTime.ofText_text, between, hours.opening_lt_closing,
    bind, Except.bind]

end Hours

end TradingStatus
