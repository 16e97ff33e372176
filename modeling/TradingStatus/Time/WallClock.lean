import TradingStatus.Time.Zone

/-! Wall clocks: the date and the minute that the clocks of a zone show, and the instant at which they
show them. -/

namespace TradingStatus

/-- A date and a minute of the day. -/
structure WallClock where
  date : Date
  minute : Nat
  minute_lt : minute < 1440
deriving DecidableEq

namespace WallClock

/-- What a reading shows to the minute. -/
def ofReading (r : Reading) : WallClock := ⟨r.date, r.minuteOfDay, r.minuteOfDay_lt⟩

/-- The reading at the start of the minute. -/
def reading (w : WallClock) : Reading :=
  Reading.ofDate w.date (w.minute * 60000000) (by have := w.minute_lt; omega)

/-- A date and a minute from their numbers, which are looked at in order. -/
def ofCivil (year month day hour minute : Int) : Except Failure WallClock :=
  (Reading.ofCivil year month day hour minute 0 0).map ofReading

theorem ofReading_reading (w : WallClock) : ofReading w.reading = w := by
  obtain ⟨date, minute, h⟩ := w
  have hd : (Reading.ofDate date (minute * 60000000) (by omega)).date = date := by
    ext
    simp only [Reading.date, Reading.ofDate]
    omega
  have hm : (Reading.ofDate date (minute * 60000000) (by omega)).minuteOfDay = minute := by
    simp only [Reading.minuteOfDay, Reading.microOfDay, Reading.ofDate]
    omega
  simp [ofReading, reading, hd, hm]

end WallClock

namespace Zone

/-- What the wall clocks of a zone show at an instant. -/
def wallClock (zone : Zone) (t : Instant) : Except Failure WallClock :=
  return WallClock.ofReading (← zone.reading t)

/-- The instant at which the wall clocks of a zone show a date and a minute. The offset is the one at
the instant at which a UTC clock shows them, hours away from the result. -/
def instantOf (zone : Zone) (w : WallClock) : Except Failure Instant := do
  let provisional : Instant := ⟨w.reading.micros⟩
  let shown ← zone.reading provisional
  let result : Instant := ⟨provisional.micros + (provisional.micros - shown.micros)⟩
  let _ ← result.reading
  return result

end Zone

end TradingStatus
