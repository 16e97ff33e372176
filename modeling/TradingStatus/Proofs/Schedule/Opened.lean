import TradingStatus.Schedule.Verdict

/-! When the trading hours of a market say that it is open: in a year whose holidays have been
looked at, on a day that is neither a weekend nor a holiday, from the opening on and before the
close of that day, the lunch break of an ordinary day apart. -/

namespace TradingStatus

namespace Market

variable {market : Market} {day : Date} {w : WallClock}

/-- A market has its lunch break at a minute of a day: days that close early have none. -/
def IsAtLunch (market : Market) (day : Date) (minute : Nat) : Prop :=
  market.earlyClose? day = none ∧ ∃ lunch ∈ market.lunch, lunch.contains minute = true

theorem any_lunchOn_iff {minute : Nat} :
    (market.lunchOn day).any (·.contains minute) = true ↔ market.IsAtLunch day minute := by
  unfold lunchOn IsAtLunch
  cases market.earlyClose? day <;> simp [Option.any_eq_true]

/-- The market is open at what its wall clock shows: its year has been looked at, it trades on the
day, and the session of the day goes on. -/
theorem verdictOn_eq_opened_iff :
    market.verdictOn w = .opened ↔ market.covers w.date.year = true ∧
      market.tradesOn w.date = true ∧ market.inSession w = true := by
  unfold verdictOn
  cases market.covers w.date.year <;> cases market.tradesOn w.date <;>
    cases market.inSession w <;> simp

theorem isWeekend_of_tradesOn (h : market.tradesOn day = true) : day.isWeekend = false := by
  unfold tradesOn at h
  cases hday : day.isWeekend
  · rfl
  · rw [hday] at h
    cases h

/-- What the wall clock of an open market shows. -/
structure KeepsOpen (market : Market) (w : WallClock) : Prop where
  /-- The holidays of the year have been looked at, and the day is none of them. -/
  listed : ∃ days, market.holidays.find? w.date.year = some days ∧ w.date ∉ days.days
  weekday : w.date.weekday < 5
  opening : market.hours.opening.minuteOfDay ≤ w.minute
  early : ∀ early, market.earlyClose? w.date = some early → w.minute < early.closing.minuteOfDay
  ordinary : market.earlyClose? w.date = none → w.minute < market.hours.closing.minuteOfDay ∧
    ∀ lunch ∈ market.lunch,
      ¬(lunch.opening.minuteOfDay ≤ w.minute ∧ w.minute < lunch.closing.minuteOfDay)

theorem tradesOn_iff : market.tradesOn day = true ↔
    day.weekday < 5 ∧ market.isHoliday day = false := by
  simp [tradesOn, Date.isWeekend]

theorem exists_not_holiday_iff :
    (∃ days, market.holidays.find? day.year = some days ∧ day ∉ days.days) ↔
      market.covers day.year = true ∧ market.isHoliday day = false := by
  unfold covers isHoliday Holidays.covers Holidays.includes
  cases market.holidays.find? day.year <;> simp

theorem inSession_iff_bounds : market.inSession w = true ↔
    market.hours.opening.minuteOfDay ≤ w.minute ∧
      w.minute < (market.closingOn w.date).minuteOfDay ∧ ¬market.IsAtLunch w.date w.minute := by
  unfold inSession
  rw [← any_lunchOn_iff]
  simp [and_assoc]

/-- The trading hours say that a market is open exactly when its wall clock shows so. -/
theorem verdictOn_eq_opened_iff_keepsOpen : market.verdictOn w = .opened ↔ market.KeepsOpen w := by
  rw [verdictOn_eq_opened_iff, tradesOn_iff, inSession_iff_bounds]
  constructor
  · rintro ⟨hcovers, ⟨hweekday, hholiday⟩, hopening, hclosing, hlunch⟩
    refine ⟨exists_not_holiday_iff.mpr ⟨hcovers, hholiday⟩, hweekday, hopening, ?_, ?_⟩
    · intro early hearly
      rwa [closingOn, hearly] at hclosing
    · intro hordinary
      rw [closingOn, hordinary] at hclosing
      refine ⟨hclosing, fun lunch hmem hwithin => hlunch ⟨hordinary, lunch, hmem, ?_⟩⟩
      simpa [Hours.contains] using hwithin
  · intro h
    obtain ⟨hcovers, hholiday⟩ := exists_not_holiday_iff.mp h.listed
    refine ⟨hcovers, ⟨h.weekday, hholiday⟩, h.opening, ?_, ?_⟩
    · unfold closingOn
      cases hearly : market.earlyClose? w.date with
      | some early => exact h.early early hearly
      | none => exact (h.ordinary hearly).1
    · rintro ⟨hordinary, lunch, hmem, hcontains⟩
      exact (h.ordinary hordinary).2 lunch hmem (by simpa [Hours.contains] using hcontains)

end Market

end TradingStatus
