import TradingStatus.Proofs.Schedule.Coverage

/-! Where a schedule gives an answer at all. The hours, the lunch break and the early closes of a
market were checked when it was put together, so nothing but dates can run out: away from the first
and the last of them, every session can be worked out, the walk over days comes to an end, and the
wall clocks of the market can be read. -/

namespace TradingStatus

/-- A date that clocks near UTC show is near the one that a UTC clock shows. -/
theorem Zone.dayNumber_of_wallClock {zone : Zone} {t : Instant} {w : WallClock}
    (hoffset : ∀ s, -86400 < zone.offsetAt s ∧ zone.offsetAt s < 86400)
    (h : zone.wallClock t = .ok w) :
    t.micros - 172800000000 < w.date.dayNumber * 86400000000 ∧
      w.date.dayNumber * 86400000000 < t.micros + 86400000000 := by
  obtain ⟨r, hr, rfl⟩ := wallClock_eq_ok_iff.mp h
  obtain ⟨-, hmicros⟩ := reading_eq_ok_iff.mp hr
  have hshift := hoffset t.seconds
  unfold shift at hmicros
  simp only [WallClock.date_ofReading, Reading.date]
  omega

namespace Market

variable {market : Market} {now : Instant} {day : Date}
  (hoffset : ∀ s, -86400 < market.zone.offsetAt s ∧ market.zone.offsetAt s < 86400)

include hoffset

theorem exists_instantOn (hfirst : -719160 ≤ day.dayNumber) (hlast : day.dayNumber < 2932894)
    (time : ClockTime) : ∃ t, market.instantOn day time = .ok t := by
  obtain ⟨t, -, ht, -⟩ := Zone.exists_instantOf_of_days
    (w := ⟨day, time.minuteOfDay, time.minuteOfDay_lt⟩) hoffset hfirst hlast
  exact ⟨t, ht⟩

theorem exists_sessionOn (now : Instant) (hfirst : -719160 ≤ day.dayNumber)
    (hlast : day.dayNumber < 2932894) : ∃ left, market.sessionOn day now = .ok left := by
  have hinstant := exists_instantOn hoffset hfirst hlast
  obtain ⟨opens, hopens⟩ := hinstant market.hours.opening
  obtain ⟨closes, hcloses⟩ := hinstant (market.closingOn day)
  unfold sessionOn
  simp only [bind_eq_ok_iff, hopens, hcloses, Except.ok.injEq, exists_eq_left']
  split
  · exact ⟨none, rfl⟩
  · split
    · exact ⟨_, rfl⟩
    · cases market.lunchOn day with
      | none => exact ⟨_, rfl⟩
      | some lunch =>
        obtain ⟨lunchStart, hstart⟩ := hinstant lunch.opening
        obtain ⟨lunchEnd, hend⟩ := hinstant lunch.closing
        simp only [bind_eq_ok_iff, hstart, hend, Except.ok.injEq, exists_eq_left']
        split
        · exact ⟨_, rfl⟩
        · exact ⟨_, rfl⟩

theorem exists_sessionWithin (now : Instant) {days : Nat} {first : Int} (hfirst : -719160 ≤ first)
    (hlast : first + days ≤ 2932894) :
    ∃ outlook, market.sessionWithin now days first = .ok outlook := by
  induction days generalizing first with
  | zero => exact ⟨.nothing, rfl⟩
  | succ days ih =>
    obtain ⟨day, hday⟩ : ∃ day, Date.ofDayNumber? first = some day :=
      ⟨⟨first, by omega, by omega⟩, Date.ofDayNumber?_eq_some_iff.mpr rfl⟩
    obtain rfl := Date.ofDayNumber?_eq_some_iff.mp hday
    obtain ⟨left, hleft⟩ := exists_sessionOn hoffset now hfirst (by omega)
    have hnext : day.dayNumber + 1 + days ≤ 2932894 := by omega
    obtain ⟨outlook, hlater⟩ := ih (by omega) hnext
    unfold sessionWithin
    simp only [hday]
    split
    · exact ⟨_, rfl⟩
    · split
      · exact ⟨outlook, hlater⟩
      · rw [hleft]
        cases left with
        | none => exact ⟨outlook, hlater⟩
        | some session => exact ⟨_, rfl⟩

/-- Sessions are looked for on some days from the local day on, and those days come to an end before
the dates do. -/
theorem exists_outlook (hnow : -718798 * 86400000000 ≤ now.micros) {today : WallClock}
    (htoday : market.zone.wallClock now = .ok today) {days : Nat}
    (hlast : Date.yearOf (today.date.dayNumber + days - 1) ≤ 9998) :
    ∃ outlook, market.outlook days now = .ok outlook := by
  have hdate := Zone.dayNumber_of_wallClock hoffset htoday
  have hend := (Date.newYear_yearOf (today.date.dayNumber + days - 1)).2
  simp only [Date.newYear] at hend
  have hdays : today.date.dayNumber + days ≤ 2932894 := by omega
  obtain ⟨outlook, hfound⟩ := exists_sessionWithin hoffset now (by omega) hdays
  refine ⟨outlook, ?_⟩
  rw [Market.outlook, htoday]
  exact hfound

end Market

end TradingStatus
