import TradingStatus.Platform.Standard
import TradingStatus.Proofs.Schedule.Agreement
import TradingStatus.Time.Zone.Database

/-! The order of the bounds of a session that is announced. It never closes before now, nor opens
before now. It closes after it opens unless its lunch break lasts up to the closing, or the clocks of
the market are put forward between two times of its day, both read as UTC, by as much as lies
between them. -/

namespace TradingStatus

/-- The seconds by which the clocks of a zone are put forward between two times of a day, both read
as UTC. -/
def Zone.advance (zone : Zone) (day : Date) (first last : ClockTime) : Int :=
  zone.offsetAt (day.dayNumber * 86400 + last.minuteOfDay * 60) -
    zone.offsetAt (day.dayNumber * 86400 + first.minuteOfDay * 60)

namespace Zone.ChangesAtWeekends

variable {zone : Zone} {day : Date}

theorem offsetAt_of_weekday (h : zone.ChangesAtWeekends) (hday : day.isWeekend = false) (k : Nat)
    (hk : k < 86400) :
    zone.offsetAt (day.dayNumber * 86400 + k) = zone.offsetAt (day.dayNumber * 86400) := by
  induction k with
  | zero => rw [Int.natCast_zero, Int.add_zero]
  | succ k ih =>
    have hprev := ih (by omega)
    have hsecond :
        day.dayNumber * 86400 + ((k + 1 : Nat) : Int) - 1 = day.dayNumber * 86400 + k := by
      omega
    by_cases hsame : zone.offsetAt (day.dayNumber * 86400 + ((k + 1 : Nat) : Int) - 1) =
        zone.offsetAt (day.dayNumber * 86400 + ((k + 1 : Nat) : Int))
    · rw [← hsame, hsecond, hprev]
    · -- The clocks would change at a second of that weekday.
      obtain ⟨hutc, -, -⟩ := h.change _ hsame
      have hdate : (day.dayNumber * 86400 + ((k + 1 : Nat) : Int)) / 86400 = day.dayNumber := by
        omega
      unfold FallsOnWeekend at hutc
      rw [hdate] at hutc
      exact absurd hutc (of_decide_eq_false hday)

theorem advance_eq_zero (h : zone.ChangesAtWeekends) (hday : day.isWeekend = false)
    (first last : ClockTime) : zone.advance day first last = 0 := by
  have hoffset (time : ClockTime) : zone.offsetAt (day.dayNumber * 86400 + time.minuteOfDay * 60) =
      zone.offsetAt (day.dayNumber * 86400) := by
    have hlt := time.minuteOfDay_lt
    exact h.offsetAt_of_weekday hday (time.minuteOfDay * 60) (by omega)
  unfold advance
  rw [hoffset, hoffset, Int.sub_self]

end Zone.ChangesAtWeekends

namespace Market

variable {market : Market} {now s t : Instant} {day : Date} {session : Session}

/-- Trading starts, or goes on after the lunch break, at a time of a day. -/
def ResumesAt (market : Market) (day : Date) (time : ClockTime) : Prop :=
  time = market.hours.opening ∨ ∃ lunch, market.lunchOn day = some lunch ∧ time = lunch.closing

/-- Two times of a day come in their order unless the clocks are put forward by as much as lies
between them. -/
theorem instantOn_lt_iff {first last : ClockTime} (hs : market.instantOn day first = .ok s)
    (ht : market.instantOn day last = .ok t) :
    s < t ↔ market.zone.advance day first last < (last.minuteOfDay - first.minuteOfDay) * 60 := by
  have hs := Zone.ChangesAtWeekends.seconds_of_instantOf hs
  have ht := Zone.ChangesAtWeekends.seconds_of_instantOf ht
  simp only [WallClock.micros_reading] at hs ht
  have hfirst : (day.dayNumber * 86400000000 + (first.minuteOfDay : Int) * 60000000) / 1000000 =
      day.dayNumber * 86400 + first.minuteOfDay * 60 := by
    omega
  have hlast : (day.dayNumber * 86400000000 + (last.minuteOfDay : Int) * 60000000) / 1000000 =
      day.dayNumber * 86400 + last.minuteOfDay * 60 := by
    omega
  rw [hfirst] at hs
  rw [hlast] at ht
  show s.micros < t.micros ↔ _
  unfold Zone.advance
  omega

/-- A session that is announced either goes on, or opens at a time of its day at which trading
starts or resumes. -/
theorem opens_of_sessionOn_some (h : market.sessionOn day now = .ok (some session)) :
    session.opens = now ∨ now < session.opens ∧
      ∃ time, market.ResumesAt day time ∧ market.instantOn day time = .ok session.opens := by
  obtain ⟨opens, hopens, -, -, hbounds⟩ := bounds_of_sessionOn_some h
  rcases hbounds with ⟨hearly, heq⟩ | ⟨-, heq | ⟨lunch, start, hlunch, -, hfinish, -, hnow⟩⟩
  · exact .inr ⟨heq ▸ hearly, market.hours.opening, .inl rfl, heq ▸ hopens⟩
  · exact .inl heq
  · exact .inr ⟨hnow, lunch.closing, .inr ⟨lunch, hlunch, rfl⟩, hfinish⟩

/-- Trading starts or resumes before the closing of a day, if no lunch break lasts up to the regular
closing. -/
theorem lt_closingOn_of_resumesAt {time : ClockTime} (h : market.ResumesAt day time)
    (hlunch : ∀ lunch ∈ market.lunch,
      lunch.closing.minuteOfDay < market.hours.closing.minuteOfDay) :
    time.minuteOfDay < (market.closingOn day).minuteOfDay := by
  unfold closingOn
  rcases h with rfl | ⟨lunch, hlunchOn, rfl⟩
  · cases hearly : market.earlyClose? day with
    | none => exact market.hours.opening_lt_closing
    | some early =>
      have hfits := fits_of_earlyClose? hearly
      simp only [EarlyClose.fits, Bool.and_eq_true, decide_eq_true_eq] at hfits
      exact hfits.1
  · unfold lunchOn at hlunchOn
    cases hearly : market.earlyClose? day with
    | none =>
      rw [hearly] at hlunchOn
      exact hlunch lunch hlunchOn
    | some early =>
      rw [hearly] at hlunchOn
      cases hlunchOn

theorem opens_lt_closes_iff (h : market.sessionOn day now = .ok (some session)) :
    session.opens < session.closes ↔ session.opens = now ∨
      ∃ time, market.ResumesAt day time ∧ market.instantOn day time = .ok session.opens ∧
        market.zone.advance day time (market.closingOn day) <
          ((market.closingOn day).minuteOfDay - time.minuteOfDay) * 60 := by
  obtain ⟨opens, -, hcloses, hnow, -⟩ := bounds_of_sessionOn_some h
  constructor
  · intro hlt
    rcases opens_of_sessionOn_some h with heq | ⟨-, time, hresumes, hopens⟩
    · exact .inl heq
    · exact .inr ⟨time, hresumes, hopens, (instantOn_lt_iff hopens hcloses).mp hlt⟩
  · rintro (heq | ⟨time, -, hopens, hadvance⟩)
    · exact heq ▸ hnow
    · exact (instantOn_lt_iff hopens hcloses).mpr hadvance

end Market

namespace Schedule

variable {schedule : Schedule} {mic : String} {market : Market} {clock : Timestamp} {now : Instant}
  {session : Session}

/-- A session that is announced does not open before now and closes after now. It belongs to a trading
day and closes at the closing of that day. It closes after it opens exactly when it goes on now or,
between the time at which it opens and the closing, both read as UTC, the clocks of the market are
put forward by less than lies between them. So it does wherever the clocks change only at weekends
and the lunch break ends before the regular closing. -/
theorem announced_session_ordered (hmarket : schedule.calendar.get mic = .ok market)
    (hclock : clock.instant? = some now)
    (houtlook : schedule.outlook mic (some clock) = .ok (.session session)) :
    now ≤ session.opens ∧ now < session.closes ∧
    (∃ day, market.tradesOn day = true ∧
      market.instantOn day (market.closingOn day) = .ok session.closes ∧
      (session.opens < session.closes ↔ session.opens = now ∨
        ∃ time, market.ResumesAt day time ∧ market.instantOn day time = .ok session.opens ∧
          market.zone.advance day time (market.closingOn day) <
            ((market.closingOn day).minuteOfDay - time.minuteOfDay) * 60)) ∧
    (market.zone.ChangesAtWeekends →
      (∀ lunch ∈ market.lunch, lunch.closing.minuteOfDay < market.hours.closing.minuteOfDay) →
      session.opens < session.closes) := by
  rw [outlook_eq hmarket hclock, Market.outlook, bind_eq_ok_iff] at houtlook
  obtain ⟨today, -, houtlook⟩ := houtlook
  obtain ⟨day, -, -, -, -, htrades, hsession⟩ := Market.finds_of_sessionWithin houtlook
  obtain ⟨-, -, hcloses, hnow, -⟩ := Market.bounds_of_sessionOn_some hsession
  have hopens := Market.opens_of_sessionOn_some hsession
  refine ⟨?_, hnow, ⟨day, htrades, hcloses, Market.opens_lt_closes_iff hsession⟩, ?_⟩
  · rcases hopens with heq | ⟨hlt, -⟩
    · exact heq ▸ Int.le_refl _
    · exact Int.le_of_lt hlt
  · intro hzone hlunch
    rw [Market.opens_lt_closes_iff hsession]
    rcases hopens with heq | ⟨-, time, hresumes, htime⟩
    · exact .inl heq
    · have hlt := Market.lt_closingOn_of_resumesAt hresumes hlunch
      refine .inr ⟨time, hresumes, htime, ?_⟩
      rw [hzone.advance_eq_zero (Market.isWeekend_of_tradesOn htrades)]
      omega

/-- On Friday, after the closing, the session of Monday is announced, on whose eve the clocks are put
forward. It closes after it opens. -/
theorem spring_session_ordered :
    spring.outlook "XLON" (some (.utc ⟨1774630800000000, by decide, by decide⟩)) =
      .ok (.session ⟨⟨1774854000000000⟩, ⟨1774884600000000⟩⟩) ∧
    Market.withLunch.zone.ChangesAtWeekends ∧
    (⟨1774854000000000⟩ : Instant) < ⟨1774884600000000⟩ := by
  have hmarket : spring.calendar.get "XLON" = .ok Market.withLunch := rfl
  have hzone : Market.withLunch.zone.ChangesAtWeekends := Zone.springForward_changesAtWeekends
  have houtlook : spring.outlook "XLON" (some (.utc ⟨1774630800000000, by decide, by decide⟩)) =
      .ok (.session ⟨⟨1774854000000000⟩, ⟨1774884600000000⟩⟩) :=
    toOption_eq_some_iff.mp (by decide +kernel)
  obtain ⟨-, -, -, hordered⟩ := announced_session_ordered hmarket rfl houtlook
  exact ⟨houtlook, hzone, hordered hzone (by decide)⟩

/-- The document of a calendar with one market. -/
def oneMarket (timezone opening closing : String) (lunch : Json) : Json :=
  .obj [("XTST", .obj [
    ("name", .str "Test"),
    ("timezone", .str timezone),
    ("sessions_hours", .obj [
      ("regular", .obj [("open", .str opening), ("close", .str closing)]),
      ("lunch_break", lunch)]),
    ("holidays", .obj [("2026", .arr [])])])]

/-- In Cairo the clocks are put forward at 22:00 UTC on Thursday, 23 April 2026. Of a session from
21:45 to 22:15 on that day the opening is announced for 19:45 UTC and the closing for 19:15. A lunch
break up to the closing leaves a session that opens and closes at one instant. -/
theorem announced_session_disordered :
    (∃ calendar, Calendar.ofJson .standard (oneMarket "Africa/Cairo" "21:45" "22:15" .null) =
        .ok calendar ∧
      outlook ⟨calendar, 14, by decide⟩ "XTST"
          (some (.utc ⟨1776970800000000, by decide, by decide⟩)) =
        .ok (.session ⟨⟨1776973500000000⟩, ⟨1776971700000000⟩⟩)) ∧
    ∃ calendar, Calendar.ofJson .standard (oneMarket "UTC" "09:00" "16:00"
        (.obj [("open", .str "15:00"), ("close", .str "16:00")])) = .ok calendar ∧
      outlook ⟨calendar, 14, by decide⟩ "XTST"
          (some (.utc ⟨1772638200000000, by decide, by decide⟩)) =
        .ok (.session ⟨⟨1772640000000000⟩, ⟨1772640000000000⟩⟩) := by
  constructor
  · exact bind_eq_ok_iff.mp (toOption_eq_some_iff.mp (by decide +kernel))
  · exact bind_eq_ok_iff.mp (toOption_eq_some_iff.mp (by decide +kernel))

end Schedule

end TradingStatus
