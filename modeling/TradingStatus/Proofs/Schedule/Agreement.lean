import TradingStatus.Proofs.Schedule.Opened
import TradingStatus.Proofs.Schedule.Walk
import TradingStatus.Proofs.Time.WeekendChanges
import TradingStatus.Schedule.Basic

/-! Two questions, one schedule: what is said about an instant, from the minute that the wall clocks
show, and what is said about the sessions to come, from instants that are compared. In zones whose
clocks change only at weekends the answers agree at every instant: between now and the closing, the
market is open exactly within the session that is announced, its lunch break apart, and where no
session is announced it opens on none of the days that were looked at. -/

namespace TradingStatus

namespace Market

variable {market : Market} {now t : Instant} {r : Reading} {day : Date}

/-- The instant at which a time of a trading day comes, and the minutes shown on that day. -/
theorem instantOn_le_iff (hzone : market.zone.ChangesAtWeekends) (hday : day.isWeekend = false)
    {time : ClockTime} {s : Instant} (hs : market.instantOn day time = .ok s)
    (hr : market.zone.reading t = .ok r) (hdate : r.date = day) :
    s ≤ t ↔ time.minuteOfDay ≤ r.minuteOfDay := by
  rw [hzone.instantOf_le_iff hday hs hr, WallClock.micros_reading]
  subst hdate
  simp only [Reading.date, Reading.minuteOfDay, Reading.microOfDay]
  omega

/-- A session that is over goes on at no later instant of its day. -/
theorem inSession_of_sessionOn_none (hzone : market.zone.ChangesAtWeekends)
    (hday : day.isWeekend = false) (h : market.sessionOn day now = .ok none) (hnow : now ≤ t)
    (hr : market.zone.reading t = .ok r) (hdate : r.date = day) :
    market.inSession (.ofReading r) = false := by
  obtain ⟨closes, hcloses, hover⟩ := closes_of_sessionOn_none h
  have hlate := (instantOn_le_iff hzone hday hcloses hr hdate).mp (Int.le_trans hover hnow)
  unfold inSession
  rw [WallClock.date_ofReading, WallClock.minute_ofReading, hdate,
    decide_eq_false (Nat.not_lt.mpr hlate)]
  simp

/-- What is left of a session goes on, from now on, between its bounds and outside the lunch break.
-/
theorem inSession_iff (hzone : market.zone.ChangesAtWeekends) (hday : day.isWeekend = false)
    {session : Session} (h : market.sessionOn day now = .ok (some session)) (hnow : now ≤ t)
    (hr : market.zone.reading t = .ok r) (hdate : r.date = day) :
    market.inSession (.ofReading r) = true ↔
      session.opens ≤ t ∧ t < session.closes ∧ ¬market.IsAtLunch day r.minuteOfDay := by
  obtain ⟨opens, hopens, hcloses, -, hbounds⟩ := bounds_of_sessionOn_some h
  have hopening := instantOn_le_iff hzone hday hopens hr hdate
  have hclosing := instantOn_le_iff hzone hday hcloses hr hdate
  have hsession : market.inSession (.ofReading r) = true ↔
      opens ≤ t ∧ t < session.closes ∧ ¬market.IsAtLunch day r.minuteOfDay := by
    rw [inSession_iff_bounds, WallClock.date_ofReading, WallClock.minute_ofReading, hdate, hopening,
      show t < session.closes ↔ ¬session.closes ≤ t from Int.not_le.symm, hclosing, Nat.not_le]
  rw [hsession]
  rcases hbounds with ⟨-, heq⟩ | ⟨hopen, heq | ⟨lunch, start, hlunch, hstart, hfinish, hbegun, -⟩⟩
  · rw [heq]
  · rw [heq]
    exact and_congr_left fun _ => ⟨fun _ => hnow, fun _ => Int.le_trans hopen hnow⟩
  · -- From now on, whoever is not at lunch has come to the end of it.
    have hbefore := (instantOn_le_iff hzone hday hstart hr hdate).mp (Int.le_trans hbegun hnow)
    have hafter := instantOn_le_iff hzone hday hfinish hr hdate
    refine and_congr_left fun ⟨_, hnot⟩ =>
      ⟨fun _ => hafter.mpr ?_, fun _ => Int.le_trans hopen hnow⟩
    rw [← any_lunchOn_iff, hlunch] at hnot
    simp only [Option.any_some, Hours.contains, Bool.and_eq_true, decide_eq_true_eq] at hnot
    omega

/-- On a day that is gone past, the market is open at no later instant. -/
theorem verdictOn_of_passes (hzone : market.zone.ChangesAtWeekends)
    (hpasses : market.Passes now day) (hnow : now ≤ t) (hr : market.zone.reading t = .ok r)
    (hdate : r.date = day) :
    market.verdictOn (.ofReading r) ≠ .opened := by
  intro hopened
  obtain ⟨-, htrades, hsession⟩ := verdictOn_eq_opened_iff.mp hopened
  rw [WallClock.date_ofReading, hdate] at htrades
  have hover := hpasses.2 htrades
  rw [inSession_of_sessionOn_none hzone (isWeekend_of_tradesOn htrades) hover hnow hr hdate]
    at hsession
  cases hsession

/-- A market that is open is so on a day that has not come before now. -/
theorem date_le_of_opened (hzone : market.zone.ChangesAtWeekends) {today : Reading}
    (htoday : market.zone.reading now = .ok today) (hr : market.zone.reading t = .ok r)
    (hnow : now ≤ t) (hopened : market.verdictOn (.ofReading r) = .opened) :
    today.date.dayNumber ≤ r.date.dayNumber := by
  obtain ⟨-, htrades, -⟩ := verdictOn_eq_opened_iff.mp hopened
  have hle := hzone.reading_mono htoday hr (isWeekend_of_tradesOn htrades) hnow
  exact Int.ediv_le_ediv (by decide) hle

/-- The session that is found says when the market is open up to its closing. -/
theorem opened_iff_of_session (hzone : market.zone.ChangesAtWeekends) {today : Reading} {days : Nat}
    {session : Session} (htoday : market.zone.reading now = .ok today)
    (hfinds : market.Finds now today.date.dayNumber days (.session session)) (hnow : now ≤ t)
    (hcloses : t ≤ session.closes) :
    ∃ r closing, market.zone.reading t = .ok r ∧
      market.zone.wallClock session.closes = .ok closing ∧
      (market.verdictOn (.ofReading r) = .opened ↔
        session.opens ≤ t ∧ t < session.closes ∧ ¬market.IsAtLunch closing.date r.minuteOfDay) := by
  obtain ⟨day, hfirst, hlast, hpasses, hcovers, htrades, hsession⟩ := hfinds
  have hday := isWeekend_of_tradesOn htrades
  obtain ⟨opens, hopens, hclose, hleft, hbounds⟩ := bounds_of_sessionOn_some hsession
  obtain ⟨r, hr, hreached⟩ := hzone.exists_reading htoday hday hclose hnow hcloses
  have hclosing : market.zone.wallClock session.closes = .ok _ :=
    Zone.wallClock_eq_ok_iff.mpr
      ⟨_, hzone.reading_instantOf hday hclose, WallClock.ofReading_reading _⟩
  refine ⟨r, _, hr, hclosing, ?_⟩
  simp only [WallClock.micros_reading] at hreached
  constructor
  · intro hopened
    have hafter := date_le_of_opened hzone htoday hr hnow hopened
    have hdate : r.date = day := by
      refine Date.ext (Int.le_antisymm ?_ (Int.not_lt.mp fun hlt => ?_))
      · have := (market.closingOn day).minuteOfDay_lt
        simp only [Reading.date]
        omega
      · exact verdictOn_of_passes hzone (hpasses r.date hafter hlt) hnow hr rfl hopened
    rw [← inSession_iff hzone hday hsession hnow hr hdate]
    exact (verdictOn_eq_opened_iff.mp hopened).2.2
  · intro hbetween
    have hopen : opens ≤ t := by
      refine Int.le_trans ?_ hbetween.1
      rcases hbounds with ⟨-, heq⟩ | ⟨hopen, heq | ⟨_, _, _, _, _, _, hnot⟩⟩
      · exact heq ▸ Int.le_refl _
      · exact heq ▸ hopen
      · exact Int.le_trans hopen (Int.le_of_lt hnot)
    -- From the opening to the closing the clocks show minutes of the session's day.
    have hfrom := (hzone.instantOf_le_iff hday hopens hr).mp hopen
    have hto := (not_congr (hzone.instantOf_le_iff hday hclose hr)).mp (Int.not_le.mpr hbetween.2.1)
    simp only [WallClock.micros_reading] at hfrom hto
    have hdate : r.date = day := by
      have := (market.closingOn day).minuteOfDay_lt
      refine Date.ext ?_
      simp only [Reading.date]
      omega
    rw [verdictOn_eq_opened_iff, WallClock.date_ofReading, hdate]
    exact ⟨hcovers, htrades, (inSession_iff hzone hday hsession hnow hr hdate).mpr hbetween⟩

/-- Where no session is found, the market is open on none of the days that were looked at. -/
theorem not_opened_of_no_session (hzone : market.zone.ChangesAtWeekends) {today : Reading}
    {days : Nat} {outlook : Outlook} (htoday : market.zone.reading now = .ok today)
    (hfinds : market.Finds now today.date.dayNumber days outlook) (hnone : outlook.session? = none)
    (hr : market.zone.reading t = .ok r) (hnow : now ≤ t)
    (hlast : r.date.dayNumber < today.date.dayNumber + days)
    (hcovers : ∀ day : Date, today.date ≤ day → day ≤ r.date → market.covers day.year = true) :
    market.verdictOn (.ofReading r) ≠ .opened := by
  intro hopened
  have hafter := date_le_of_opened hzone htoday hr hnow hopened
  refine verdictOn_of_passes hzone ?_ hnow hr rfl hopened
  cases outlook with
  | session session => cases hnone
  | nothing => exact hfinds r.date hafter hlast
  | unverified year =>
    obtain ⟨day, hfirst, -, hpasses, huncovered, -⟩ := hfinds
    refine hpasses r.date hafter (Int.not_le.mp fun hle => ?_)
    rw [hcovers day hfirst hle] at huncovered
    cases huncovered

end Market

/-- Clocks that are put forward by an hour on Sunday, 29 March 2026, at 01:00 UTC. -/
def Zone.springForward : Zone where
  offsetAt s := if s < 1774746000 then 0 else 3600

theorem Zone.springForward_changesAtWeekends : springForward.ChangesAtWeekends where
  offset_lt s := by
    unfold springForward
    simp only
    split <;> omega
  change s h := by
    obtain rfl : s = 1774746000 := by
      unfold springForward at h
      simp only at h
      split at h <;> split at h <;> omega
    unfold FallsOnWeekend springForward
    decide

/-- A market with a lunch break. -/
def Market.withLunch : Market where
  mic := "XLON"
  name := "London"
  timezone := "Europe/London"
  zone := .springForward
  hours := ⟨⟨"08:00", 8, 0, by decide, by decide, by decide⟩,
    ⟨"16:30", 16, 30, by decide, by decide, by decide⟩, by decide⟩
  lunch := some ⟨⟨"12:00", 12, 0, by decide, by decide, by decide⟩,
    ⟨"13:00", 13, 0, by decide, by decide, by decide⟩, by decide⟩
  holidays := ⟨[(2026, .empty)], by simp⟩
  earlyCloses := []
  lunch_within := by simp; decide
  earlyCloses_fit := by simp

namespace Schedule

variable {schedule : Schedule} {mic : String} {market : Market} {clock : Timestamp} {t : Instant}

theorem verdict_eq (hmarket : schedule.calendar.get mic = .ok market)
    (hclock : clock.instant? = some t) :
    schedule.verdict mic (some clock) = market.verdict t := by
  simp only [verdict, hmarket, Timestamp.instant, hclock]
  rfl

theorem outlook_eq (hmarket : schedule.calendar.get mic = .ok market)
    (hclock : clock.instant? = some t) :
    schedule.outlook mic (some clock) = market.outlook schedule.lookahead t := by
  simp only [outlook, hmarket, Timestamp.instant, hclock]
  rfl

/-- The sessions that are announced and the states that are reported describe one schedule. Let the
clocks of a market's zone change only at weekends, and let an outlook be given now. If a session is
announced, the market is open at an instant from now to the closing exactly when the session has
opened and not closed, and it is not lunchtime on a day that does not close early. If none is
announced, the market is open at no later instant whose day is one of those looked ahead and lies
before the first of them whose year has not been looked at. -/
theorem outlook_agrees_with_verdict {now : Instant} {today : WallClock} {outlook : Outlook}
    (hmarket : schedule.calendar.get mic = .ok market)
    (hzone : market.zone.ChangesAtWeekends) (hclock : clock.instant? = some now)
    (htoday : market.zone.wallClock now = .ok today)
    (houtlook : schedule.outlook mic (some clock) = .ok outlook) :
    (∀ session, outlook.session? = some session →
      ∀ (later : Timestamp) (t : Instant), later.instant? = some t → now ≤ t → t ≤ session.closes →
        ∃ verdict w closing, schedule.verdict mic (some later) = .ok verdict ∧
          market.zone.wallClock t = .ok w ∧ market.zone.wallClock session.closes = .ok closing ∧
          (verdict = .opened ↔ (session.opens ≤ t ∧ t < session.closes) ∧
            ¬(market.earlyClose? closing.date = none ∧
              ∃ lunch ∈ market.lunch, lunch.contains w.minute = true))) ∧
    (outlook.session? = none →
      ∀ (later : Timestamp) (t : Instant) (w : WallClock), later.instant? = some t → now ≤ t →
        market.zone.wallClock t = .ok w →
        w.date.dayNumber < today.date.dayNumber + schedule.lookahead →
        (∀ day : Date, today.date ≤ day → day ≤ w.date → market.covers day.year = true) →
        ∃ verdict, schedule.verdict mic (some later) = .ok verdict ∧ verdict ≠ .opened) := by
  obtain ⟨r₀, hr₀, rfl⟩ := Zone.wallClock_eq_ok_iff.mp htoday
  rw [outlook_eq hmarket hclock, Market.outlook, htoday] at houtlook
  have hfinds := Market.finds_of_sessionWithin houtlook
  constructor
  · intro session hsession later t hlater hnow hcloses
    obtain rfl := Outlook.session?_eq_some_iff.mp hsession
    obtain ⟨r, closing, hr, hclosing, hopened⟩ :=
      Market.opened_iff_of_session hzone hr₀ hfinds hnow hcloses
    have hw := Zone.wallClock_eq_ok_iff.mpr ⟨r, hr, rfl⟩
    refine ⟨market.verdictOn (.ofReading r), .ofReading r, closing, ?_, hw, hclosing, ?_⟩
    · rw [verdict_eq hmarket hlater, Market.verdict, hw]
      rfl
    · rw [hopened, ← and_assoc]
      rfl
  · intro hnone later t w hlater hnow hw hlast hcovers
    obtain ⟨r, hr, rfl⟩ := Zone.wallClock_eq_ok_iff.mp hw
    refine ⟨market.verdictOn (.ofReading r), ?_, ?_⟩
    · rw [verdict_eq hmarket hlater, Market.verdict, hw]
      rfl
    · exact Market.not_opened_of_no_session hzone hr₀ hfinds hnone hr hnow hlast hcovers

/-- A schedule of one market, with a lunch break, whose clocks are put forward on a Sunday. -/
def spring : Schedule where
  calendar := ⟨[.withLunch], by simp, by simp⟩
  lookahead := 14
  lookahead_pos := by decide

/-- On Friday, after the closing, the session of Monday is announced. On Monday the clocks are an
hour ahead, and the market is open at half past eight. -/
theorem opened_on_monday_after_springForward :
    Market.withLunch.zone.ChangesAtWeekends ∧
    spring.outlook "XLON" (some (.utc ⟨1774630800000000, by decide, by decide⟩)) =
      .ok (.session ⟨⟨1774854000000000⟩, ⟨1774884600000000⟩⟩) ∧
    spring.verdict "XLON" (some (.utc ⟨1774855800000000, by decide, by decide⟩)) = .ok .opened := by
  have hzone : Market.withLunch.zone.ChangesAtWeekends := Zone.springForward_changesAtWeekends
  have houtlook : spring.outlook "XLON" (some (.utc ⟨1774630800000000, by decide, by decide⟩)) =
      .ok (.session ⟨⟨1774854000000000⟩, ⟨1774884600000000⟩⟩) :=
    toOption_eq_some_iff.mp (by decide +kernel)
  refine ⟨hzone, houtlook, ?_⟩
  have hmarket : spring.calendar.get "XLON" = .ok Market.withLunch := rfl
  have hfriday : Market.withLunch.zone.wallClock ⟨1774630800000000⟩ =
      .ok ⟨⟨20539, by decide, by decide⟩, 1020, by decide⟩ :=
    toOption_eq_some_iff.mp (by decide +kernel)
  have hmonday : Market.withLunch.zone.wallClock ⟨1774855800000000⟩ =
      .ok ⟨⟨20542, by decide, by decide⟩, 510, by decide⟩ :=
    toOption_eq_some_iff.mp (by decide +kernel)
  obtain ⟨verdict, w, closing, hverdict, hw, -, hopened⟩ :=
    (outlook_agrees_with_verdict hmarket hzone rfl hfriday houtlook).1 _ rfl
      (.utc ⟨1774855800000000, by decide, by decide⟩) ⟨1774855800000000⟩ rfl (by decide) (by decide)
  obtain rfl := Except.ok.inj (hmonday.symm.trans hw)
  rw [hverdict, hopened.mpr ⟨by decide, fun hlunch => ?_⟩]
  obtain ⟨-, lunch, hmem, hlunch⟩ := hlunch
  obtain rfl := Option.some.inj hmem
  exact absurd hlunch (by decide)

end Schedule

end TradingStatus
