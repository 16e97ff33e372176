import TradingStatus.Proofs.Schedule.Order

/-! Whether a market is open at the opening that is announced. The session that is looked for knows of
the lunch break only when it is asked for during that break; what is said about an instant knows of
it always. So the two disagree where a lunch break begins with the session or lasts up to its
closing, and nowhere else. -/

namespace TradingStatus

/-- Clocks that never change are among those that change only at weekends. -/
theorem Zone.changesAtWeekends_of_constant {zone : Zone} {offset : Int}
    (hzone : ∀ s, zone.offsetAt s = offset) (hoffset : -86400 < offset ∧ offset < 86400) :
    zone.ChangesAtWeekends where
  offset_lt s := by
    rw [hzone s]
    exact hoffset
  change s h := absurd ((hzone (s - 1)).trans (hzone s).symm) h

theorem Hours.contains_opening (hours : Hours) :
    hours.contains hours.opening.minuteOfDay = true := by
  have := hours.opening_lt_closing
  simp only [contains, Bool.and_eq_true, decide_eq_true_eq]
  omega

namespace Market

variable {market : Market} {now s t u : Instant} {r today : Reading} {day : Date}
  {session : Session} {lunch : Hours}

theorem isAtLunch_iff_lunchOn {minute : Nat} : market.IsAtLunch day minute ↔
    ∃ lunch, market.lunchOn day = some lunch ∧ lunch.contains minute = true := by
  rw [← any_lunchOn_iff, Option.any_eq_true]

theorem mem_of_lunchOn (h : market.lunchOn day = some lunch) : lunch ∈ market.lunch := by
  unfold lunchOn at h
  split at h
  · cases h
  · exact h

/-- A time of a weekday is shown at the instant at which it comes. -/
theorem exists_reading_instantOn (hzone : market.zone.ChangesAtWeekends)
    (hday : day.isWeekend = false) {time : ClockTime} (ht : market.instantOn day time = .ok t) :
    ∃ r, market.zone.reading t = .ok r ∧ r.date = day ∧ r.minuteOfDay = time.minuteOfDay := by
  have hread := WallClock.ofReading_reading ⟨day, time.minuteOfDay, time.minuteOfDay_lt⟩
  exact ⟨_, hzone.reading_instantOf hday ht, congrArg WallClock.date hread,
    congrArg WallClock.minute hread⟩

/-- Between two times of a weekday the clocks show that day. -/
theorem date_of_between (hzone : market.zone.ChangesAtWeekends) (hday : day.isWeekend = false)
    {first last : ClockTime} (hs : market.instantOn day first = .ok s)
    (hu : market.instantOn day last = .ok u) (hr : market.zone.reading t = .ok r) (hst : s ≤ t)
    (htu : t < u) : r.date = day := by
  have hfrom := (hzone.instantOf_le_iff hday hs hr).mp hst
  have hto := (not_congr (hzone.instantOf_le_iff hday hu hr)).mp (Int.not_le.mpr htu)
  simp only [WallClock.micros_reading] at hfrom hto
  have hlt := last.minuteOfDay_lt
  refine Date.ext ?_
  simp only [Reading.date]
  omega

/-- From the opening on, whoever asks during the lunch break is told of the end of it. -/
theorem opens_of_sessionOn_at_lunch (h : market.sessionOn day now = .ok (some session))
    (hs : market.instantOn day market.hours.opening = .ok s) (hopen : s ≤ now)
    (hlunch : market.lunchOn day = some lunch) :
    ∃ start finish, market.instantOn day lunch.opening = .ok start ∧
      market.instantOn day lunch.closing = .ok finish ∧
      (start ≤ now → now < finish → session.opens = finish) := by
  simp only [sessionOn, bind_eq_ok_iff] at h
  obtain ⟨opens, hopens, closes, -, h⟩ := h
  obtain rfl := Except.ok.inj (hopens.symm.trans hs)
  rw [if_neg (c := now < opens) (Int.not_lt.mpr hopen), hlunch] at h
  split at h
  · cases h
  · simp only [bind_eq_ok_iff] at h
    obtain ⟨start, hstart, finish, hfinish, h⟩ := h
    refine ⟨start, finish, hstart, hfinish, fun hbegun hgoes => ?_⟩
    rw [if_pos ⟨hbegun, hgoes⟩] at h
    cases h
    rfl

variable (hzone : market.zone.ChangesAtWeekends) (hday : day.isWeekend = false)
  (h : market.sessionOn day now = .ok (some session))

include hzone hday h

/-- A session that is announced opens on its own day. -/
theorem exists_reading_opens (htoday : market.zone.reading now = .ok today) :
    ∃ r, market.zone.reading session.opens = .ok r ∧ r.date = day := by
  obtain ⟨opens, hopens, hcloses, hlate, hbounds⟩ := bounds_of_sessionOn_some h
  rcases hbounds with ⟨-, heq⟩ | ⟨hopen, heq | ⟨lunch, start, -, -, hfinish, -, -⟩⟩
  · obtain ⟨r, hr, hdate, -⟩ := exists_reading_instantOn hzone hday hopens
    exact ⟨r, heq ▸ hr, hdate⟩
  · exact ⟨today, heq ▸ htoday, date_of_between hzone hday hopens hcloses htoday hopen hlate⟩
  · obtain ⟨r, hr, hdate, -⟩ := exists_reading_instantOn hzone hday hfinish
    exact ⟨r, hr, hdate⟩

/-- A lunch break during which the session is said to open begins with it. -/
theorem lunch_begins_at_opens (hr : market.zone.reading session.opens = .ok r) (hdate : r.date = day)
    (hlunch : market.lunchOn day = some lunch) (hat : lunch.contains r.minuteOfDay = true) :
    lunch.opening.minuteOfDay = r.minuteOfDay ∧
      lunch.opening.minuteOfDay = market.hours.opening.minuteOfDay := by
  have hwithin := market.lunch_within lunch (mem_of_lunchOn hlunch)
  simp only [Hours.within, Hours.contains, Bool.and_eq_true, decide_eq_true_eq] at hwithin hat
  obtain ⟨opens, hopens, -, -, hbounds⟩ := bounds_of_sessionOn_some h
  rcases hbounds with ⟨-, heq⟩ | ⟨hopen, hbounds⟩
  · obtain ⟨shown, hshown, -, hminute⟩ := exists_reading_instantOn hzone hday hopens
    rw [heq, hshown] at hr
    obtain rfl := Except.ok.inj hr
    omega
  · -- The break goes on at the opening; it has not ended there, as it would have, had it gone on now.
    exfalso
    rcases hbounds with heq | ⟨other, start, hother, -, hfinish, -, -⟩
    · obtain ⟨start, finish, hstart, hfinish, hends⟩ :=
        opens_of_sessionOn_at_lunch h hopens hopen hlunch
      rw [heq] at hr hends
      have hbegun := (instantOn_le_iff hzone hday hstart hr hdate).mpr (by omega)
      have hgoes : now < finish := by
        refine Int.not_le.mp fun hover => ?_
        have := (instantOn_le_iff hzone hday hfinish hr hdate).mp hover
        omega
      have hsame := hends hbegun hgoes
      rw [← hsame] at hgoes
      exact Int.lt_irrefl _ hgoes
    · obtain rfl := Option.some.inj (hother.symm.trans hlunch)
      have := (instantOn_le_iff hzone hday hfinish hr hdate).mp (Int.le_refl _)
      omega

/-- The market is open at the opening unless the session closes there or a lunch break begins there.
-/
theorem inSession_opens_iff (hr : market.zone.reading session.opens = .ok r)
    (hdate : r.date = day) :
    market.inSession (.ofReading r) = true ↔ session.opens < session.closes ∧
      ∀ lunch, market.lunchOn day = some lunch → lunch.opening.minuteOfDay ≠ r.minuteOfDay := by
  have hnow : now ≤ session.opens := by
    rcases opens_of_sessionOn_some h with heq | ⟨hlt, -⟩
    · exact heq ▸ Int.le_refl _
    · exact Int.le_of_lt hlt
  rw [inSession_iff hzone hday h hnow hr hdate, isAtLunch_iff_lunchOn]
  constructor
  · rintro ⟨-, hlt, hnot⟩
    exact ⟨hlt, fun lunch hlunch hbegins =>
      hnot ⟨lunch, hlunch, hbegins ▸ lunch.contains_opening⟩⟩
  · rintro ⟨hlt, hbegins⟩
    refine ⟨Int.le_refl _, hlt, ?_⟩
    rintro ⟨lunch, hlunch, hat⟩
    exact hbegins lunch hlunch (lunch_begins_at_opens hzone hday h hr hdate hlunch hat).1

/-- A lunch break that ends before the regular closing leaves no session empty. -/
theorem opens_lt_closes (hlunch : ∀ lunch ∈ market.lunch,
    lunch.closing.minuteOfDay < market.hours.closing.minuteOfDay) :
    session.opens < session.closes := by
  rw [opens_lt_closes_iff h]
  rcases opens_of_sessionOn_some h with heq | ⟨-, time, hresumes, htime⟩
  · exact .inl heq
  · have hlt := lt_closingOn_of_resumesAt hresumes hlunch
    refine .inr ⟨time, hresumes, htime, ?_⟩
    rw [hzone.advance_eq_zero hday]
    omega

end Market

namespace Schedule

variable {schedule : Schedule} {mic : String} {market : Market} {clock : Timestamp} {now : Instant}
  {session : Session}

/-- Let the clocks of a market's zone never change, and let a session be announced. What is said about
the instant at which it opens is that the market is open exactly when the session does not close
there and no lunch break of that day begins there. So the market is open whenever its lunch break,
if it has one, begins after the regular opening and ends before the regular closing. -/
theorem opened_at_announced_opening_iff {offset : Int}
    (hmarket : schedule.calendar.get mic = .ok market)
    (hzone : ∀ s, market.zone.offsetAt s = offset) (hoffset : -86400 < offset ∧ offset < 86400)
    (hclock : clock.instant? = some now)
    (houtlook : schedule.outlook mic (some clock) = .ok (.session session)) :
    ∃ shown w verdict, session.opens.reading = .ok shown ∧
      market.zone.wallClock session.opens = .ok w ∧
      schedule.verdict mic (some (.utc shown)) = .ok verdict ∧
      (verdict = .opened ↔ session.opens < session.closes ∧
        ∀ lunch, market.lunchOn w.date = some lunch → lunch.opening.minuteOfDay ≠ w.minute) ∧
      ((∀ lunch ∈ market.lunch,
          market.hours.opening.minuteOfDay < lunch.opening.minuteOfDay ∧
            lunch.closing.minuteOfDay < market.hours.closing.minuteOfDay) → verdict = .opened) := by
  have hzone := Zone.changesAtWeekends_of_constant hzone hoffset
  rw [outlook_eq hmarket hclock, Market.outlook, bind_eq_ok_iff] at houtlook
  obtain ⟨today, htoday, houtlook⟩ := houtlook
  obtain ⟨shownNow, hnow, -⟩ := Zone.wallClock_eq_ok_iff.mp htoday
  obtain ⟨day, -, -, -, hcovers, htrades, hsession⟩ := Market.finds_of_sessionWithin houtlook
  have hday := Market.isWeekend_of_tradesOn htrades
  obtain ⟨r, hr, rfl⟩ := Market.exists_reading_opens hzone hday hsession hnow
  have hw : market.zone.wallClock session.opens = .ok (.ofReading r) :=
    Zone.wallClock_eq_ok_iff.mpr ⟨r, hr, rfl⟩
  obtain ⟨shown, hshown⟩ := Instant.exists_reading_iff.mpr (Zone.reading_eq_ok_iff.mp hr).1
  have hopens : (Timestamp.utc shown).instant? = some session.opens := by
    have hmicros := Instant.reading_eq_ok_iff.mp hshown
    simp [Timestamp.instant?, Timestamp.utc, hmicros]
  have hopened : market.verdictOn (.ofReading r) = .opened ↔ session.opens < session.closes ∧
      ∀ lunch, market.lunchOn r.date = some lunch → lunch.opening.minuteOfDay ≠ r.minuteOfDay := by
    rw [Market.verdictOn_eq_opened_iff, ← Market.inSession_opens_iff hzone hday hsession hr rfl]
    exact ⟨fun h => h.2.2, fun h => ⟨hcovers, htrades, h⟩⟩
  refine ⟨shown, .ofReading r, market.verdictOn (.ofReading r), hshown, hw, ?_, hopened, ?_⟩
  · rw [verdict_eq hmarket hopens, Market.verdict, hw]
    rfl
  · intro hlunch
    refine hopened.mpr ⟨?_, fun lunch hon hbegins => ?_⟩
    · exact Market.opens_lt_closes hzone hday hsession fun lunch hmem => (hlunch lunch hmem).2
    · -- A lunch break that begins at the opening begins with the session.
      have hregular := (Market.lunch_begins_at_opens hzone hday hsession hr rfl hon
        (hbegins ▸ lunch.contains_opening)).2
      have hlater := (hlunch lunch (Market.mem_of_lunchOn hon)).1
      omega

/-- A schedule of one market, with a lunch break, half an hour off the whole hours of UTC. -/
def eastern : Schedule :=
  { spring with
    calendar := ⟨[{ Market.withLunch with zone := ZoneRecord.kolkata.zone }],
      List.pairwise_singleton _ _, List.cons_ne_nil _ _⟩ }

/-- At half past twelve the rest of the session is announced for one o'clock, and the market is open
then. -/
theorem eastern_opened_after_lunch :
    (∀ s, ZoneRecord.kolkata.zone.offsetAt s = 19800) ∧
    eastern.outlook "XLON" (some (.utc ⟨1774594800000000, by decide, by decide⟩)) =
      .ok (.session ⟨⟨1774596600000000⟩, ⟨1774609200000000⟩⟩) ∧
    eastern.verdict "XLON" (some (.utc ⟨1774596600000000, by decide, by decide⟩)) =
      .ok .opened := by
  have hzone : ∀ s, ZoneRecord.kolkata.zone.offsetAt s = 19800 := fun _ => rfl
  have hmarket : eastern.calendar.get "XLON" =
      .ok { Market.withLunch with zone := ZoneRecord.kolkata.zone } := rfl
  have houtlook : eastern.outlook "XLON" (some (.utc ⟨1774594800000000, by decide, by decide⟩)) =
      .ok (.session ⟨⟨1774596600000000⟩, ⟨1774609200000000⟩⟩) :=
    toOption_eq_some_iff.mp (by decide +kernel)
  obtain ⟨shown, w, verdict, hshown, -, hverdict, -, hopened⟩ :=
    opened_at_announced_opening_iff hmarket hzone (by decide) rfl houtlook
  obtain rfl : shown = ⟨1774596600000000, by decide, by decide⟩ :=
    Reading.ext (Instant.reading_eq_ok_iff.mp hshown)
  refine ⟨hzone, houtlook, ?_⟩
  rw [hverdict, hopened ?_]
  intro lunch hlunch
  obtain rfl := Option.some.inj hlunch
  decide

/-- Lunch hours as a document. -/
def lunchHours (opening closing : String) : Json :=
  .obj [("open", .str opening), ("close", .str closing)]

/-- Before the opening at nine the opening is announced, although the lunch break begins with it. During
a lunch break up to the closing the end of it is announced, where there is nothing left. At neither
is the market open. -/
theorem closed_at_announced_opening :
    (∃ calendar, Calendar.ofJson .standard (oneMarket "UTC" "09:00" "16:00"
        (lunchHours "09:00" "10:00")) = .ok calendar ∧
      outlook ⟨calendar, 14, by decide⟩ "XTST"
          (some (.utc ⟨1772611200000000, by decide, by decide⟩)) =
        .ok (.session ⟨⟨1772614800000000⟩, ⟨1772640000000000⟩⟩) ∧
      verdict ⟨calendar, 14, by decide⟩ "XTST"
          (some (.utc ⟨1772614800000000, by decide, by decide⟩)) = .ok .closed) ∧
    ∃ calendar, Calendar.ofJson .standard (oneMarket "UTC" "09:00" "16:00"
        (lunchHours "15:00" "16:00")) = .ok calendar ∧
      outlook ⟨calendar, 14, by decide⟩ "XTST"
          (some (.utc ⟨1772638200000000, by decide, by decide⟩)) =
        .ok (.session ⟨⟨1772640000000000⟩, ⟨1772640000000000⟩⟩) ∧
      verdict ⟨calendar, 14, by decide⟩ "XTST"
          (some (.utc ⟨1772640000000000, by decide, by decide⟩)) = .ok .closed := by
  -- What is announced and what is said then, asked of a calendar that is still to be read.
  have both {document : Json} {now : Timestamp} {later : Timestamp} {found : Outlook}
      {said : Verdict}
      (h : (do
        let calendar ← Calendar.ofJson .standard document
        let schedule : Schedule := ⟨calendar, 14, by decide⟩
        return (← schedule.outlook "XTST" (some now), ← schedule.verdict "XTST" (some later))) =
          .ok (found, said)) :
      ∃ calendar, Calendar.ofJson .standard document = .ok calendar ∧
        outlook ⟨calendar, 14, by decide⟩ "XTST" (some now) = .ok found ∧
        verdict ⟨calendar, 14, by decide⟩ "XTST" (some later) = .ok said := by
    obtain ⟨calendar, hcalendar, h⟩ := bind_eq_ok_iff.mp h
    obtain ⟨outlook, houtlook, h⟩ := bind_eq_ok_iff.mp h
    obtain ⟨verdict, hverdict, h⟩ := bind_eq_ok_iff.mp h
    obtain ⟨rfl, rfl⟩ := Prod.mk.inj (pure_eq_ok_iff.mp h)
    exact ⟨calendar, hcalendar, houtlook, hverdict⟩
  exact ⟨both (toOption_eq_some_iff.mp (by decide +kernel)),
    both (toOption_eq_some_iff.mp (by decide +kernel))⟩

end Schedule

end TradingStatus
