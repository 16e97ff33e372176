import TradingStatus.Proofs.Schedule.Walk
import TradingStatus.Proofs.Time.Readings
import TradingStatus.Service.Basic

/-! The schedule that a service shows. It is answered for a market of the calendar once there is a
verdict and an outlook; what is missing of either is answered by a failure report. No other failure
is left, since the clock and the bounds of a session can be written wherever they are known. -/

namespace TradingStatus

theorem Market.isReadable_of_instantOn {market : Market} {day : Date} {time : ClockTime} {t : Instant}
    (h : market.instantOn day time = .ok t) : t.IsReadable := (Zone.instantOf_eq_ok h).1

/-- What is left of a session begins and ends at readable instants if it is asked for at one. -/
theorem Market.isReadable_of_sessionOn {market : Market} {day : Date} {now : Instant}
    {session : Session} (hnow : now.IsReadable) (h : market.sessionOn day now = .ok (some session)) :
    session.opens.IsReadable ∧ session.closes.IsReadable := by
  obtain ⟨opens, hopens, hcloses, -, hbounds⟩ := bounds_of_sessionOn_some h
  refine ⟨?_, isReadable_of_instantOn hcloses⟩
  rcases hbounds with ⟨-, heq⟩ | ⟨-, heq | ⟨_, _, -, -, hfinish, -⟩⟩
  · rw [heq]
    exact isReadable_of_instantOn hopens
  · rw [heq]
    exact hnow
  · exact isReadable_of_instantOn hfinish

namespace Schedule

variable {schedule : Schedule} {mic : String} {clock : Option Timestamp}

/-- Where there is a verdict, the clock can be written. -/
theorem exists_isoUtc_of_verdict {verdict : Verdict}
    (h : schedule.verdict mic clock = .ok verdict) : ∃ text, Timestamp.isoUtc clock = .ok text := by
  simp only [Schedule.verdict, Market.verdict, bind_eq_ok_iff] at h
  obtain ⟨market, -, t, ht, w, hw, -⟩ := h
  obtain ⟨now, rfl, hnow⟩ := Timestamp.instant_eq_ok_iff.mp ht
  obtain ⟨r, hr, -⟩ := Zone.wallClock_eq_ok_iff.mp hw
  exact Timestamp.exists_isoUtc hnow (Zone.reading_eq_ok_iff.mp hr).1

/-- A session that is announced has bounds that can be written. -/
theorem isReadable_of_outlook {outlook : Outlook} (h : schedule.outlook mic clock = .ok outlook)
    (session : Session) (hsession : outlook.session? = some session) :
    session.opens.IsReadable ∧ session.closes.IsReadable := by
  simp only [Schedule.outlook, Market.outlook, bind_eq_ok_iff] at h
  obtain ⟨market, -, t, -, w, hw, hwalk⟩ := h
  obtain ⟨r, hr, -⟩ := Zone.wallClock_eq_ok_iff.mp hw
  obtain rfl := Outlook.session?_eq_some_iff.mp hsession
  obtain ⟨day, -, -, -, -, -, hfound⟩ := Market.finds_of_sessionWithin hwalk
  exact Market.isReadable_of_sessionOn (Zone.reading_eq_ok_iff.mp hr).1 hfound

end Schedule

namespace Service

variable {service : Service} {market : Market} {request : Option String} {mic : String}
  {clock : Option Timestamp} {verdict : Verdict} {outlook : Outlook}

theorem value_prospects_eq_ok_iff :
    (service.prospects mic clock).value = .ok (verdict, outlook) ↔
      (service.issuer.verdict mic clock).value = .ok verdict ∧
        (service.outlook mic clock).value = .ok outlook := by
  unfold prospects
  rw [Logged.value_bind]
  cases (service.issuer.verdict mic clock).value with
  | error failure => simp
  | ok verdict =>
    simp only [Logged.value_bind]
    cases (service.outlook mic clock).value with
    | error failure => simp
    | ok outlook => simp

theorem value_schedule_of_not_listed
    (hmarket : service.issuer.calendar.find? (Mic.orDefault request Mic.default) = none) :
    (service.schedule request clock).value = .ok
      (unknownMarket (Mic.orDefault request Mic.default) service.issuer.calendar.supported) := by
  unfold schedule
  simp only [hmarket, Logged.value_pure]

theorem value_schedule_of_prospects
    (hmarket : service.issuer.calendar.find? (Mic.orDefault request Mic.default) = some market)
    (hprospects : (service.prospects (Mic.orDefault request Mic.default) clock).value =
      .ok (verdict, outlook)) :
    (service.schedule request clock).value =
      (scheduleJson market service.note clock verdict outlook).map (⟨200, ·⟩) := by
  unfold schedule
  simp only [hmarket, Logged.value_bind, hprospects, Logged.value_pure]

theorem value_schedule_of_failure {failure : Failure}
    (hmarket : service.issuer.calendar.find? (Mic.orDefault request Mic.default) = some market)
    (hprospects : (service.prospects (Mic.orDefault request Mic.default) clock).value =
      .error failure) :
    (service.schedule request clock).value = .ok offline := by
  unfold schedule
  simp only [hmarket, Logged.value_bind, hprospects, Logged.value_pure]

/-- A schedule can be written once the clock and the bounds of the session in it can. -/
theorem exists_scheduleJson {now : String} (market : Market) (note : Json) (verdict : Verdict)
    (hclock : Timestamp.isoUtc clock = .ok now)
    (hsession : ∀ session, outlook.session? = some session →
      session.opens.IsReadable ∧ session.closes.IsReadable) :
    ∃ opens closes, scheduleJson market note clock verdict outlook = .ok (.obj [
        ("mic", .str market.mic), ("name", .str market.name), ("timezone", .str market.timezone),
        ("queried_at", .str now), ("current_status", .str verdict.status.name),
        ("next_open", opens), ("next_close", closes), ("lunch_break", lunchJson market.lunch),
        ("note", note)]) ∧
      (outlook.session? = none → opens = .null ∧ closes = .null) := by
  unfold scheduleJson
  cases hfound : outlook.session? with
  | none =>
    refine ⟨.null, .null, ?_, fun _ => ⟨rfl, rfl⟩⟩
    simp only [hclock]
    rfl
  | some session =>
    obtain ⟨hopens, hcloses⟩ := hsession session hfound
    obtain ⟨opens, hopens⟩ := Instant.exists_isoUtc_iff.mpr hopens
    obtain ⟨closes, hcloses⟩ := Instant.exists_isoUtc_iff.mpr hcloses
    refine ⟨.str opens, .str closes, ?_, fun h => by cases h⟩
    simp only [hopens, hcloses, hclock]
    rfl

/-- A schedule that is written has these members; the bounds are both texts or both missing. -/
theorem members_of_scheduleJson {market : Market} {note body : Json} {verdict : Verdict}
    (h : scheduleJson market note clock verdict outlook = .ok body) :
    ∃ now opens closes, body = .obj [
        ("mic", .str market.mic), ("name", .str market.name), ("timezone", .str market.timezone),
        ("queried_at", .str now), ("current_status", .str verdict.status.name),
        ("next_open", opens), ("next_close", closes), ("lunch_break", lunchJson market.lunch),
        ("note", note)] ∧
      ((opens = .null ∧ closes = .null) ∨ ∃ first last, opens = .str first ∧ closes = .str last) := by
  unfold scheduleJson at h
  split at h
  · obtain ⟨bounds, hbounds, h⟩ := bind_eq_ok_iff.mp h
    obtain rfl := pure_eq_ok_iff.mp hbounds
    obtain ⟨now, -, h⟩ := bind_eq_ok_iff.mp h
    exact ⟨now, .null, .null, (pure_eq_ok_iff.mp h).symm, .inl ⟨rfl, rfl⟩⟩
  · obtain ⟨first, -, h⟩ := bind_eq_ok_iff.mp h
    obtain ⟨last, -, h⟩ := bind_eq_ok_iff.mp h
    obtain ⟨bounds, hbounds, h⟩ := bind_eq_ok_iff.mp h
    obtain rfl := pure_eq_ok_iff.mp hbounds
    obtain ⟨now, -, h⟩ := bind_eq_ok_iff.mp h
    exact ⟨now, .str first, .str last, (pure_eq_ok_iff.mp h).symm, .inr ⟨first, last, rfl, rfl⟩⟩

end Service

end TradingStatus
