import TradingStatus.Proofs.Schedule.Agreement
import TradingStatus.Proofs.Time.WallClocks

/-! Years whose holidays have not been looked at. Nothing is said of an instant of such a year on
the market's own wall clock, no session is found from it on, and no search for a session goes past a
day of such a year. -/

namespace TradingStatus

namespace Market

variable {market : Market} {now : Instant} {w : WallClock}

theorem verdictOn_of_not_covers (h : market.covers w.date.year = false) :
    market.verdictOn w = .unverified w.date.year := by
  unfold verdictOn
  rw [h]
  rfl

theorem verdictOn_of_covers (h : market.covers w.date.year = true) :
    market.verdictOn w = .opened ∨ market.verdictOn w = .closed := by
  unfold verdictOn
  rw [h]
  cases market.tradesOn w.date && market.inSession w with
  | true => exact .inl rfl
  | false => exact .inr rfl

/-- Nothing is known of an instant exactly when nothing is known of its year, and only then does the
schedule not answer for itself. -/
theorem unknown_of_verdictOn_iff : (market.verdictOn w).status = .unknown ∧
    (market.verdictOn w).source = .system ↔ market.covers w.date.year = false := by
  cases hcovers : market.covers w.date.year with
  | false =>
    rw [verdictOn_of_not_covers hcovers]
    exact iff_of_true ⟨rfl, rfl⟩ rfl
  | true =>
    rcases verdictOn_of_covers hcovers with h | h
    · rw [h]
      decide
    · rw [h]
      decide

/-- No session is looked for in a year of which nothing is known. -/
theorem outlook_of_not_covers {days : Nat} (hdays : 0 < days)
    (htoday : market.zone.wallClock now = .ok w) (h : market.covers w.date.year = false) :
    market.outlook days now = .ok (.unverified w.date.year) := by
  obtain ⟨days, rfl⟩ := Nat.exists_eq_add_of_lt hdays
  rw [outlook, htoday]
  show market.sessionWithin now (0 + days + 1) w.date.dayNumber = _
  rw [sessionWithin, Date.ofDayNumber?_dayNumber]
  simp only [h]
  rfl

/-- A session is found on a day up to which every year has been looked at. -/
theorem covers_of_finds {first : Int} {days : Nat} {session : Session}
    (h : market.Finds now first days (.session session)) :
    ∃ day : Date, first ≤ day.dayNumber ∧ market.tradesOn day = true ∧
      market.sessionOn day now = .ok (some session) ∧
      ∀ d : Date, first ≤ d.dayNumber → d ≤ day → market.covers d.year = true := by
  obtain ⟨day, hfirst, -, hpasses, hcovers, htrades, hsession⟩ := h
  refine ⟨day, hfirst, htrades, hsession, fun d hd hle => ?_⟩
  rcases Int.le_iff_lt_or_eq.mp hle with hlt | heq
  · exact (hpasses d hd hlt).1
  · rw [Date.ext heq]
    exact hcovers

end Market

end TradingStatus
