import TradingStatus.Proofs.Results
import TradingStatus.Schedule.Session

/-! The walk over days that looks for a session: what each of its answers says about the days that
it went past and about the day at which it ended, and what a day's session is made of. -/

namespace TradingStatus

theorem Date.ofDayNumber?_eq_some_iff {n : Int} {day : Date} :
    Date.ofDayNumber? n = some day ↔ day.dayNumber = n := by
  unfold Date.ofDayNumber?
  constructor
  · intro h
    split at h
    · cases h
      rfl
    · cases h
  · rintro rfl
    rw [dif_pos ⟨day.first_le, day.le_last⟩]

theorem Outlook.session?_eq_some_iff {outlook : Outlook} {session : Session} :
    outlook.session? = some session ↔ outlook = .session session := by
  cases outlook <;> simp [Outlook.session?]

namespace Market

variable {market : Market} {now : Instant}

/-- A day is gone past: its year has been looked at, and if the market trades on it, its session is
over. -/
def Passes (market : Market) (now : Instant) (day : Date) : Prop :=
  market.covers day.year = true ∧
    (market.tradesOn day = true → market.sessionOn day now = .ok none)

/-- What is found on some days from a day number on, all days before it being gone past. -/
def Finds (market : Market) (now : Instant) (first : Int) (days : Nat) : Outlook → Prop
  | .session session => ∃ day : Date, first ≤ day.dayNumber ∧ day.dayNumber < first + days ∧
      (∀ d : Date, first ≤ d.dayNumber → d < day → market.Passes now d) ∧
      market.covers day.year = true ∧ market.tradesOn day = true ∧
      market.sessionOn day now = .ok (some session)
  | .unverified year => ∃ day : Date, first ≤ day.dayNumber ∧ day.dayNumber < first + days ∧
      (∀ d : Date, first ≤ d.dayNumber → d < day → market.Passes now d) ∧
      market.covers day.year = false ∧ day.year = year
  | .nothing =>
    ∀ d : Date, first ≤ d.dayNumber → d.dayNumber < first + days → market.Passes now d

/-- What is found after a day that is gone past is found from that day on. -/
theorem Finds.cons {day : Date} {days : Nat} {outlook : Outlook} (hday : market.Passes now day)
    (h : market.Finds now (day.dayNumber + 1) days outlook) :
    market.Finds now day.dayNumber (days + 1) outlook := by
  -- A day from here on is this one or a later one.
  have passes {P : Date → Prop} (later : ∀ d : Date, day.dayNumber + 1 ≤ d.dayNumber → P d →
      market.Passes now d) (d : Date) (hd : day.dayNumber ≤ d.dayNumber) (hP : P d) :
      market.Passes now d := by
    rcases Int.le_iff_lt_or_eq.mp hd with hlt | heq
    · exact later d hlt hP
    · rwa [← Date.ext heq]
  cases outlook with
  | session session =>
    obtain ⟨last, hfirst, hlast, hpasses, hsession⟩ := h
    exact ⟨last, by omega, by omega, passes hpasses, hsession⟩
  | unverified year =>
    obtain ⟨last, hfirst, hlast, hpasses, hyear⟩ := h
    exact ⟨last, by omega, by omega, passes hpasses, hyear⟩
  | nothing =>
    intro d hfirst hlast
    exact passes (P := fun d => d.dayNumber < day.dayNumber + 1 + days) h d hfirst (by omega)

/-- The walk answers what it finds. -/
theorem finds_of_sessionWithin {days : Nat} {first : Int} {outlook : Outlook}
    (h : market.sessionWithin now days first = .ok outlook) :
    market.Finds now first days outlook := by
  induction days generalizing first with
  | zero =>
    cases h
    intro d hfirst hlast
    omega
  | succ days ih =>
    unfold sessionWithin at h
    split at h
    · cases h
    · rename_i day hday
      obtain rfl := Date.ofDayNumber?_eq_some_iff.mp hday
      -- No day lies between the first one and itself.
      have none (d : Date) (hfirst : day.dayNumber ≤ d.dayNumber) (hlast : d < day) :
          market.Passes now d := absurd hfirst (Int.not_le.mpr hlast)
      split at h
      · rename_i hcovers
        cases h
        exact ⟨day, by omega, by omega, none, by simpa using hcovers, rfl⟩
      · rename_i hcovers
        have hcovers : market.covers day.year = true := by simpa using hcovers
        split at h
        · rename_i htrades
          refine Finds.cons ⟨hcovers, fun h => ?_⟩ (ih h)
          simp [h] at htrades
        · rename_i htrades
          split at h
          · cases h
          · rename_i session hsession
            cases h
            exact ⟨day, by omega, by omega, none, hcovers, by simpa using htrades, hsession⟩
          · rename_i hsession
            exact Finds.cons ⟨hcovers, fun _ => hsession⟩ (ih h)

/-- A session that is over has closed by then. -/
theorem closes_of_sessionOn_none {day : Date} (h : market.sessionOn day now = .ok none) :
    ∃ closes, market.instantOn day (market.closingOn day) = .ok closes ∧ closes ≤ now := by
  simp only [sessionOn, bind_eq_ok_iff] at h
  obtain ⟨opens, -, closes, hcloses, h⟩ := h
  refine ⟨closes, hcloses, ?_⟩
  split at h
  · assumption
  · split at h
    · cases h
    · split at h
      · cases h
      · simp only [bind_eq_ok_iff] at h
        obtain ⟨_, _, _, _, h⟩ := h
        split at h <;> cases h

/-- What is left of a session: it closes at the closing of its day, and opens with it, at the end of
the lunch break that goes on, or at once. -/
theorem bounds_of_sessionOn_some {day : Date} {session : Session}
    (h : market.sessionOn day now = .ok (some session)) :
    ∃ opens, market.instantOn day market.hours.opening = .ok opens ∧
      market.instantOn day (market.closingOn day) = .ok session.closes ∧ now < session.closes ∧
      (now < opens ∧ session.opens = opens ∨
        opens ≤ now ∧ (session.opens = now ∨
          ∃ lunch start, market.lunchOn day = some lunch ∧
            market.instantOn day lunch.opening = .ok start ∧
            market.instantOn day lunch.closing = .ok session.opens ∧
            start ≤ now ∧ now < session.opens)) := by
  simp only [sessionOn, bind_eq_ok_iff] at h
  obtain ⟨opens, hopens, closes, hcloses, h⟩ := h
  refine ⟨opens, hopens, ?_⟩
  split at h
  · cases h
  · rename_i hlate
    have hlate : now < closes := Int.not_le.mp hlate
    split at h
    · rename_i hearly
      cases h
      exact ⟨hcloses, hlate, .inl ⟨hearly, rfl⟩⟩
    · rename_i hearly
      have hearly : opens ≤ now := Int.not_lt.mp hearly
      split at h
      · cases h
        exact ⟨hcloses, hlate, .inr ⟨hearly, .inl rfl⟩⟩
      · rename_i lunch hlunch
        simp only [bind_eq_ok_iff] at h
        obtain ⟨start, hstart, finish, hfinish, h⟩ := h
        split at h
        · rename_i hwithin
          cases h
          exact ⟨hcloses, hlate,
            .inr ⟨hearly, .inr ⟨lunch, start, hlunch, hstart, hfinish, hwithin⟩⟩⟩
        · cases h
          exact ⟨hcloses, hlate, .inr ⟨hearly, .inl rfl⟩⟩

end Market

end TradingStatus
