import TradingStatus.Proofs.Time.CivilDates
import TradingStatus.Proofs.Time.Readings
import TradingStatus.Time.Timestamp.Iso

/-! Texts of moments after the last day. The weeks of the year 9999 may be counted past its end, and
the midnight that ends its last day is on the day after; no other text has the form of a timestamp
and lies after the calendar. -/

namespace TradingStatus

/-- Friday, 31 December 9999. -/
def Date.last : Date := ⟨2932896, by decide, by decide⟩

namespace Date

theorem ofDayNumber?_eq_none_iff {n : Int} :
    ofDayNumber? n = none ↔ n < -719162 ∨ 2932896 < n := by
  unfold ofDayNumber?
  split <;> simp only [reduceCtorEq, false_iff, true_iff] <;> omega

/-- The first week of a year starts within three days of the year itself. -/
theorem firstMonday_bounds (year : Int) :
    newYear year - 3 ≤ firstMonday year ∧ firstMonday year ≤ newYear year + 3 := by
  unfold firstMonday
  have hweekday : weekdayOf (newYear year) < 7 := by
    unfold weekdayOf
    omega
  simp only
  split <;> omega

/-- Days that are counted in weeks lie after the last one from Saturday of the last week of 9999. -/
theorem ofDayNumber?_week_eq_none_iff {year week day : Nat} (hyear : 1 ≤ year ∧ year ≤ 9999)
    (hweek : 1 ≤ week ∧ week ≤ 53) (hday : 1 ≤ day ∧ day ≤ 7) :
    ofDayNumber? (firstMonday year + 7 * (week - 1) + (day - 1)) = none ↔
      year = 9999 ∧ (week = 53 ∨ week = 52 ∧ 6 ≤ day) := by
  rw [ofDayNumber?_eq_none_iff]
  by_cases hlast : year = 9999
  · subst hlast
    have hmonday : firstMonday (9999 : Nat) = 2932535 := by decide
    omega
  · by_cases hfirst : year = 1
    · subst hfirst
      have hmonday : firstMonday (1 : Nat) = -719162 := by decide
      omega
    · have hbounds := firstMonday_bounds year
      have hnewYear : -719162 + 365 ≤ newYear year ∧ newYear year ≤ 2932532 - 365 := by
        simp only [newYear]
        omega
      omega

/-- No day counted within its year lies after the last one. -/
theorem ofDayNumber?_dayOfYear {year day : Nat} (hyear : 1 ≤ year ∧ year ≤ 9999)
    (hday : 1 ≤ day ∧ day ≤ if isLeapYear year then 366 else 365) :
    ofDayNumber? (newYear year + (day - 1)) ≠ none := by
  have hlast : isLeapYear (9999 : Nat) = false := by decide
  rw [Ne, ofDayNumber?_eq_none_iff]
  by_cases h : year = 9999
  · subst h
    rw [hlast] at hday
    simp only [newYear, Bool.false_eq_true, if_false] at hday ⊢
    omega
  · have hlong : (if isLeapYear year then 366 else 365) ≤ 366 := by split <;> omega
    simp only [newYear]
    omega

end Date

namespace Timestamp

variable {cs rest : List Char} {date : Date} {time : TimeText}

theorem number?_lt {n width : Nat} (h : number? width cs = some (n, rest)) : n < tenTo width := by
  unfold number? at h
  split at h
  · next hlength =>
    obtain ⟨m, hm, heq⟩ := Option.map_eq_some_iff.mp h
    obtain ⟨rfl, -⟩ := Prod.mk.inj heq
    exact hlength ▸ Text.asciiNat?_lt hm
  · cases h

/-- A letter is no digit, so that no number begins with it. -/
theorem number?_week (rest : List Char) : number? 2 ('W' :: rest) = none := by
  cases rest with
  | nil => rfl
  | cons c rest =>
    have hnone : Text.asciiNat? ['W', c] = none := rfl
    simp [number?, hnone]

/-- A day after the last one is written at the front of a text: a Saturday or a Sunday of week 52 of
the year 9999, or a day of the week after that. -/
def WritesLaterWeek (cs : List Char) : Prop :=
  ∃ hyphens week day rest left,
    number? 4 cs = some (9999, (if hyphens then ['-'] else []) ++ 'W' :: rest) ∧
    weekDay? hyphens rest = some ((week, day), left) ∧ 1 ≤ day ∧ day ≤ 7 ∧
    (week = 53 ∨ week = 52 ∧ 6 ≤ day)

theorem WritesLaterWeek.datePart_eq (h : WritesLaterWeek cs) :
    datePart cs = .error .outOfRange := by
  obtain ⟨hyphens, week, day, rest, left, hyear, hweekDay, hfirst, hlast, hpast⟩ := h
  have hnone : Date.ofDayNumber? (Date.firstMonday 9999 + 7 * (week - 1) + (day - 1)) = none :=
    (Date.ofDayNumber?_week_eq_none_iff (by decide) (by omega) ⟨hfirst, hlast⟩).mpr ⟨rfl, hpast⟩
  have hplain : plainDate? cs = none := by
    cases hyphens <;> simp [plainDate?, hyear, number?_week]
  have hcounted : countedDate cs = .error .outOfRange := by
    have hform : 1 ≤ week ∧ week ≤ 53 := by omega
    cases hyphens <;> simp [countedDate, hyear, hweekDay, hform, hfirst, hlast, hnone]
  rw [datePart, hplain]
  exact hcounted

theorem writesLaterWeek_of_countedDate (h : countedDate cs = .error .outOfRange) :
    WritesLaterWeek cs := by
  unfold countedDate at h
  split at h
  · cases h
  · next year rest hyear =>
    have hlt : year < 10000 := number?_lt hyear
    split at h
    next hyphens after hafter =>
    have hrest : rest = (if hyphens then ['-'] else []) ++ after := by
      split at hafter <;> obtain ⟨rfl, rfl⟩ := Prod.mk.inj hafter <;> rfl
    split at h
    · split at h
      · cases h
      · next week day left hweekDay =>
        split at h
        · cases h
        · split at h
          · cases h
          · next hform _ hnone =>
            have hform := not_not.mp hform
            obtain ⟨rfl, hpast⟩ := (Date.ofDayNumber?_week_eq_none_iff (by omega) (by omega)
              (by omega)).mp hnone
            exact ⟨hyphens, week, day, _, left, by rw [hyear, hrest], hweekDay, by omega, by omega,
              hpast⟩
    · split at h
      · cases h
      · next day left _ =>
        generalize hdays : (if Date.isLeapYear year then 366 else 365) = days at h
        simp only at h
        split at h
        · cases h
        · split at h
          · cases h
          · next hform _ hnone =>
            have hform := not_not.mp hform
            subst hdays
            exact absurd hnone (Date.ofDayNumber?_dayOfYear ⟨hform.1, by omega⟩ hform.2)

theorem datePart_eq_outOfRange_iff : datePart cs = .error .outOfRange ↔ WritesLaterWeek cs := by
  refine ⟨fun h => ?_, WritesLaterWeek.datePart_eq⟩
  unfold datePart at h
  split at h
  · exact writesLaterWeek_of_countedDate h
  · split at h <;> cases h

/-- A time is the midnight that ends the day. -/
structure TimeText.IsMidnight (time : TimeText) : Prop where
  hour : time.hour = 24
  minute : time.minute = 0
  second : time.second = 0
  microsecond : time.microsecond = 0

theorem ofParts_eq_outOfRange_iff :
    ofParts date time = .error .outOfRange ↔ date = .last ∧ time.IsMidnight := by
  have hlast : (Reading.ofMicros? ((date.dayNumber + 1) * 86400000000) = none) ↔ date = .last := by
    have hle := date.le_last
    have hfirst := date.first_le
    unfold Reading.ofMicros?
    rw [dite_eq_right_iff, Date.ext_iff]
    show _ ↔ date.dayNumber = 2932896
    constructor
    · intro h
      by_contra hne
      cases h ⟨by omega, by omega⟩
    · intro h hrange
      omega
  constructor
  · intro h
    unfold ofParts at h
    simp only at h
    split at h
    · cases h
    · split at h
      · next hhour =>
        split at h
        · cases h
        · split at h
          · cases h
          · next hzero _ hnone =>
            exact ⟨hlast.mp hnone, hhour, by omega, by omega, by omega⟩
      · split at h
        · cases h
        · split at h <;> cases h
  · rintro ⟨hdate, hhour, hminute, hsecond, hmicrosecond⟩
    simp [ofParts, hhour, hminute, hsecond, hmicrosecond, hlast.mpr hdate]

/-- A text writes a moment after the last day: a day of a later week, or the midnight that ends the
last day. -/
inductive WritesLater (cs : List Char) : Prop
  | week (h : WritesLaterWeek cs)
  | midnight {c : Char} {rest : List Char} {time : TimeText}
      (hdate : datePart cs = .ok (.last, c :: rest)) (htime : timePart? rest = some time)
      (hmidnight : time.IsMidnight)

theorem ofIsoChars_eq_outOfRange_iff : ofIsoChars cs = .error .outOfRange ↔ WritesLater cs := by
  unfold ofIsoChars
  constructor
  · intro h
    cases hdate : datePart cs with
    | error error =>
      rw [hdate] at h
      obtain rfl := Except.error.inj h
      exact .week (datePart_eq_outOfRange_iff.mp hdate)
    | ok found =>
      obtain ⟨date, rest⟩ := found
      rw [hdate] at h
      cases rest with
      | nil =>
        simp only [bind, Except.bind] at h
        cases (ofParts_eq_outOfRange_iff.mp h).2.hour
      | cons c rest =>
        simp only [bind, Except.bind] at h
        split at h
        · next time htime =>
          obtain ⟨rfl, hmidnight⟩ := ofParts_eq_outOfRange_iff.mp h
          exact .midnight hdate htime hmidnight
        · cases h
  · rintro (hweek | ⟨hdate, htime, hmidnight⟩)
    · rw [hweek.datePart_eq]
      rfl
    · simp only [hdate, htime, bind, Except.bind]
      exact ofParts_eq_outOfRange_iff.mpr ⟨rfl, hmidnight⟩

/-- The texts that are in form, but lie after the year 9999. -/
theorem ofIso_eq_outOfRange_iff {text : String} : ofIso text = .error .outOfRange ↔
    (∀ c ∈ text.toList, c.toNat < 0x80) ∧ WritesLater text.toList := by
  have hascii : (text.toList.all fun c => c.toNat < 0x80) = true ↔
      ∀ c ∈ text.toList, c.toNat < 0x80 := by
    simp only [List.all_eq_true, decide_eq_true_eq]
  unfold ofIso
  split
  · next h => rw [ofIsoChars_eq_outOfRange_iff, and_iff_right (hascii.mp h)]
  · next h => exact iff_of_false nofun fun hlater => h (hascii.mpr hlater.1)

end Timestamp

end TradingStatus
