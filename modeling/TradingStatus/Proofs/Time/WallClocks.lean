import Mathlib.Logic.Basic
import TradingStatus.Proofs.Time.Readings
import TradingStatus.Time.Zone.Americas

/-! The instant that is found for a wall clock, and what the clocks of the zone show at it. The offset
is read once, at the instant at which a UTC clock shows the wall clock, so the clocks of the zone
show it at the instant that is found exactly when they are as far ahead of UTC there, to the minute.
-/

namespace TradingStatus

theorem Date.bounds_of_year {d : Date} (hfirst : 2 ≤ d.year) (hlast : d.year ≤ 9998) :
    -718797 ≤ d.dayNumber ∧ d.dayNumber < 2932532 := by
  obtain ⟨hstart, hend⟩ := newYear_yearOf d.dayNumber
  simp only [newYear] at hstart hend
  unfold year at hfirst hlast
  omega

/-- What a clock shows in the years 2 to 9998 is two days away from the first and the last date. -/
theorem Timestamp.micros_of_year {clock : Timestamp} {t : Instant}
    (hclock : clock.instant? = some t)
    (hoffset : ∀ offset ∈ clock.offset, -86400 < offset ∧ offset < 86400)
    (hfirst : 2 ≤ clock.reading.date.year) (hlast : clock.reading.date.year ≤ 9998) :
    -718798 * 86400000000 ≤ t.micros ∧ t.micros < 2932533 * 86400000000 := by
  have hdays := Date.bounds_of_year hfirst hlast
  obtain ⟨offset, hahead, rfl⟩ := Option.map_eq_some_iff.mp hclock
  have hbounds := hoffset offset hahead
  simp only [Reading.date] at hdays
  simp only
  omega

/-- Every clock that is less than a day ahead of UTC or behind it can show an instant. -/
def Instant.IsShownEverywhere (t : Instant) : Prop :=
  ∀ offset : Int, -86400 < offset → offset < 86400 →
    Instant.IsReadable ⟨t.micros + offset * 1000000⟩

/-- What a clock shows in the years 2 to 9998 is shown everywhere. -/
theorem Timestamp.isShownEverywhere_of_year {clock : Timestamp} {t : Instant}
    (hclock : clock.instant? = some t)
    (hoffset : ∀ offset ∈ clock.offset, -86400 < offset ∧ offset < 86400)
    (hfirst : 2 ≤ clock.reading.date.year) (hlast : clock.reading.date.year ≤ 9998) :
    t.IsShownEverywhere := by
  have hmicros := micros_of_year hclock hoffset hfirst hlast
  intro other hlow hhigh
  constructor <;> simp only <;> omega

theorem Instant.IsShownEverywhere.isReadable {t : Instant} (h : t.IsShownEverywhere) :
    t.IsReadable := by
  have hutc := h 0 (by decide) (by decide)
  simpa using hutc

/-- The instant at which a UTC clock shows a wall clock. -/
def WallClock.inUtc (w : WallClock) : Instant := ⟨w.reading.micros⟩

/-- A reading shows a wall clock from the start of its minute on, and before the next one. -/
theorem WallClock.ofReading_eq_iff {r : Reading} {w : WallClock} :
    ofReading r = w ↔
      w.reading.micros ≤ r.micros ∧ r.micros < w.reading.micros + 60000000 := by
  rw [micros_reading]
  constructor
  · rintro rfl
    simp only [ofReading, Reading.date, Reading.minuteOfDay, Reading.microOfDay]
    omega
  · intro hbetween
    have hlt := w.minute_lt
    have hdate : r.date = w.date := by
      refine Date.ext ?_
      simp only [Reading.date]
      omega
    have hminute : r.minuteOfDay = w.minute := by
      simp only [Reading.minuteOfDay, Reading.microOfDay]
      omega
    simp only [ofReading, hdate, hminute]

namespace Zone

variable {zone : Zone} {w : WallClock} {t : Instant}

theorem exists_reading (hutc : t.IsReadable)
    (hlocal : Instant.IsReadable ⟨t.micros + zone.shift t⟩) :
    ∃ r, zone.reading t = .ok r ∧ r.micros = t.micros + zone.shift t :=
  ⟨⟨t.micros + zone.shift t, hlocal.1, hlocal.2⟩, reading_eq_ok_iff.mpr ⟨hutc, rfl⟩, rfl⟩

theorem exists_wallClock (hoffset : ∀ s, -86400 < zone.offsetAt s ∧ zone.offsetAt s < 86400)
    (h : t.IsShownEverywhere) : ∃ w, zone.wallClock t = .ok w := by
  obtain ⟨hlow, hhigh⟩ := hoffset t.seconds
  obtain ⟨r, hr, -⟩ := exists_reading h.isReadable (h _ hlow hhigh)
  exact ⟨.ofReading r, wallClock_eq_ok_iff.mpr ⟨r, hr, rfl⟩⟩

theorem instantOf_eq_ok_of_readable {shown : Reading} (hshown : zone.reading w.inUtc = .ok shown)
    (ht : Instant.IsReadable ⟨w.reading.micros - zone.shift w.inUtc⟩) :
    zone.instantOf w = .ok ⟨w.reading.micros - zone.shift w.inUtc⟩ := by
  have hmicros : shown.micros = w.reading.micros + zone.shift w.inUtc :=
    (reading_eq_ok_iff.mp hshown).2
  have hresult : w.reading.micros + (w.reading.micros - shown.micros) =
      w.reading.micros - zone.shift w.inUtc := by
    omega
  obtain ⟨read, hread⟩ := Instant.exists_reading_iff.mpr ht
  have hshown : zone.reading ⟨w.reading.micros⟩ = .ok shown := hshown
  simp only [instantOf, bind_eq_ok_iff, pure_eq_ok_iff]
  exact ⟨shown, hshown, read, by rw [hresult]; exact hread, by rw [hresult]⟩

/-- Two days away from the first and the last day, an instant is found for every wall clock, and the
clocks can be read at it. What they show there is off by as much as their offset differs from the one
that was read. -/
theorem exists_instantOf_of_days
    (hoffset : ∀ s, -86400 < zone.offsetAt s ∧ zone.offsetAt s < 86400)
    (hfirst : -719160 ≤ w.date.dayNumber) (hlast : w.date.dayNumber < 2932894) :
    ∃ t r, zone.instantOf w = .ok t ∧ zone.reading t = .ok r ∧
      r.micros = w.reading.micros + (zone.shift t - zone.shift w.inUtc) := by
  have hlt := w.minute_lt
  have hmicros := w.micros_reading
  have hshift (t : Instant) : -86400000000 < zone.shift t ∧ zone.shift t < 86400000000 := by
    have := hoffset t.seconds
    unfold shift
    omega
  have hreadable {n : Int} (hlow : w.reading.micros - 172800000000 ≤ n)
      (hhigh : n ≤ w.reading.micros + 172800000000) : Instant.IsReadable ⟨n⟩ := by
    constructor <;> simp only <;> omega
  have hutc := hshift w.inUtc
  have hprovisional : w.inUtc.micros = w.reading.micros := rfl
  obtain ⟨shown, hshown, -⟩ : ∃ shown, zone.reading w.inUtc = .ok shown ∧
      shown.micros = w.inUtc.micros + zone.shift w.inUtc :=
    exists_reading (hreadable (by omega) (by omega)) (hreadable (by omega) (by omega))
  have ht := instantOf_eq_ok_of_readable hshown (hreadable (by omega) (by omega))
  generalize hfound : (⟨w.reading.micros - zone.shift w.inUtc⟩ : Instant) = t at ht
  have hfound : t.micros = w.reading.micros - zone.shift w.inUtc := by rw [← hfound]
  have hthere := hshift t
  obtain ⟨r, hr, hrmicros⟩ : ∃ r, zone.reading t = .ok r ∧ r.micros = t.micros + zone.shift t :=
    exists_reading (hreadable (by omega) (by omega)) (hreadable (by omega) (by omega))
  exact ⟨t, r, ht, hr, by omega⟩

theorem exists_instantOf (hoffset : ∀ s, -86400 < zone.offsetAt s ∧ zone.offsetAt s < 86400)
    (hfirst : 2 ≤ w.date.year) (hlast : w.date.year ≤ 9998) :
    ∃ t r, zone.instantOf w = .ok t ∧ zone.reading t = .ok r ∧
      r.micros = w.reading.micros + (zone.shift t - zone.shift w.inUtc) := by
  have hdays := Date.bounds_of_year hfirst hlast
  exact exists_instantOf_of_days hoffset (by omega) (by omega)

/-- Let the clocks of a zone be less than a day ahead of UTC or behind it, and a wall clock be none of
the first or the last year. Then an instant is found for it, and the clocks of the zone can be read
there. They show that wall clock exactly when they are as far ahead of UTC at the instant as at the
one at which a UTC clock shows it, or further by less than a minute. -/
theorem instantOf_shows_iff (hoffset : ∀ s, -86400 < zone.offsetAt s ∧ zone.offsetAt s < 86400)
    (hfirst : 2 ≤ w.date.year) (hlast : w.date.year ≤ 9998) :
    ∃ t shown, zone.instantOf w = .ok t ∧ zone.wallClock t = .ok shown ∧
      (shown = w ↔ zone.offsetAt w.inUtc.seconds ≤ zone.offsetAt t.seconds ∧
        zone.offsetAt t.seconds < zone.offsetAt w.inUtc.seconds + 60) := by
  obtain ⟨t, r, ht, hr, hmicros⟩ := exists_instantOf hoffset hfirst hlast
  refine ⟨t, .ofReading r, ht, wallClock_eq_ok_iff.mpr ⟨r, hr, rfl⟩, ?_⟩
  rw [WallClock.ofReading_eq_iff, hmicros]
  unfold shift
  omega

end Zone

/-! New York on 8 March 2026, when the clocks are put forward at 02:00 -/

def WallClock.halfPastThree : WallClock := ⟨⟨20520, by decide, by decide⟩, 210, by decide⟩

def WallClock.noon : WallClock := ⟨⟨20520, by decide, by decide⟩, 720, by decide⟩

theorem ZoneRule.offsetAt_seasonal (standard summer : Int) (start finish : YearlyChange) (t : Int) :
    (seasonal standard summer start finish).offsetAt t = summer ∨
      (seasonal standard summer start finish).offsetAt t = standard :=
  ite_eq_or_eq _ _ _

namespace ZoneRecord

/-- What holds of every offset that is written down holds of the offset at any time. -/
theorem lookup_of_forall {P : Int → Prop} {rule : ZoneRule} (hrule : ∀ t, P (rule.offsetAt t))
    {changes : List (Int × Int)} (hchanges : ∀ change ∈ changes, P change.2) {offset : Int}
    (hoffset : P offset) (t : Int) : P (lookup rule t offset changes) := by
  induction changes generalizing offset with
  | nil => exact hrule t
  | cons change rest ih =>
    unfold lookup
    split
    · exact hoffset
    · exact ih (fun c hc => hchanges c (List.mem_cons_of_mem _ hc))
        (hchanges change List.mem_cons_self)

theorem offsetAt_newYork (s : Int) :
    -86400 < newYork.zone.offsetAt s ∧ newYork.zone.offsetAt s < 86400 := by
  refine lookup_of_forall (P := fun offset => -86400 < offset ∧ offset < 86400) (fun t => ?_)
    (by decide +kernel) (by decide) s
  rcases ZoneRule.offsetAt_seasonal (-18000) (-14400) ⟨3, 2, 0, 7200⟩ ⟨11, 1, 0, 7200⟩ t with h | h
  all_goals
    rw [newYork, h]
    decide

/-- At noon the change is past in UTC as well, and the instant that is found is the right one. -/
theorem newYork_shows_noon :
    (∀ s, -86400 < newYork.zone.offsetAt s ∧ newYork.zone.offsetAt s < 86400) ∧
      2 ≤ WallClock.noon.date.year ∧ WallClock.noon.date.year ≤ 9998 ∧
      newYork.zone.instantOf .noon = .ok ⟨1772985600000000⟩ ∧
      newYork.zone.wallClock ⟨1772985600000000⟩ = .ok .noon := by
  have hfirst : 2 ≤ WallClock.noon.date.year := by decide
  have hlast : WallClock.noon.date.year ≤ 9998 := by decide
  have hfound : newYork.zone.instantOf .noon = .ok ⟨1772985600000000⟩ :=
    toOption_eq_some_iff.mp (by decide +kernel)
  obtain ⟨t, shown, ht, hshown, hiff⟩ := Zone.instantOf_shows_iff offsetAt_newYork hfirst hlast
  obtain rfl := Except.ok.inj (hfound.symm.trans ht)
  obtain rfl := hiff.mpr (by decide +kernel)
  exact ⟨offsetAt_newYork, hfirst, hlast, hfound, hshown⟩

/-- Half past three is shown at 07:30 UTC, but the clocks are not yet put forward at 03:30 UTC, and
08:30 UTC is found, when half past four is shown. -/
theorem newYork_misses_halfPastThree :
    newYork.zone.wallClock ⟨1772955000000000⟩ = .ok .halfPastThree ∧
      newYork.zone.instantOf .halfPastThree = .ok ⟨1772958600000000⟩ ∧
      newYork.zone.wallClock ⟨1772958600000000⟩ ≠ .ok .halfPastThree := by
  refine ⟨toOption_eq_some_iff.mp (by decide +kernel), toOption_eq_some_iff.mp (by decide +kernel),
    fun h => ?_⟩
  have hshown := toOption_eq_some_iff.mpr h
  revert hshown
  decide +kernel

end ZoneRecord

end TradingStatus
