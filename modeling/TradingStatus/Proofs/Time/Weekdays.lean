import TradingStatus.Proofs.Time.Offsets
import TradingStatus.Proofs.Time.WeekendChanges

/-! Minutes of weekdays in zones whose clocks change only at weekends: each is found, shown where it
is found, and shown nowhere else. Whether a zone that is written down is of this kind can be computed
when its rule is a fixed offset. -/

namespace TradingStatus

instance (s : Int) : Decidable (FallsOnWeekend s) :=
  inferInstanceAs (Decidable (5 ≤ Date.weekdayOf (s / 86400)))

/-- The reading at the start of a minute has no seconds. -/
theorem WallClock.eq_reading {w : WallClock} {r : Reading} (hdate : r.date = w.date)
    (hminute : r.minuteOfDay = w.minute) (hsecond : r.second = 0) (hmicro : r.microsecond = 0) :
    r = w.reading := by
  ext
  have hday : r.date.dayNumber = w.date.dayNumber := by rw [hdate]
  rw [micros_reading]
  simp only [Reading.date] at hday
  unfold Reading.second at hsecond
  unfold Reading.microsecond at hmicro
  unfold Reading.minuteOfDay at hminute
  unfold Reading.microOfDay at hsecond hmicro hminute
  omega

namespace Zone.ChangesAtWeekends

variable {zone : Zone} {s t : Instant} {wall : WallClock}

/-- The start of a minute of a weekday is shown at the instant that is found for it and never again.
-/
theorem eq_of_reading (h : zone.ChangesAtWeekends) (hday : wall.date.isWeekend = false)
    (ht : zone.instantOf wall = .ok t) (hs : zone.reading s = .ok wall.reading) : s = t := by
  have hreached : t ≤ s := (h.instantOf_le_iff hday ht hs).mpr (Int.le_refl _)
  obtain ⟨hshown, hrest⟩ := shownAt_of_reading (h.reading_instantOf hday ht)
  obtain ⟨hagain, hrestAgain⟩ := shownAt_of_reading hs
  have hsame : t.seconds = s.seconds := by
    rcases Int.lt_or_le t.seconds s.seconds with hlt | hge
    · -- Clocks that have shown the second show a later one by then.
      have hpast := h.lt_shownAt (not_fallsOnWeekend_wallClock hday) (Int.le_of_eq hshown) hlt
      rw [← hagain] at hpast
      exact absurd hpast (Int.lt_irrefl _)
    · have := Int.ediv_le_ediv (c := 1000000) (by decide) (Instant.le_iff.mp hreached)
      unfold Instant.seconds at hge ⊢
      omega
  unfold Instant.seconds at hsame
  have hmicros : s.micros = t.micros := by omega
  cases s
  cases t
  exact congrArg Instant.mk hmicros

/-- Let the clocks of a zone change only at weekends, and let a weekday be neither of the first two
dates nor of the last two. Then an instant is found for every minute of it, the clocks show that
minute there, and it is the only instant at which they show the start of it. -/
theorem weekday_minute_shown_once (h : zone.ChangesAtWeekends) {day : Date}
    (hday : day.isWeekend = false) (hfirst : -719160 ≤ day.dayNumber)
    (hlast : day.dayNumber < 2932894) {hour minute : Nat} (hhour : hour < 24)
    (hminute : minute < 60) :
    ∃ t w, zone.instantOf ⟨day, hour * 60 + minute, by omega⟩ = .ok t ∧ zone.wallClock t = .ok w ∧
      w.date = day ∧ w.minute / 60 = hour ∧ w.minute % 60 = minute ∧
      ∀ s, (∃ r, zone.reading s = .ok r ∧ r.date = day ∧ r.hour = hour ∧ r.minute = minute ∧
        r.second = 0 ∧ r.microsecond = 0) ↔ s = t := by
  generalize hwall : (⟨day, hour * 60 + minute, by omega⟩ : WallClock) = wall
  have hdate : wall.date = day := by rw [← hwall]
  have hof : wall.minute = hour * 60 + minute := by rw [← hwall]
  subst hdate
  obtain ⟨t, -, ht, -⟩ := exists_instantOf_of_days (w := wall) h.offset_lt hfirst hlast
  have hr := h.reading_instantOf hday ht
  have hw : zone.wallClock t = .ok wall :=
    wallClock_eq_ok_iff.mpr ⟨wall.reading, hr, wall.ofReading_reading⟩
  refine ⟨t, wall, ht, hw, rfl, by omega, by omega, fun s => ⟨?_, ?_⟩⟩
  · rintro ⟨r, hs, hdate, hhour, hminute, hsecond, hmicro⟩
    have hshown : r.minuteOfDay = wall.minute := by
      unfold Reading.hour at hhour
      unfold Reading.minute at hminute
      omega
    obtain rfl := WallClock.eq_reading hdate hshown hsecond hmicro
    exact h.eq_of_reading hday ht hs
  · rintro rfl
    have hmicros := wall.micros_reading
    have hlt := wall.minute_lt
    have hofDay : wall.reading.microOfDay = wall.minute * 60000000 := by
      unfold Reading.microOfDay
      omega
    refine ⟨wall.reading, hr, congrArg WallClock.date wall.ofReading_reading, ?_, ?_, ?_, ?_⟩
    · unfold Reading.hour Reading.minuteOfDay
      omega
    · unfold Reading.minute Reading.minuteOfDay
      omega
    · unfold Reading.second
      omega
    · unfold Reading.microsecond
      omega

end Zone.ChangesAtWeekends

namespace ZoneRecord

/-- The instants of a list of changes, each with the offset before it and the one from then on. -/
def turns (rule : ZoneRule) (offset : Int) : List (Int × Int) → List (Int × Int × Int)
  | [] => []
  | (change, next) :: rest => (change, offset, lookup rule change next rest) :: turns rule next rest

theorem mem_turns_of_ne {last s : Int} {changes : List (Int × Int)} {offset : Int}
    (h : lookup (.fixed last) (s - 1) offset changes ≠ lookup (.fixed last) s offset changes) :
    (s, lookup (.fixed last) (s - 1) offset changes, lookup (.fixed last) s offset changes) ∈
      turns (.fixed last) offset changes := by
  induction changes generalizing offset with
  | nil => exact absurd rfl h
  | cons entry rest ih =>
    obtain ⟨change, next⟩ := entry
    unfold lookup at h ⊢
    unfold turns
    by_cases hs : s < change
    · rw [if_pos hs, if_pos (by omega)] at h
      exact absurd rfl h
    · by_cases hbefore : s - 1 < change
      · obtain rfl : s = change := by omega
        rw [if_neg hs, if_pos hbefore]
        exact List.mem_cons_self
      · rw [if_neg hs, if_neg hbefore] at h ⊢
        exact List.mem_cons_of_mem _ (ih h)

/-- The clocks of a zone that is written down with a fixed offset as its rule change only at weekends
if all changes that are written down do. -/
theorem changesAtWeekends {record : ZoneRecord} {last : Int} (hrule : record.rule = .fixed last)
    (hoffsets : ∀ offset ∈ record.offsets, -86400 < offset ∧ offset < 86400)
    (hturns : ∀ turn ∈ turns record.rule record.first record.changes,
      FallsOnWeekend turn.1 ∧ FallsOnWeekend (turn.1 + turn.2.1) ∧
        FallsOnWeekend (turn.1 + turn.2.2)) : record.zone.ChangesAtWeekends where
  offset_lt s := hoffsets _ (record.offsetAt_mem s)
  change s h := by
    unfold zone at h ⊢
    rw [hrule] at h hturns ⊢
    exact hturns _ (mem_turns_of_ne h)

/-- Clocks that are eleven hours ahead of UTC in summer and ten in winter, and are changed at 16:00
UTC on a Saturday of April and one of October 2026. -/
def southern : ZoneRecord where
  first := 39600
  changes := [(1775318400, 36000), (1791043200, 39600)]
  rule := .fixed 39600

/-- The first minute of the Monday after the change in April is found at 14:00 UTC on Sunday. -/
theorem southern_shows_monday :
    southern.zone.ChangesAtWeekends ∧
      southern.zone.instantOf ⟨⟨20549, by decide, by decide⟩, 0 * 60 + 0, by decide⟩ =
        .ok ⟨1775397600000000⟩ ∧
      ∀ s, (∃ r, southern.zone.reading s = .ok r ∧ r.date = ⟨20549, by decide, by decide⟩ ∧
        r.hour = 0 ∧ r.minute = 0 ∧ r.second = 0 ∧ r.microsecond = 0) ↔ s = ⟨1775397600000000⟩ := by
  have hzone : southern.zone.ChangesAtWeekends :=
    @changesAtWeekends southern 39600 rfl (by decide) (by decide)
  have hfound : southern.zone.instantOf ⟨⟨20549, by decide, by decide⟩, 0 * 60 + 0, by decide⟩ =
      .ok ⟨1775397600000000⟩ :=
    toOption_eq_some_iff.mp (by decide +kernel)
  have hmonday : (⟨20549, by decide, by decide⟩ : Date).isWeekend = false := by decide
  obtain ⟨t, w, ht, -, -, -, -, honce⟩ := hzone.weekday_minute_shown_once hmonday (by decide)
    (by decide) (by decide : 0 < 24) (by decide : 0 < 60)
  obtain rfl := Except.ok.inj (hfound.symm.trans ht)
  exact ⟨hzone, hfound, honce⟩

end ZoneRecord

end TradingStatus
