import TradingStatus.Proofs.Time.Readings

/-! Zones whose clocks change only at weekends. Such clocks show every second of a weekday exactly
once, at the instant that `Zone.instantOf` finds from the offset hours away, and in the order in
which the seconds pass. -/

namespace TradingStatus

/-- A second, counted from 1970-01-01T00:00 on some clock, falls on a Saturday or Sunday. -/
def FallsOnWeekend (s : Int) : Prop := 5 ≤ Date.weekdayOf (s / 86400)

/-- A second that falls on no weekend has a Monday before it, and the five days from there on hold
no second of a weekend. -/
theorem exists_monday {w : Int} (hw : ¬FallsOnWeekend w) :
    ∃ monday, monday ≤ w ∧ w < monday + 432000 ∧
      ∀ x, FallsOnWeekend x → x < monday ∨ monday + 432000 ≤ x := by
  refine ⟨w - (w + 259200) % 604800, ?_, ?_, ?_⟩
  · omega
  · unfold FallsOnWeekend Date.weekdayOf at hw
    omega
  · intro x hx
    unfold FallsOnWeekend Date.weekdayOf at hw hx
    omega

namespace Zone

/-- The second that the clocks of a zone show, counted from 1970-01-01T00:00 on them. -/
def shownAt (zone : Zone) (s : Int) : Int := s + zone.offsetAt s

/-- The clocks of a zone change only at weekends: the instant of every change falls on a Saturday or
Sunday in UTC, on the clocks as they were, and on the clocks as they are from then on. No clock is a
day ahead of UTC or behind it. -/
structure ChangesAtWeekends (zone : Zone) : Prop where
  offset_lt : ∀ s, -86400 < zone.offsetAt s ∧ zone.offsetAt s < 86400
  change : ∀ s, zone.offsetAt (s - 1) ≠ zone.offsetAt s →
    FallsOnWeekend s ∧ FallsOnWeekend (s + zone.offsetAt (s - 1)) ∧
      FallsOnWeekend (s + zone.offsetAt s)

namespace ChangesAtWeekends

variable {zone : Zone} {w : Int}

/-- The offset does not change between a second of a weekday read in UTC and, ahead of UTC, the
instant at which the clocks show it. -/
theorem offsetAt_sub (h : zone.ChangesAtWeekends) (hw : ¬FallsOnWeekend w) (k : Nat)
    (hk : (k : Int) ≤ zone.offsetAt w) : zone.offsetAt (w - k) = zone.offsetAt w := by
  obtain ⟨monday, hge, hlt, hweekend⟩ := exists_monday hw
  have hday := (h.offset_lt w).2
  induction k with
  | zero => simp
  | succ k ih =>
    have hprev : zone.offsetAt (w - k) = zone.offsetAt w := ih (by omega)
    by_cases hsame : zone.offsetAt (w - k - 1) = zone.offsetAt (w - k)
    · rw [show w - (k + 1 : Nat) = w - k - 1 by omega, hsame, hprev]
    · obtain ⟨hutc, -, hnew⟩ := h.change (w - k) hsame
      rw [hprev] at hnew
      -- The change would lie before the Monday, and on the new clocks after the Friday.
      have := hweekend _ hutc
      have := hweekend _ hnew
      omega

theorem offsetAt_add (h : zone.ChangesAtWeekends) (hw : ¬FallsOnWeekend w) (k : Nat)
    (hk : (k : Int) ≤ -zone.offsetAt w) : zone.offsetAt (w + k) = zone.offsetAt w := by
  obtain ⟨monday, hge, hlt, hweekend⟩ := exists_monday hw
  have hday := (h.offset_lt w).1
  induction k with
  | zero => simp
  | succ k ih =>
    have hprev : zone.offsetAt (w + k) = zone.offsetAt w := ih (by omega)
    by_cases hsame : zone.offsetAt (w + (k + 1 : Nat) - 1) = zone.offsetAt (w + (k + 1 : Nat))
    · rw [← hsame, show w + (k + 1 : Nat) - 1 = w + k by omega, hprev]
    · obtain ⟨hutc, hold, -⟩ := h.change _ hsame
      rw [show w + (k + 1 : Nat) - 1 = w + k by omega, hprev] at hold
      -- The change would lie after the Friday, and on the old clocks before the Monday.
      have := hweekend _ hutc
      have := hweekend _ hold
      omega

/-- The offset that is read hours away is the one at the instant that it leads to. -/
theorem offsetAt_shown (h : zone.ChangesAtWeekends) (hw : ¬FallsOnWeekend w) :
    zone.offsetAt (w - zone.offsetAt w) = zone.offsetAt w := by
  rcases Int.le_total 0 (zone.offsetAt w) with hahead | hbehind
  · have := h.offsetAt_sub hw (zone.offsetAt w).toNat (by omega)
    rwa [Int.toNat_of_nonneg hahead] at this
  · have := h.offsetAt_add hw (-zone.offsetAt w).toNat (by omega)
    rwa [Int.toNat_of_nonneg (by omega), ← Int.sub_eq_add_neg] at this

theorem lt_shownAt_succ (h : zone.ChangesAtWeekends) (hw : ¬FallsOnWeekend w) {s : Int}
    (hs : w ≤ zone.shownAt s) : w < zone.shownAt (s + 1) := by
  obtain ⟨monday, hge, hlt, hweekend⟩ := exists_monday hw
  unfold shownAt at hs ⊢
  by_cases hsame : zone.offsetAt (s + 1 - 1) = zone.offsetAt (s + 1)
  · rw [← hsame, Int.add_sub_cancel]
    omega
  · -- A change from here on reads as the weekend after, on the old clocks, on the new ones, in UTC.
    obtain ⟨hutc, hold, hnew⟩ := h.change _ hsame
    rw [Int.add_sub_cancel] at hold
    have := h.offset_lt s
    have := h.offset_lt (s + 1)
    have := hweekend _ hutc
    have := hweekend _ hold
    have := hweekend _ hnew
    omega

/-- Clocks that have reached a second of a weekday stay past it. -/
theorem lt_shownAt (h : zone.ChangesAtWeekends) (hw : ¬FallsOnWeekend w) {s t : Int}
    (hs : w ≤ zone.shownAt s) (hst : s < t) : w < zone.shownAt t := by
  obtain ⟨n, rfl⟩ : ∃ n : Nat, t = s + 1 + n := ⟨(t - s - 1).toNat, by omega⟩
  induction n with
  | zero => simpa using h.lt_shownAt_succ hw hs
  | succ n ih =>
    have := h.lt_shownAt_succ hw (Int.le_of_lt (ih (by omega)))
    rwa [show s + 1 + ((n + 1 : Nat) : Int) = s + 1 + n + 1 by omega]

/-- The clocks show a second of a weekday at the instant that its own offset leads to, nothing as
late before it, and only later seconds after it. -/
theorem le_shownAt_iff (h : zone.ChangesAtWeekends) (hw : ¬FallsOnWeekend w) {s : Int} :
    w ≤ zone.shownAt s ↔ w - zone.offsetAt w ≤ s := by
  have hshown : zone.shownAt (w - zone.offsetAt w) = w := by
    rw [shownAt, h.offsetAt_shown hw]
    omega
  constructor
  · intro hs
    refine Int.not_lt.mp fun hlt => ?_
    have := h.lt_shownAt hw hs hlt
    omega
  · intro hs
    rcases Int.le_iff_lt_or_eq.mp hs with hlt | rfl
    · exact Int.le_of_lt (h.lt_shownAt hw (Int.le_of_eq hshown.symm) hlt)
    · exact Int.le_of_eq hshown.symm

/-! Readings and wall clocks -/

variable {s t : Instant} {wall : WallClock} {r : Reading}

theorem shownAt_of_reading (hr : zone.reading t = .ok r) :
    r.micros / 1000000 = zone.shownAt t.seconds ∧ r.micros % 1000000 = t.micros % 1000000 := by
  rw [(reading_eq_ok_iff.mp hr).2, shift, shownAt, Instant.seconds]
  omega

theorem not_fallsOnWeekend (hday : r.date.isWeekend = false) :
    ¬FallsOnWeekend (r.micros / 1000000) := by
  unfold FallsOnWeekend
  rw [Int.ediv_ediv_of_nonneg (by decide)]
  exact of_decide_eq_false hday

theorem not_fallsOnWeekend_wallClock (hday : wall.date.isWeekend = false) :
    ¬FallsOnWeekend (wall.reading.micros / 1000000) := by
  have hdate : wall.reading.date = wall.date := congrArg WallClock.date wall.ofReading_reading
  exact not_fallsOnWeekend (hdate ▸ hday)

theorem seconds_of_instantOf (ht : zone.instantOf wall = .ok t) :
    t.micros = (wall.reading.micros / 1000000 -
      zone.offsetAt (wall.reading.micros / 1000000)) * 1000000 := by
  rw [(instantOf_eq_ok ht).2, shift, Instant.seconds]
  simp only [WallClock.micros_reading]
  omega

/-- The instant that is found for a wall clock on a weekday is where it is reached. -/
theorem instantOf_le_iff (h : zone.ChangesAtWeekends) (hday : wall.date.isWeekend = false)
    (hs : zone.instantOf wall = .ok s) (hr : zone.reading t = .ok r) :
    s ≤ t ↔ wall.reading.micros ≤ r.micros := by
  have hreached := h.le_shownAt_iff (not_fallsOnWeekend_wallClock hday) (s := t.seconds)
  rw [← (shownAt_of_reading hr).1] at hreached
  rw [Instant.le_iff, seconds_of_instantOf hs]
  simp only [WallClock.micros_reading, Instant.seconds] at hreached ⊢
  omega

/-- The instant that is found for a wall clock on a weekday is one at which it is shown. -/
theorem reading_instantOf (h : zone.ChangesAtWeekends) (hday : wall.date.isWeekend = false)
    (hs : zone.instantOf wall = .ok s) : zone.reading s = .ok wall.reading := by
  have hshown := h.offsetAt_shown (not_fallsOnWeekend_wallClock hday)
  refine reading_eq_ok_iff.mpr ⟨(instantOf_eq_ok hs).1, ?_⟩
  have hmicros := seconds_of_instantOf hs
  rw [shift, Instant.seconds, hmicros, Int.mul_ediv_cancel _ (by decide), hshown]
  simp only [WallClock.micros_reading]
  omega

/-- What the clocks show on a weekday is not passed before it is shown. -/
theorem reading_mono (h : zone.ChangesAtWeekends) {rs rt : Reading} (hrs : zone.reading s = .ok rs)
    (hrt : zone.reading t = .ok rt) (hday : rt.date.isWeekend = false) (hst : s ≤ t) :
    rs.micros ≤ rt.micros := by
  obtain ⟨hs, hsub⟩ := shownAt_of_reading hrs
  obtain ⟨ht, htub⟩ := shownAt_of_reading hrt
  have hpast := h.lt_shownAt (not_fallsOnWeekend hday) (s := s.seconds) (t := t.seconds)
  rw [← hs, ← ht] at hpast
  rcases Int.lt_or_le s.seconds t.seconds with hlt | hge
  · have := fun hle => hpast hle hlt
    omega
  · have hsame : s.seconds = t.seconds := by
      rw [Instant.le_iff] at hst
      unfold Instant.seconds at hge ⊢
      omega
    rw [hsame] at hs
    rw [Instant.le_iff] at hst
    unfold Instant.seconds at hsame
    omega

/-- Clocks that can be read once do not fall behind the first second that can be shown, which is one
of a Monday. -/
theorem first_le_shownAt (h : zone.ChangesAtWeekends) (hr : zone.reading s = .ok r) (hst : s ≤ t) :
    -719162 * 86400 ≤ zone.shownAt t.seconds := by
  have hmonday : ¬FallsOnWeekend (-719162 * 86400) := by
    unfold FallsOnWeekend
    decide
  have hs : -719162 * 86400 ≤ zone.shownAt s.seconds := by
    have := r.first_le
    have := (shownAt_of_reading hr).1
    omega
  have hle : s.seconds ≤ t.seconds := Int.ediv_le_ediv (by decide) hst
  rcases Int.le_iff_lt_or_eq.mp hle with hlt | heq
  · exact Int.le_of_lt (h.lt_shownAt hmonday hs hlt)
  · rwa [← heq]

theorem shown_le_of_le (h : zone.ChangesAtWeekends) (hday : wall.date.isWeekend = false)
    (hs : zone.instantOf wall = .ok s) (hts : t ≤ s) :
    t.micros + zone.shift t ≤ wall.reading.micros := by
  have hreading := h.reading_instantOf hday hs
  have hpast := h.lt_shownAt (not_fallsOnWeekend_wallClock hday) (s := t.seconds) (t := s.seconds)
  rw [← (shownAt_of_reading hreading).1] at hpast
  have hmicros := (reading_eq_ok_iff.mp hreading).2
  rw [Instant.le_iff] at hts
  rcases Int.lt_or_le t.seconds s.seconds with hlt | hge
  · have hbehind : zone.shownAt t.seconds < wall.reading.micros / 1000000 :=
      Int.not_le.mp fun hle => Int.lt_irrefl _ (hpast hle hlt)
    unfold shownAt Instant.seconds at hbehind
    unfold shift Instant.seconds
    omega
  · have hsame : t.seconds = s.seconds := by
      unfold Instant.seconds at hge ⊢
      omega
    rw [shift, hsame, hmicros, shift]
    omega

/-- Between an instant at which the clocks can be read and one that is found for a wall clock on a
weekday, they can be read as well, and have not passed that wall clock. -/
theorem exists_reading (h : zone.ChangesAtWeekends) {last : Instant} {rs : Reading}
    (hrs : zone.reading s = .ok rs) (hday : wall.date.isWeekend = false)
    (hlast : zone.instantOf wall = .ok last) (hst : s ≤ t) (htl : t ≤ last) :
    ∃ r, zone.reading t = .ok r ∧ r.micros ≤ wall.reading.micros := by
  obtain ⟨hsread, hsmicros⟩ := reading_eq_ok_iff.mp hrs
  obtain ⟨hlread, -⟩ := reading_eq_ok_iff.mp (h.reading_instantOf hday hlast)
  have hread : t.IsReadable := ⟨Int.le_trans hsread.1 hst, Int.lt_of_le_of_lt htl hlread.2⟩
  have hlow := h.first_le_shownAt hrs hst
  have hhigh := h.shown_le_of_le hday hlast htl
  have hend := wall.reading.le_last
  refine ⟨⟨t.micros + zone.shift t, ?_, by omega⟩, reading_eq_ok_iff.mpr ⟨hread, rfl⟩, hhigh⟩
  unfold shownAt Instant.seconds at hlow
  unfold shift Instant.seconds
  omega

end ChangesAtWeekends

end Zone

end TradingStatus
