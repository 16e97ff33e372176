import TradingStatus.Proofs.Results
import TradingStatus.Time.WallClock

/-! What the clocks of a zone show at an instant, in numbers: which instants can be read at all
and what the reading counts. -/

namespace TradingStatus

namespace Instant

/-- An instant that a UTC clock can show: its year there is one of 1 to 9999. -/
def IsReadable (t : Instant) : Prop :=
  -719162 * 86400000000 ≤ t.micros ∧ t.micros < (2932896 + 1) * 86400000000

theorem le_iff {s t : Instant} : s ≤ t ↔ s.micros ≤ t.micros := Iff.rfl

end Instant

theorem Reading.ofMicros?_eq_some_iff {n : Int} {r : Reading} :
    Reading.ofMicros? n = some r ↔ r.micros = n := by
  unfold Reading.ofMicros?
  constructor
  · intro h
    split at h
    · cases h
      rfl
    · cases h
  · rintro rfl
    rw [dif_pos ⟨r.first_le, r.le_last⟩]

namespace Instant

theorem reading_eq_ok_iff {t : Instant} {r : Reading} :
    t.reading = .ok r ↔ r.micros = t.micros := by
  rw [← Reading.ofMicros?_eq_some_iff, Instant.reading]
  cases Reading.ofMicros? t.micros <;> simp

theorem exists_reading_iff {t : Instant} : (∃ r, t.reading = .ok r) ↔ t.IsReadable := by
  constructor
  · rintro ⟨r, hr⟩
    have hmicros := reading_eq_ok_iff.mp hr
    exact ⟨hmicros ▸ r.first_le, hmicros ▸ r.le_last⟩
  · intro ⟨hfirst, hlast⟩
    exact ⟨⟨t.micros, hfirst, hlast⟩, reading_eq_ok_iff.mpr rfl⟩

end Instant

/-- The instants that can be written are those that a UTC clock can show. -/
theorem Instant.exists_isoUtc_iff {t : Instant} : (∃ text, t.isoUtc = .ok text) ↔ t.IsReadable := by
  rw [← Instant.exists_reading_iff]
  simp only [Instant.isoUtc, bind_eq_ok_iff, pure_eq_ok_iff]
  constructor
  · rintro ⟨text, r, hr, -⟩
    exact ⟨r, hr⟩
  · rintro ⟨r, hr⟩
    exact ⟨_, r, hr, rfl⟩

theorem Timestamp.instant_eq_ok_iff {clock : Option Timestamp} {t : Instant} :
    instant clock = .ok t ↔ ∃ now, clock = some now ∧ now.instant? = some t := by
  unfold instant
  cases clock with
  | none => simp
  | some now => cases hnow : now.instant? <;> simp [hnow]

theorem Timestamp.isBefore_eq_ok {a b : Timestamp} {s t : Instant} (ha : a.instant? = some s)
    (hb : b.instant? = some t) : a.isBefore b = .ok (s < t : Bool) := by
  rw [isBefore, ha, hb]

theorem Timestamp.instant?_utc (r : Reading) : (utc r).instant? = some ⟨r.micros⟩ := by
  show some (Instant.mk (r.micros - 0 * 1000000)) = _
  rw [Int.zero_mul, Int.sub_zero]

theorem Timestamp.isoUtc_eq_ok {t : Timestamp} {r : Reading} (h : t.instant? = some ⟨r.micros⟩) :
    isoUtc (some t) = .ok r.isoUtc := by
  rw [isoUtc, instant_eq_ok_iff.mpr ⟨t, rfl, h⟩]
  show (do return (← Instant.reading ⟨r.micros⟩).isoUtc) = _
  rw [Instant.reading_eq_ok_iff.mpr (rfl : r.micros = _)]
  rfl

theorem Timestamp.addMicros_eq_ok_iff {rule : Rule} {t later : Timestamp} {micros : Int} :
    t.addMicros rule micros = .ok later ↔ ∃ reading, reading.micros = t.reading.micros + micros ∧
      later = ⟨reading, t.offset.map fun _ => rule t reading⟩ := by
  unfold addMicros
  constructor
  · intro h
    split at h
    · next reading hreading =>
      exact ⟨reading, Reading.ofMicros?_eq_some_iff.mp hreading, (Except.ok.inj h).symm⟩
    · cases h
  · rintro ⟨reading, hmicros, rfl⟩
    rw [Reading.ofMicros?_eq_some_iff.mpr hmicros]

/-- A clock is as far ahead of UTC as before when it comes to show some microseconds more. -/
def Timestamp.KeepsOffset (rule : Rule) (t : Timestamp) (micros : Int) : Prop :=
  ∀ later, t.addMicros rule micros = .ok later → later.offset = t.offset

theorem Timestamp.keepsOffset_fixed (t : Timestamp) (micros : Int) :
    t.KeepsOffset .fixed micros := by
  intro later h
  obtain ⟨reading, -, rfl⟩ := addMicros_eq_ok_iff.mp h
  cases h : t.offset <;> simp [Rule.fixed, h]

/-- A clock that keeps its offset shows as many microseconds more as have gone by. -/
theorem Timestamp.KeepsOffset.instant? {rule : Rule} {t later : Timestamp} {now : Instant}
    {micros : Int} (hkeeps : t.KeepsOffset rule micros) (h : t.addMicros rule micros = .ok later)
    (ht : t.instant? = some now) : later.instant? = some ⟨now.micros + micros⟩ := by
  have hoffset := hkeeps later h
  obtain ⟨reading, hmicros, rfl⟩ := addMicros_eq_ok_iff.mp h
  obtain ⟨offset, hknown, rfl⟩ := Option.map_eq_some_iff.mp ht
  simp only [hknown, Option.map_some, Option.some.injEq] at hoffset
  simp only [Timestamp.instant?, hknown, hoffset, hmicros, Option.map_some, Option.some.injEq,
    Instant.mk.injEq]
  omega

/-- A clock in New York, half a minute before it is put back: it comes to show a minute more when an
hour and a minute have gone by. -/
example :
    let shown : Reading := ⟨1793498370000000, by decide, by decide⟩
    let rule : Timestamp.Rule := fun _ reading =>
      if reading.micros < 1793498400000000 then -14400 else -18000
    (Timestamp.addMicros rule ⟨shown, some (-14400)⟩ 60000000).toOption.bind Timestamp.instant? =
      some ⟨1793512770000000 + 3660000000⟩ := by decide +kernel

theorem Timestamp.exists_isoUtc {clock : Timestamp} {t : Instant} (hclock : clock.instant? = some t)
    (ht : t.IsReadable) : ∃ text, isoUtc (some clock) = .ok text := by
  obtain ⟨text, htext⟩ := Instant.exists_isoUtc_iff.mpr ht
  refine ⟨text, ?_⟩
  rw [isoUtc, bind_eq_ok_iff]
  exact ⟨t, instant_eq_ok_iff.mpr ⟨clock, rfl, hclock⟩, htext⟩

namespace WallClock

@[simp] theorem micros_reading (w : WallClock) :
    w.reading.micros = w.date.dayNumber * 86400000000 + w.minute * 60000000 := by
  simp [reading, Reading.ofDate]

@[simp] theorem date_ofReading (r : Reading) : (ofReading r).date = r.date := rfl

@[simp] theorem minute_ofReading (r : Reading) : (ofReading r).minute = r.minuteOfDay := rfl

end WallClock

namespace Zone

/-- The clocks of a zone can be read at an instant when a UTC clock and they themselves can show it.
-/
theorem reading_eq_ok_iff {zone : Zone} {t : Instant} {r : Reading} :
    zone.reading t = .ok r ↔ t.IsReadable ∧ r.micros = t.micros + zone.shift t := by
  rw [reading, bind_eq_ok_iff, ← Instant.exists_reading_iff]
  simp only [Instant.reading_eq_ok_iff, exists_and_right]

theorem wallClock_eq_ok_iff {zone : Zone} {t : Instant} {w : WallClock} :
    zone.wallClock t = .ok w ↔ ∃ r, zone.reading t = .ok r ∧ WallClock.ofReading r = w := by
  simp only [wallClock, bind_eq_ok_iff, pure_eq_ok_iff]

/-- The instant that is found for a wall clock: the provisional one, less its own offset. -/
theorem instantOf_eq_ok {zone : Zone} {w : WallClock} {t : Instant} (h : zone.instantOf w = .ok t) :
    t.IsReadable ∧ t.micros = w.reading.micros - zone.shift ⟨w.reading.micros⟩ := by
  simp only [instantOf, bind_eq_ok_iff, pure_eq_ok_iff] at h
  obtain ⟨shown, hshown, read, hread, rfl⟩ := h
  refine ⟨Instant.exists_reading_iff.mp ⟨read, hread⟩, ?_⟩
  have := (reading_eq_ok_iff.mp hshown).2
  simp only at this ⊢
  omega

end Zone

end TradingStatus
