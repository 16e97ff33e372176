import TradingStatus.Time.Date

/-! Instants, exact to the microsecond, and the readings of clocks. A reading counts microseconds as
an instant does, but from 1970 on the clock that shows it; both are bounded by the years 1 to 9999
wherever they have to be written as dates. -/

namespace TradingStatus

/-- An instant, by the microseconds since 1970-01-01T00:00 UTC. -/
structure Instant where
  micros : Int
deriving DecidableEq, Inhabited

namespace Instant

instance : LE Instant := ⟨fun a b => a.micros ≤ b.micros⟩

instance : LT Instant := ⟨fun a b => a.micros < b.micros⟩

instance (a b : Instant) : Decidable (a ≤ b) := inferInstanceAs (Decidable (a.micros ≤ b.micros))

instance (a b : Instant) : Decidable (a < b) := inferInstanceAs (Decidable (a.micros < b.micros))

/-- The whole seconds of an instant. -/
def seconds (t : Instant) : Int := t.micros / 1000000

end Instant

/-- A date and a time of the day, as a clock shows them, in microseconds since 1970-01-01T00:00 on
that clock; its year is one of 1 to 9999. -/
structure Reading where
  micros : Int
  first_le : -719162 * 86400000000 ≤ micros
  le_last : micros < (2932896 + 1) * 86400000000
deriving DecidableEq

namespace Reading

instance : Inhabited Reading := ⟨⟨0, by decide, by decide⟩⟩

/-- The reading with a number of microseconds. -/
def ofMicros? (n : Int) : Option Reading :=
  if h : -719162 * 86400000000 ≤ n ∧ n < (2932896 + 1) * 86400000000 then some ⟨n, h.1, h.2⟩
  else none

/-- The day that is shown. -/
def date (r : Reading) : Date where
  dayNumber := r.micros / 86400000000
  first_le := by have := r.first_le; omega
  le_last := by have := r.le_last; omega

/-- The microseconds of the day that have passed. -/
def microOfDay (r : Reading) : Nat := (r.micros % 86400000000).toNat

/-- The minutes of the day that have passed. -/
def minuteOfDay (r : Reading) : Nat := r.microOfDay / 60000000

def hour (r : Reading) : Nat := r.minuteOfDay / 60

def minute (r : Reading) : Nat := r.minuteOfDay % 60

def second (r : Reading) : Nat := r.microOfDay / 1000000 % 60

def microsecond (r : Reading) : Nat := r.microOfDay % 1000000

/-- The reading of a day at a time of the day. -/
def ofDate (d : Date) (microOfDay : Nat) (h : microOfDay < 86400000000) : Reading where
  micros := d.dayNumber * 86400000000 + microOfDay
  first_le := by have := d.first_le; omega
  le_last := by have := d.le_last; omega

@[ext] theorem ext {a b : Reading} (h : a.micros = b.micros) : a = b := by
  cases a; cases b; simp_all

theorem microOfDay_lt (r : Reading) : r.microOfDay < 86400000000 := by
  unfold microOfDay; omega

theorem minuteOfDay_lt (r : Reading) : r.minuteOfDay < 1440 := by
  have := r.microOfDay_lt
  unfold minuteOfDay; omega

theorem ofDate_date (r : Reading) : ofDate r.date r.microOfDay r.microOfDay_lt = r := by
  ext
  simp only [ofDate, date, microOfDay]
  omega

end Reading

end TradingStatus
