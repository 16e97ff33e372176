import TradingStatus.Time.Timestamp

/-! Time zones. A zone says for every second how far its clocks are ahead of UTC; nothing else about
it counts. `ZoneRecord` is the written form of a zone: its changes so far and a rule for all time
after them. -/

namespace TradingStatus

/-- A time zone: the seconds that its clocks are ahead of UTC, for each second since 1970-01-01T00:00
UTC. -/
structure Zone where
  offsetAt : Int → Int

namespace Zone

/-- The offset at an instant, in microseconds. -/
def shift (zone : Zone) (t : Instant) : Int := zone.offsetAt t.seconds * 1000000

/-- What the clocks of a zone show. -/
def reading (zone : Zone) (t : Instant) : Except Failure Reading := do
  let _ ← t.reading
  Instant.reading ⟨t.micros + zone.shift t⟩

end Zone

/-- A day of every year on which clocks change: a day of the week, the first, second and so on of a
month or, as the fifth, the last, with Sunday as 0; and the seconds of the clock's own time from the
start of that day. -/
structure YearlyChange where
  month : Nat
  week : Nat
  weekday : Nat
  time : Int
deriving DecidableEq

/-- The clock's own time of the change in a year, in seconds. -/
def YearlyChange.inYear (change : YearlyChange) (year : Int) : Int :=
  let leap := Date.isLeapYear year
  let first := Date.newYear year + Date.daysBeforeMonth leap change.month
  let ahead := (change.weekday + 7 - (Date.weekdayOf first + 1) % 7) % 7
  let day := ahead + 7 * (change.week - 1)
  let day := if Date.monthLength leap change.month ≤ day then day - 7 else day
  (first + day) * 86400 + change.time

/-- The rule for the time after all recorded changes. -/
inductive ZoneRule
  | fixed (offset : Int)
  | seasonal (standard summer : Int) (start finish : YearlyChange)
deriving DecidableEq

/-- The offset that a rule gives. Summer time may span the turn of the year. -/
def ZoneRule.offsetAt : ZoneRule → Int → Int
  | fixed offset, _ => offset
  | seasonal standard summer start finish, t =>
    let year := Date.yearOf (t / 86400)
    let start := start.inYear year - standard
    let finish := finish.inYear year - summer
    let isSummer := if start < finish then start ≤ t && t < finish else start ≤ t || t < finish
    if isSummer then summer else standard

/-- The written form of a zone: the offset before its first change, the changes in order, each with
the offset from then on, and the rule from the last change on. -/
structure ZoneRecord where
  first : Int
  changes : List (Int × Int)
  rule : ZoneRule

/-- The offset in a list of changes, given the one before them. -/
def ZoneRecord.lookup (rule : ZoneRule) (t offset : Int) : List (Int × Int) → Int
  | [] => rule.offsetAt t
  | (change, next) :: rest => if t < change then offset else lookup rule t next rest

/-- The zone that is written down. -/
def ZoneRecord.zone (record : ZoneRecord) : Zone where
  offsetAt t := ZoneRecord.lookup record.rule t record.first record.changes

end TradingStatus
