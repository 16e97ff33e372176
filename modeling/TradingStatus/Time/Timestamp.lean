import TradingStatus.Failure
import TradingStatus.Time.Instant

/-! Timestamps: the reading of a clock with how far the clock is ahead of UTC. A clock without a known
offset gives a naive timestamp, which denotes no instant. Where a clock may show nothing at all, its
reading is an optional timestamp. -/

namespace TradingStatus

/-- The reading with seven numbers. The sizes of all of them are looked at first. -/
def Reading.ofCivil (year month day hour minute second microsecond : Int) : Except Failure Reading :=
  match Excess.first? [year, month, day, hour, minute, second, microsecond] with
  | some excess => .error (.date (.size excess))
  | none =>
    match Date.ofCivil year month day with
    | .error error => .error (.date error)
    | .ok date =>
      if _hour : ¬(0 ≤ hour ∧ hour ≤ 23) then .error .hour
      else if _minute : ¬(0 ≤ minute ∧ minute ≤ 59) then .error .minute
      else if _second : ¬(0 ≤ second ∧ second ≤ 59) then .error .second
      else if _micro : ¬(0 ≤ microsecond ∧ microsecond ≤ 999999) then .error .microsecond
      else
        let seconds := (hour.toNat * 60 + minute.toNat) * 60 + second.toNat
        .ok (Reading.ofDate date (seconds * 1000000 + microsecond.toNat) (by omega))

/-- What a clock shows, and the seconds that it is ahead of UTC, if that is known. -/
structure Timestamp where
  reading : Reading
  offset : Option Int
deriving DecidableEq, Inhabited

namespace Timestamp

/-- Why a text is no timestamp. -/
inductive TextError
  | malformed
  /-- The text is well formed, but what it denotes lies after the year 9999. -/
  | outOfRange
deriving DecidableEq

/-- The timestamp with seven numbers and an offset of less than a day either way. -/
def ofCivil (year month day hour minute second microsecond : Int) (offset : Option Int) :
    Except Failure Timestamp :=
  match offset.filter fun seconds => ¬(-86400 < seconds ∧ seconds < 86400) with
  | some seconds => .error (.offset seconds)
  | none => return ⟨← Reading.ofCivil year month day hour minute second microsecond, offset⟩

/-- The instant that a timestamp with an offset denotes. -/
def instant? (t : Timestamp) : Option Instant :=
  t.offset.map fun offset => ⟨t.reading.micros - offset * 1000000⟩

/-- A timestamp with an offset for certain: an unknown one is taken as none. -/
def assumeUtc (t : Timestamp) : Timestamp := { t with offset := some (t.offset.getD 0) }

/-- A reading in UTC. -/
def utc (reading : Reading) : Timestamp := ⟨reading, some 0⟩

/-- How clocks go on: the seconds that one with an offset is ahead of UTC when it comes to show
another reading. They may go by a time zone. -/
abbrev Rule := Timestamp → Reading → Int

/-- A clock with an offset keeps it. -/
def Rule.fixed : Rule := fun t _ => t.offset.getD 0

/-- The timestamp of the same clock when it shows some microseconds more. -/
def addMicros (rule : Rule) (t : Timestamp) (micros : Int) : Except Failure Timestamp :=
  match Reading.ofMicros? (t.reading.micros + micros) with
  | some reading => .ok ⟨reading, t.offset.map fun _ => rule t reading⟩
  | none => .error .outOfRange

/-- What a timestamp is compared by: the instant, or for two naive ones the reading. -/
def isBefore (a b : Timestamp) : Except Failure Bool :=
  match a.instant?, b.instant? with
  | some s, some t => .ok (s < t)
  | none, none => .ok (a.reading.micros < b.reading.micros)
  | _, _ => .error .mixedClocks

end Timestamp

/-- The reading of a UTC clock at an instant. -/
def Instant.reading (t : Instant) : Except Failure Reading :=
  match Reading.ofMicros? t.micros with
  | some reading => .ok reading
  | none => .error .outOfRange

/-- A reading in UTC with milliseconds, as texts for other programs show it. The year has as many
digits as it needs. -/
def Reading.isoUtc (r : Reading) : String :=
  toString r.date.year ++ "-" ++ Text.padded 2 r.date.month ++ "-" ++ Text.padded 2 r.date.day ++
    "T" ++ Text.padded 2 r.hour ++ ":" ++ Text.padded 2 r.minute ++ ":" ++ Text.padded 2 r.second ++
    "." ++ Text.padded 3 (r.microsecond / 1000) ++ "Z"

/-- An instant as text. -/
def Instant.isoUtc (t : Instant) : Except Failure String := return (← t.reading).isoUtc

namespace Timestamp

/-- The instant that a clock shows. -/
def instant : Option Timestamp → Except Failure Instant
  | none => .error .instantAbsent
  | some t =>
    match t.instant? with
    | some instant => .ok instant
    | none => .error .instantNaive

/-- What a clock shows, as text. -/
def isoUtc (clock : Option Timestamp) : Except Failure String := do
  (← instant clock).isoUtc

end Timestamp

end TradingStatus
