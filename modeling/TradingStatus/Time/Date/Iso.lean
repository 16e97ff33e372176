import TradingStatus.Time.Date

/-! Dates as texts of the international standard: year, month and day, or year, week and day of the
week, with hyphens between all of them or none. Weeks start on Monday, and the first of a year is the
one with its first Thursday; a week without a day means its Monday.

The forms without hyphens take no notice of two more bytes. -/

namespace TradingStatus

/-- Why a text is no date. -/
inductive DateTextError
  /-- The text has another form, or its year has no such week. -/
  | malformed
  /-- The text has the form, but there is no such date. -/
  | noDate (error : DateError)
deriving DecidableEq

namespace Date

/-- The Monday of a year's first week. -/
def firstMonday (year : Int) : Int :=
  let start := newYear year
  let weekday := weekdayOf start
  if weekday ≤ 3 then start - weekday else start + 7 - weekday

/-- A year has 53 weeks when it starts on a Thursday, or, as a leap year, on a Wednesday. -/
def hasLongCalendar (year : Int) : Bool :=
  let weekday := weekdayOf (newYear year)
  weekday == 3 || (weekday == 2 && isLeapYear year)

/-- The date of a day of a week. -/
def ofWeek (year week day : Nat) : Except DateTextError Date :=
  let weeks := if year ≠ 0 ∧ hasLongCalendar year then 53 else 52
  if ¬(1 ≤ week ∧ week ≤ weeks ∧ 1 ≤ day ∧ day ≤ 7) then .error .malformed
  else if year = 0 then .error (.noDate .month)
  else
    match ofDayNumber? (firstMonday year + 7 * (week - 1) + (day - 1)) with
    | some d => .ok d
    | none => .error (.noDate (.year 10000))

/-- The date of a year, a month and a day of a text. -/
def ofNumbers (year month day : Nat) : Except DateTextError Date :=
  (ofCivil year month day).mapError .noDate

/-- Reads the part after the year; `hyphens` tells whether there are hyphens. -/
def ofIsoRest (hyphens : Bool) (year : Nat) (cs : List Char) : Except DateTextError Date :=
  let number (cs : List Char) (use : Nat → Except DateTextError Date) : Except DateTextError Date :=
    match Text.asciiNat? cs with
    | some n => use n
    | none => .error .malformed
  match hyphens, cs with
  | _, ['W', a, b] => number [a, b] fun week => ofWeek year week 1
  | true, ['W', a, b, '-', c] => number [a, b] fun week => number [c] fun day => ofWeek year week day
  | false, 'W' :: a :: b :: c :: _ =>
    number [a, b] fun week => number [c] fun day => ofWeek year week day
  | true, [a, b, '-', c, d] =>
    number [a, b] fun month => number [c, d] fun day => ofNumbers year month day
  | false, a :: b :: c :: d :: _ =>
    number [a, b] fun month => number [c, d] fun day => ofNumbers year month day
  | _, _ => .error .malformed

/-- The date that a text of seven, eight or ten bytes writes. -/
def ofIso (s : String) : Except DateTextError Date :=
  if s.utf8ByteSize ∉ [7, 8, 10] then .error .malformed
  else
    match s.toList with
    | a :: b :: c :: d :: rest =>
      match Text.asciiNat? [a, b, c, d] with
      | none => .error .malformed
      | some year =>
        match rest with
        | '-' :: rest => ofIsoRest true year rest
        | _ => ofIsoRest false year rest
    | _ => .error .malformed

end Date

end TradingStatus
