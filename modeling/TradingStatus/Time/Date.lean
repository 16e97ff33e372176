import TradingStatus.Powers
import TradingStatus.Text.Digit

/-! Dates of the years 1 to 9999, held as the number of days since 1970-01-01. Years, months and days
of the month are read off that number; `ofCivil` goes the other way. -/

namespace TradingStatus

/-- A day of the years 1 to 9999, by the days since 1970-01-01. -/
structure Date where
  dayNumber : Int
  first_le : -719162 ≤ dayNumber
  le_last : dayNumber ≤ 2932896
deriving DecidableEq

/-- Why a number is too far from zero to be a part of any date: it takes more than 64 bits, or more than
32 on one side. -/
inductive Excess
  | word
  | above
  | below
deriving DecidableEq

/-- Why three numbers are no date, in the order in which they are looked at. -/
inductive DateError
  | size (excess : Excess)
  | year (value : Int)
  | month
  | day
deriving DecidableEq

namespace Excess

/-- Why a number is too far from zero, if it is. -/
def ofNumber? (n : Int) : Option Excess :=
  if n < -twoTo 63 ∨ twoTo 63 ≤ n then some .word
  else if twoTo 31 ≤ n then some .above
  else if n < -twoTo 31 then some .below
  else none

/-- Why the first of some numbers that is too far from zero is so, if there is one. -/
def first? (numbers : List Int) : Option Excess := numbers.findSome? ofNumber?

end Excess

namespace Date

instance : Inhabited Date := ⟨⟨0, by decide, by decide⟩⟩

instance : LE Date := ⟨fun a b => a.dayNumber ≤ b.dayNumber⟩

instance : LT Date := ⟨fun a b => a.dayNumber < b.dayNumber⟩

instance (a b : Date) : Decidable (a ≤ b) := inferInstanceAs (Decidable (a.dayNumber ≤ b.dayNumber))

instance (a b : Date) : Decidable (a < b) := inferInstanceAs (Decidable (a.dayNumber < b.dayNumber))

/-- The date of a day number. -/
def ofDayNumber? (n : Int) : Option Date :=
  if h : -719162 ≤ n ∧ n ≤ 2932896 then some ⟨n, h.1, h.2⟩ else none

/-- A year that has a 29th of February. -/
def isLeapYear (year : Int) : Bool := year % 4 == 0 && (year % 100 != 0 || year % 400 == 0)

/-- The day number of a year's first day. -/
def newYear (year : Int) : Int :=
  let past := year - 1
  365 * past + past / 4 - past / 100 + past / 400 - 719162

/-- The year that a day number lies in: the one that years of average length give, or a neighbour. -/
def yearOf (n : Int) : Int :=
  let guess := (n + 719162) * 400 / 146097 + 1
  if n < newYear guess then guess - 1
  else if newYear (guess + 1) ≤ n then guess + 1
  else guess

/-- The lengths of a year's months. -/
def monthLengths (leap : Bool) : List Nat :=
  [31, if leap then 29 else 28, 31, 30, 31, 30, 31, 31, 30, 31, 30, 31]

/-- The month, counted from `month`, and the day of the month of a day counted from zero. -/
def splitMonths (month : Nat) : List Nat → Nat → Nat × Nat
  | [], n => (month, n + 1)
  | length :: rest, n =>
    if n < length then (month, n + 1) else splitMonths (month + 1) rest (n - length)

/-- The year of a date. -/
def year (d : Date) : Int := yearOf d.dayNumber

/-- The days of the year before a date. -/
def dayOfYear (d : Date) : Nat := (d.dayNumber - newYear d.year).toNat

/-- The month and the day of the month of a date. -/
def monthDay (d : Date) : Nat × Nat := splitMonths 1 (monthLengths (isLeapYear d.year)) d.dayOfYear

def month (d : Date) : Nat := d.monthDay.1

def day (d : Date) : Nat := d.monthDay.2

/-- The day of the week, Monday being 0. -/
def weekdayOf (n : Int) : Nat := ((n + 3) % 7).toNat

def weekday (d : Date) : Nat := weekdayOf d.dayNumber

/-- Saturday or Sunday. -/
def isWeekend (d : Date) : Bool := 5 ≤ d.weekday

/-- The days of a year before a month. -/
def daysBeforeMonth (leap : Bool) (month : Nat) : Nat :=
  ((monthLengths leap).take (month - 1)).foldl (· + ·) 0

/-- The length of a month. -/
def monthLength (leap : Bool) (month : Nat) : Nat := (monthLengths leap)[month - 1]?.getD 0

/-- The date with a year, a month and a day. The sizes of all three are looked at first. -/
def ofCivil (year month day : Int) : Except DateError Date :=
  match Excess.first? [year, month, day] with
  | some excess => .error (.size excess)
  | none =>
    if ¬(1 ≤ year ∧ year ≤ 9999) then .error (.year year)
    else if ¬(1 ≤ month ∧ month ≤ 12) then .error .month
    else
      let leap := isLeapYear year
      if ¬(1 ≤ day ∧ day ≤ monthLength leap month.toNat) then .error .day
      else
        match ofDayNumber? (newYear year + daysBeforeMonth leap month.toNat + day - 1) with
        | some d => .ok d
        | none => .error .day

/-- A date as year, month and day with hyphens between them. -/
def isoText (d : Date) : String :=
  Text.padded 4 d.year.toNat ++ "-" ++ Text.padded 2 d.month ++ "-" ++ Text.padded 2 d.day

@[ext] theorem ext {a b : Date} (h : a.dayNumber = b.dayNumber) : a = b := by
  cases a; cases b; simp_all

theorem ofDayNumber?_dayNumber (d : Date) : ofDayNumber? d.dayNumber = some d := by
  simp [ofDayNumber?, d.first_le, d.le_last]

/-- A year starts on its first day and ends before the next one starts. -/
theorem newYear_yearOf (n : Int) : newYear (yearOf n) ≤ n ∧ n < newYear (yearOf n + 1) := by
  unfold yearOf newYear
  simp only
  split
  · omega
  · split <;> omega

end Date

end TradingStatus
