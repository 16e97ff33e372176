import TradingStatus.Failure

/-! Times of the day as texts: two digits, a colon and two digits, of any script. The text is kept as
it is given. -/

namespace TradingStatus

/-- The hour and the minute that a text writes. -/
def clockDigits? : List Char → Option (Nat × Nat)
  | [a, b, ':', c, d] => do
    let a ← Text.decimalDigit? a
    let b ← Text.decimalDigit? b
    let c ← Text.decimalDigit? c
    let d ← Text.decimalDigit? d
    return (a * 10 + b, c * 10 + d)
  | _ => none

/-- A time of the day with its text. -/
structure ClockTime where
  text : String
  hour : Nat
  minute : Nat
  written : clockDigits? text.toList = some (hour, minute)
  hour_le : hour ≤ 23
  minute_le : minute ≤ 59
deriving DecidableEq

namespace ClockTime

/-- The minutes of the day that have passed. -/
def minuteOfDay (c : ClockTime) : Nat := c.hour * 60 + c.minute

theorem minuteOfDay_lt (c : ClockTime) : c.minuteOfDay < 1440 := by
  have := c.hour_le
  have := c.minute_le
  unfold minuteOfDay
  omega

/-- The time that a text writes; `field` names it in what may go wrong. -/
def ofText (text field : String) : Except Failure ClockTime :=
  match h : clockDigits? text.toList with
  | none => .error (.clockForm field)
  | some (hour, minute) =>
    if hr : hour ≤ 23 ∧ minute ≤ 59 then .ok ⟨text, hour, minute, h, hr.1, hr.2⟩
    else .error (.clockRange field)

/-- The time of a value, which has to be a text. -/
def ofJson (value : Json) (field : String) : Except Failure ClockTime :=
  match value with
  | .str text => ofText text field
  | _ => .error (.notText field)

/-- The text of a time is read as that time. -/
theorem ofText_text (c : ClockTime) (field : String) : ofText c.text field = .ok c := by
  have hr : c.hour ≤ 23 ∧ c.minute ≤ 59 := ⟨c.hour_le, c.minute_le⟩
  unfold ofText
  split
  · next h => simp [c.written] at h
  · next hour minute h =>
    have : (c.hour, c.minute) = (hour, minute) := Option.some.inj (c.written.symm.trans h)
    cases this
    simp [hr]

end ClockTime

end TradingStatus
