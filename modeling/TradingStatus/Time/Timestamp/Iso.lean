import TradingStatus.Powers
import TradingStatus.Time.Date.Iso
import TradingStatus.Time.Timestamp

/-! Timestamps as texts of the international standard. A date is a year, a year and a month, a full
date, a week with or without a day, or a year with a day counted within it; a full date may be
followed by any one character, a time of the day and an offset from UTC.

Hour 24 is the midnight that ends the day. A time may be cut short after any of its parts, and an
offset may follow at any such point, even at once. -/

namespace TradingStatus.Timestamp

/-- The number that the next `n` digits write, and what follows them. -/
def number? (n : Nat) (cs : List Char) : Option (Nat × List Char) :=
  if (cs.take n).length = n then (Text.asciiNat? (cs.take n)).map (·, cs.drop n) else none

/-- A year, a year and a month, or a year, a month and a day, at the front of a text. The short forms
have to be the whole of it. -/
def plainDate? (cs : List Char) : Option ((Nat × Nat × Nat) × List Char) := do
  match ← number? 4 cs with
  | (year, []) => return ((year, 1, 1), [])
  | (year, '-' :: rest) =>
    match ← number? 2 rest with
    | (month, []) => return ((year, month, 1), [])
    | (month, '-' :: rest) =>
      let (day, rest) ← number? 2 rest
      return ((year, month, day), rest)
    | _ => none
  | (year, rest) =>
    let (month, rest) ← number? 2 rest
    let (day, rest) ← number? 2 rest
    return ((year, month, day), rest)

/-- A week of a year from 1 to 53, without its day or with it, after the `W`. -/
def weekDay? (hyphens : Bool) (cs : List Char) : Option ((Nat × Nat) × List Char) := do
  let (week, rest) ← number? 2 cs
  match hyphens, rest with
  | _, [] => return ((week, 1), [])
  | true, '-' :: rest =>
    let (day, rest) ← number? 1 rest
    return ((week, day), rest)
  | true, _ => none
  | false, rest =>
    let (day, rest) ← number? 1 rest
    return ((week, day), rest)

/-- A week with its day, or a day counted within its year, at the front of a text. Weeks are counted
on past the year's end. -/
def countedDate (cs : List Char) : Except TextError (Date × List Char) :=
  match number? 4 cs with
  | none => .error .malformed
  | some (year, rest) =>
    let (hyphens, rest) := match rest with
      | '-' :: rest => (true, rest)
      | _ => (false, rest)
    match rest with
    | 'W' :: rest =>
      match weekDay? hyphens rest with
      | none => .error .malformed
      | some ((week, day), rest) =>
        if ¬(1 ≤ year ∧ 1 ≤ week ∧ week ≤ 53 ∧ 1 ≤ day ∧ day ≤ 7) then .error .malformed
        else
          match Date.ofDayNumber? (Date.firstMonday year + 7 * (week - 1) + (day - 1)) with
          | some date => .ok (date, rest)
          | none => .error .outOfRange
    | _ =>
      match number? 3 rest with
      | none => .error .malformed
      | some (day, rest) =>
        let days := if Date.isLeapYear year then 366 else 365
        if ¬(1 ≤ year ∧ 1 ≤ day ∧ day ≤ days) then .error .malformed
        else
          match Date.ofDayNumber? (Date.newYear year + (day - 1)) with
          | some date => .ok (date, rest)
          | none => .error .outOfRange

/-- The date at the front of a text. -/
def datePart (cs : List Char) : Except TextError (Date × List Char) :=
  match plainDate? cs with
  | none => countedDate cs
  | some ((year, month, day), rest) =>
    match Date.ofCivil year month day with
    | .ok date => .ok (date, rest)
    | .error _ => .error .malformed

/-- The offset that is all that is left of a text, or none if nothing is left. -/
def offsetPart? (cs : List Char) : Option (Option Int) :=
  let signed (sign : Char) (hours minutes : List Char) : Option (Option Int) := do
    let hours ← Text.asciiNat? hours
    let minutes ← Text.asciiNat? minutes
    if hours ≤ 23 ∧ minutes ≤ 59 then
      let seconds : Int := (hours * 60 + minutes) * 60
      match sign with
      | '+' => some (some seconds)
      | '-' => some (some (-seconds))
      | _ => none
    else none
  match cs with
  | [] => some none
  | ['Z'] | ['z'] => some (some 0)
  | [sign, a, b] => signed sign [a, b] ['0']
  | [sign, a, b, ':', c, d] => signed sign [a, b] [c, d]
  | [sign, a, b, c, d] => signed sign [a, b] [c, d]
  | _ => none

/-- A time of the day as it is written, with its offset. -/
structure TimeText where
  hour : Nat := 0
  minute : Nat := 0
  second : Nat := 0
  microsecond : Nat := 0
  offset : Option Int := none

/-- An offset starts here, or nothing is left. -/
def atOffset : List Char → Bool
  | [] => true
  | c :: _ => c == '+' || c == '-' || c == 'Z' || c == 'z'

/-- A time with the offset that is left. -/
def withOffset? (time : TimeText) (cs : List Char) : Option TimeText :=
  (offsetPart? cs).map fun offset => { time with offset }

/-- What follows the seconds: a fraction, of which six digits count, and the offset. -/
def fractionPart? (time : TimeText) (cs : List Char) : Option TimeText :=
  match cs with
  | c :: rest =>
    if c = '.' ∨ c = ',' then do
      let digits := (rest.takeWhile Char.isDigit).take 6
      let n ← Text.asciiNat? digits
      withOffset? { time with microsecond := n * tenTo (6 - digits.length) }
        (rest.dropWhile Char.isDigit)
    else withOffset? time cs
  | [] => some time

/-- A time of the day with its offset; with colons between its parts or none. -/
def timePart? (cs : List Char) : Option TimeText :=
  if cs.length < 2 then none
  else if atOffset cs then withOffset? {} cs
  else do
    let (hour, rest) ← number? 2 cs
    if atOffset rest then withOffset? { hour } rest
    else
      let (colons, rest) := match rest with
        | ':' :: rest => (true, rest)
        | _ => (false, rest)
      let (minute, rest) ← number? 2 rest
      if atOffset rest then withOffset? { hour, minute } rest
      else
        let rest ← match colons, rest with
          | true, ':' :: rest => some rest
          | true, _ => none
          | false, rest => some rest
        let (second, rest) ← number? 2 rest
        fractionPart? { hour, minute, second } rest

/-- The timestamp of a date and a time. -/
def ofParts (date : Date) (time : TimeText) : Except TextError Timestamp :=
  let rest := time.minute * 60000000 + time.second * 1000000 + time.microsecond
  if ¬(time.minute ≤ 59 ∧ time.second ≤ 59) then .error .malformed
  else if time.hour = 24 then
    if rest ≠ 0 then .error .malformed
    else
      match Reading.ofMicros? ((date.dayNumber + 1) * 86400000000) with
      | some reading => .ok ⟨reading, time.offset⟩
      | none => .error .outOfRange
  else if 24 < time.hour then .error .malformed
  else
    match Reading.ofMicros? (date.dayNumber * 86400000000 + (time.hour * 3600000000 + rest : Nat)) with
    | some reading => .ok ⟨reading, time.offset⟩
    | none => .error .malformed

/-- The timestamp that a text of ASCII characters writes. -/
def ofIsoChars (cs : List Char) : Except TextError Timestamp := do
  let (date, rest) ← datePart cs
  match rest with
  | [] => ofParts date {}
  | _ :: rest =>
    match timePart? rest with
    | some time => ofParts date time
    | none => .error .malformed

/-- The timestamp that a text writes. -/
def ofIso (s : String) : Except TextError Timestamp :=
  if s.toList.all fun c => c.toNat < 0x80 then ofIsoChars s.toList else .error .malformed

end TradingStatus.Timestamp
