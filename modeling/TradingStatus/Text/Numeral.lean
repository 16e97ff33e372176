import TradingStatus.Text.Blank
import TradingStatus.Text.Digit

/-! Whole numbers written in the decimal digits of any script: blanks around them, a sign before
them and single underscores between their digits are allowed. -/

namespace TradingStatus.Text

/-- Why a text is no whole number. -/
inductive NumeralError
  /-- The text has another form. -/
  | malformed
  /-- The number has more digits than are converted. -/
  | tooLong (digits : Nat)
deriving DecidableEq

/-- The most digits that a numeral may have. -/
def numeralLimit : Nat := 4300

/-- A blank that may stand around a numeral: the four information separators may not. -/
def isNumeralBlank (c : Char) : Bool := isBlank c && !(0x1C ≤ c.toNat && c.toNat ≤ 0x1F)

/-- The digits of a run in which a single underscore may stand between two digits. -/
def separatedDigits? : List Char → Option (List Nat)
  | [] => none
  | [c] => (decimalDigit? c).map ([·])
  | c :: '_' :: rest => do return (← decimalDigit? c) :: (← separatedDigits? rest)
  | c :: rest => do return (← decimalDigit? c) :: (← separatedDigits? rest)

/-- The number with the given decimal digits, the highest first. -/
def ofDigits (digits : List Nat) : Nat := digits.foldl (fun n d => n * 10 + d) 0

/-- The whole number that a text writes. -/
def readInteger (s : String) : Except NumeralError Int := do
  let cs := s.toList.dropWhile isNumeralBlank
  let (negative, cs) := match cs with
    | '-' :: rest => (true, rest)
    | '+' :: rest => (false, rest)
    | _ => (false, cs)
  let inRun := fun c => c == '_' || (decimalDigit? c).isSome
  match separatedDigits? (cs.takeWhile inRun) with
  | none => throw .malformed
  | some digits =>
    if digits.length > numeralLimit then throw (.tooLong digits.length)
    else if ((cs.dropWhile inRun).dropWhile isNumeralBlank).isEmpty then
      let n : Int := ofDigits digits
      return if negative then -n else n
    else throw .malformed

end TradingStatus.Text
