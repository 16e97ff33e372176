import TradingStatus.Text.UpperTable

/-! Upper-case texts: every character is replaced by its upper-case form, which may be several
characters. -/

namespace TradingStatus.Text

/-- The upper-case form of a character in a run, if it is one of them. -/
def UpperRun.upperOf? (r : UpperRun) (n : Nat) : Option Nat :=
  if r.first ≤ n ∧ n ≤ r.last ∧ (n - r.first) % r.step = 0 then some (r.upper + (n - r.first))
  else none

/-- The code points of the upper-case form of a code point. -/
def upperCodes (n : Nat) : List Nat :=
  match upperRuns.findSome? (·.upperOf? n) with
  | some u => [u]
  | none => (upperExpansions.lookup n).getD [n]

/-- The upper-case form of a character. -/
def upperChar (c : Char) : List Char := (upperCodes c.toNat).map Char.ofNat

/-- The upper-case form of a text. -/
def upper (s : String) : String := String.ofList (s.toList.flatMap upperChar)

end TradingStatus.Text
