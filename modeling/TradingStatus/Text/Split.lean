/-! Cutting a text into the parts between its separators. There is always one part more than there are
separators, and parts may be empty. -/

namespace TradingStatus.Text

/-- The parts of a text between the characters that separate them. -/
def splitChars (isSeparator : Char → Bool) : List Char → List (List Char)
  | [] => [[]]
  | c :: cs =>
    if isSeparator c then [] :: splitChars isSeparator cs
    else
      match splitChars isSeparator cs with
      | [] => [[c]]
      | part :: parts => (c :: part) :: parts

/-- The parts of a text between the characters that separate them. -/
def split (isSeparator : Char → Bool) (s : String) : List String :=
  (splitChars isSeparator s.toList).map String.ofList

theorem splitChars_ne_nil (isSeparator : Char → Bool) (cs : List Char) :
    splitChars isSeparator cs ≠ [] := by
  cases cs with
  | nil => simp [splitChars]
  | cons c cs =>
    unfold splitChars
    split
    · simp
    · split <;> simp

end TradingStatus.Text
