/-! Blank characters, and the trimming of texts: `trim` drops the blanks at both ends of a text and
touches nothing between them. -/

namespace TradingStatus.Text

/-- The blanks: tabs, line ends and the separators of files, groups, records and units, and the
spaces of every script that take up room. -/
def isBlank (c : Char) : Bool :=
  let n := c.toNat
  (0x09 ≤ n && n ≤ 0x0D) || (0x1C ≤ n && n ≤ 0x20) || n == 0x85 || n == 0xA0 || n == 0x1680 ||
    (0x2000 ≤ n && n ≤ 0x200A) || n == 0x2028 || n == 0x2029 || n == 0x202F || n == 0x205F ||
    n == 0x3000

/-- The blanks among the first 128 characters, the separators apart: the space, the tabs and the line
ends. -/
def isSpacing (c : Char) : Bool := c == ' ' || (0x09 ≤ c.toNat && c.toNat ≤ 0x0D)

/-- A text of characters without those that a test admits before its first and after its last other
character. -/
def trimWhere (p : Char → Bool) (cs : List Char) : List Char :=
  ((cs.dropWhile p).reverse.dropWhile p).reverse

/-- A text of characters without the blanks before its first and after its last other character. -/
def trimChars (cs : List Char) : List Char := trimWhere isBlank cs

/-- A text without the blanks at its ends. -/
def trim (s : String) : String := String.ofList (trimChars s.toList)

/-- A text is blank when it holds nothing but blanks. -/
def isBlankText (s : String) : Bool := s.toList.all isBlank

/-- Trimming leaves nothing exactly of the blank texts. -/
theorem trimChars_eq_nil_iff (cs : List Char) : trimChars cs = [] ↔ cs.all isBlank = true := by
  have all_of_dropWhile : ∀ xs : List Char, xs.dropWhile isBlank = [] ↔ xs.all isBlank = true := by
    intro xs
    induction xs with
    | nil => simp
    | cons x xs ih => by_cases h : isBlank x <;> simp [List.dropWhile, h, ih]
  constructor
  · intro h
    simp only [trimChars, trimWhere, List.reverse_eq_nil_iff, all_of_dropWhile, List.all_reverse] at h
    rw [← all_of_dropWhile]
    cases hd : cs.dropWhile isBlank with
    | nil => rfl
    | cons x xs =>
      have := List.head?_dropWhile_not isBlank cs
      simp_all
  · intro h
    simp [trimChars, trimWhere, (all_of_dropWhile cs).mpr h]

end TradingStatus.Text
