import TradingStatus.Proofs.Text.Numerals
import TradingStatus.Time.Date.Iso

/-! What a date shows of itself: a year of four digits, a month of that year and a day of that
month. They make the date again, and so does the text that they are written in. -/

namespace TradingStatus

theorem Excess.first?_eq_none {numbers : List Int} (h : ∀ n ∈ numbers, 0 ≤ n ∧ n < 10000) :
    first? numbers = none := by
  have hword : twoTo 63 = 9223372036854775808 := by decide +kernel
  have habove : twoTo 31 = 2147483648 := by decide +kernel
  refine List.findSome?_eq_none_iff.mpr fun n hn => ?_
  obtain ⟨hpos, hlt⟩ := h n hn
  rw [ofNumber?, hword, habove, if_neg (by omega), if_neg (by omega), if_neg (by omega)]

namespace Date

theorem newYear_succ (year : Int) :
    newYear (year + 1) = newYear year + 365 + (isLeapYear year).toNat := by
  cases hleap : isLeapYear year with
  | false =>
    simp only [isLeapYear, Bool.and_eq_false_imp, beq_iff_eq, Bool.or_eq_false_iff,
      bne_eq_false_iff_eq, beq_eq_false_iff_ne, ne_eq] at hleap
    simp only [newYear, Bool.toNat_false]
    omega
  | true =>
    simp only [isLeapYear, Bool.and_eq_true, beq_iff_eq, Bool.or_eq_true, bne_iff_ne,
      ne_eq] at hleap
    simp only [newYear, Bool.toNat_true]
    omega

variable (d : Date)

theorem year_bounds : 1 ≤ d.year ∧ d.year ≤ 9999 := by
  obtain ⟨hstart, hnext⟩ := newYear_yearOf d.dayNumber
  have hfirst := d.first_le
  have hlast := d.le_last
  unfold newYear at hstart hnext
  unfold year
  simp only at hstart hnext
  omega

theorem newYear_add_dayOfYear : newYear d.year + d.dayOfYear = d.dayNumber := by
  have hstart : newYear d.year ≤ d.dayNumber := (newYear_yearOf d.dayNumber).1
  unfold dayOfYear
  omega

theorem dayOfYear_lt : d.dayOfYear < 365 + (isLeapYear d.year).toNat := by
  have hnext : d.dayNumber < newYear (d.year + 1) := (newYear_yearOf d.dayNumber).2
  rw [newYear_succ] at hnext
  have hday := d.newYear_add_dayOfYear
  omega

/-- The month and the day of the month of a day counted from zero. -/
theorem splitMonths_monthLengths (leap : Bool) : ∀ n < 365 + leap.toNat,
    (1 ≤ (splitMonths 1 (monthLengths leap) n).1 ∧ (splitMonths 1 (monthLengths leap) n).1 ≤ 12) ∧
    (1 ≤ (splitMonths 1 (monthLengths leap) n).2 ∧ (splitMonths 1 (monthLengths leap) n).2 ≤
      monthLength leap (splitMonths 1 (monthLengths leap) n).1) ∧
    daysBeforeMonth leap (splitMonths 1 (monthLengths leap) n).1 +
      (splitMonths 1 (monthLengths leap) n).2 = n + 1 := by
  cases leap <;> decide +kernel

theorem monthLength_le : ∀ leap, ∀ month ≤ 12, monthLength leap month ≤ 31 := by decide

theorem month_bounds : 1 ≤ d.month ∧ d.month ≤ 12 :=
  (splitMonths_monthLengths _ _ d.dayOfYear_lt).1

theorem day_bounds : 1 ≤ d.day ∧ d.day ≤ monthLength (isLeapYear d.year) d.month :=
  (splitMonths_monthLengths _ _ d.dayOfYear_lt).2.1

theorem daysBeforeMonth_add_day :
    daysBeforeMonth (isLeapYear d.year) d.month + d.day = d.dayOfYear + 1 :=
  (splitMonths_monthLengths _ _ d.dayOfYear_lt).2.2

theorem day_le : d.day ≤ 31 :=
  Nat.le_trans d.day_bounds.2 (monthLength_le _ _ d.month_bounds.2)

theorem ofCivil_parts : ofCivil d.year d.month d.day = .ok d := by
  have hyear := d.year_bounds
  have hmonth := d.month_bounds
  have hday := d.day_bounds
  have hle := d.day_le
  have hnumber : newYear d.year + daysBeforeMonth (isLeapYear d.year) d.month + d.day - 1 =
      d.dayNumber := by
    have := d.newYear_add_dayOfYear
    have := d.daysBeforeMonth_add_day
    omega
  have hfirst : Excess.first? [d.year, d.month, d.day] = none := by
    refine Excess.first?_eq_none fun n hn => ?_
    simp only [List.mem_cons, List.not_mem_nil, or_false] at hn
    omega
  unfold ofCivil
  simp only [hfirst, Int.toNat_natCast, hnumber, ofDayNumber?_dayNumber]
  rw [if_neg (by omega), if_neg (by omega), if_neg (by omega)]

theorem ofIsoRest_eq {year month day : Nat} {a b c e : Char} (hweek : a ≠ 'W')
    (hmonth : Text.asciiNat? [a, b] = some month) (hday : Text.asciiNat? [c, e] = some day) :
    ofIsoRest true year [a, b, '-', c, e] = ofNumbers year month day := by
  simp [ofIsoRest, hweek, hmonth, hday]

theorem ofIsoRest_digits {year month day : Nat} (hmonth : month < 100) (hday : day < 100) :
    ofIsoRest true year (Text.decimalDigits 2 month ++ '-' :: Text.decimalDigits 2 day) =
      ofNumbers year month day := by
  have hmonth := Text.asciiNat?_decimalDigits (by decide) (show month < tenTo 2 from hmonth)
  have hday := Text.asciiNat?_decimalDigits (by decide) (show day < tenTo 2 from hday)
  -- A month of two digits does not begin like the number of a week.
  have hweek : Char.ofNat ('0'.toNat + month / 10 % 10) ≠ 'W' := fun h =>
    absurd (h ▸ Text.isDigit_digit (month / 10)) (by decide)
  simp only [Text.decimalDigits, List.nil_append, List.cons_append] at hmonth hday ⊢
  exact ofIsoRest_eq hweek hmonth hday

/-- The text of a date is read as that date. -/
theorem ofIso_isoText : ofIso d.isoText = .ok d := by
  have hfirst := d.year_bounds.1
  have hlast := d.year_bounds.2
  have hmonth := d.month_bounds.2
  have hday := d.day_le
  have hparts := d.ofCivil_parts
  have htext : d.isoText.toList = Text.decimalDigits 4 d.year.toNat ++
      '-' :: (Text.decimalDigits 2 d.month ++ '-' :: Text.decimalDigits 2 d.day) := by
    simp [isoText]
  have hsize : d.isoText.utf8ByteSize = 10 := by
    simp only [isoText, String.utf8ByteSize_append, Text.utf8ByteSize_padded]
    rfl
  have hyear : Text.asciiNat? (Text.decimalDigits 4 d.year.toNat) = some d.year.toNat :=
    Text.asciiNat?_decimalDigits (by decide) (show d.year.toNat < 10000 by omega)
  have hrest : ofIsoRest true d.year.toNat
      (Text.decimalDigits 2 d.month ++ '-' :: Text.decimalDigits 2 d.day) =
        ofNumbers d.year.toNat d.month d.day := ofIsoRest_digits (by omega) (by omega)
  generalize Text.decimalDigits 2 d.month ++ '-' :: Text.decimalDigits 2 d.day = rest at htext hrest
  simp only [Text.decimalDigits, List.nil_append, List.cons_append] at htext hyear
  rw [ofIso, hsize, htext, if_neg (by decide)]
  simp only [hyear, hrest, ofNumbers]
  rw [Int.toNat_of_nonneg (by omega), hparts]
  rfl

end Date

end TradingStatus
