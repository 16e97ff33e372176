import TradingStatus.Platform.Standard
import TradingStatus.Proofs.Text.Trimmed
import TradingStatus.Proofs.Time.CivilDates
import TradingStatus.Proofs.Time.Readings

/-! Readings that are printed and read again. A printed reading is cut down to whole milliseconds;
with a year of four digits it is read as what is left, in UTC. That much is relied upon of every
platform. -/

namespace TradingStatus

namespace Text

theorem toDigits_eq_decimalDigits {width n : Nat} (hlow : tenTo width ≤ n)
    (hhigh : n < tenTo (width + 1)) : Nat.toDigits 10 n = decimalDigits (width + 1) n := by
  have hdigit : ∀ d < 10, Nat.digitChar d = Char.ofNat ('0'.toNat + d) := by decide
  induction width generalizing n with
  | zero =>
    have hlt : n < 10 := hhigh
    rw [Nat.toDigits_of_lt_base hlt, hdigit n hlt, decimalDigits, Nat.mod_eq_of_lt hlt]
    rfl
  | succ width ih =>
    have hpositive := tenTo_pos width
    rw [tenTo_succ] at hlow hhigh
    rw [Nat.toDigits_of_base_le (by decide) (by omega), ih (by omega) (by omega),
      hdigit _ (Nat.mod_lt n (by decide))]
    rfl

end Text

namespace Timestamp

/-- Digits at the front of a text are read as the number that they write. -/
theorem number?_decimalDigits {width n : Nat} (hwidth : 0 < width) (h : n < tenTo width)
    (rest : List Char) :
    number? width (Text.decimalDigits width n ++ rest) = some (n, rest) := by
  have hlength := Text.length_decimalDigits width n
  rw [number?, List.take_left' hlength, List.drop_left' hlength, if_pos hlength,
    Text.asciiNat?_decimalDigits hwidth h]
  rfl

theorem plainDate?_printed {year month day : Nat} (hyear : year < 10000) (hmonth : month < 100)
    (hday : day < 100) (rest : List Char) :
    plainDate? (Text.decimalDigits 4 year ++ '-' :: (Text.decimalDigits 2 month ++
      '-' :: (Text.decimalDigits 2 day ++ rest))) = some ((year, month, day), rest) := by
  have hyear := number?_decimalDigits (by decide) (show year < tenTo 4 from hyear)
  have hmonth := number?_decimalDigits (by decide) (show month < tenTo 2 from hmonth)
  have hday := number?_decimalDigits (by decide) (show day < tenTo 2 from hday)
  simp [plainDate?, hyear, hmonth, hday]

theorem atOffset_decimalDigits {width : Nat} (hwidth : 0 < width) (n : Nat) (rest : List Char) :
    atOffset (Text.decimalDigits width n ++ rest) = false := by
  have hlength := Text.length_decimalDigits width n
  cases hdigits : Text.decimalDigits width n with
  | nil =>
    rw [hdigits] at hlength
    exact absurd hlength (Nat.ne_of_lt hwidth)
  | cons c cs =>
    have hc : c.isDigit = true := Text.isDigit_of_mem_decimalDigits (hdigits ▸ List.mem_cons_self)
    -- None of the characters that an offset begins with is a digit.
    have hsigns : ∀ sign ∈ ['+', '-', 'Z', 'z'], c ≠ sign := by
      rintro sign hsign rfl
      have hnone : (['+', '-', 'Z', 'z'].all fun sign => !sign.isDigit) = true := by decide
      simpa [hc] using List.all_eq_true.mp hnone c hsign
    simp [atOffset, hsigns]

theorem fractionPart?_printed {millisecond : Nat} (h : millisecond < 1000) (time : TimeText) :
    fractionPart? time ('.' :: (Text.decimalDigits 3 millisecond ++ ['Z'])) =
      some { time with microsecond := millisecond * 1000, offset := some 0 } := by
  have hdigits : ∀ c ∈ Text.decimalDigits 3 millisecond, c.isDigit = true := fun c hc =>
    Text.isDigit_of_mem_decimalDigits hc
  have hread : (Text.decimalDigits 3 millisecond ++ ['Z']).takeWhile Char.isDigit =
      Text.decimalDigits 3 millisecond := by
    rw [List.takeWhile_append_of_pos hdigits]
    exact List.append_nil _
  have hleft : (Text.decimalDigits 3 millisecond ++ ['Z']).dropWhile Char.isDigit = ['Z'] := by
    rw [List.dropWhile_append_of_pos hdigits]
    rfl
  have hlength := Text.length_decimalDigits 3 millisecond
  have hvalue := Text.asciiNat?_decimalDigits (by decide) (show millisecond < tenTo 3 from h)
  simp only [fractionPart?, true_or, if_true, hread, hleft, List.take_of_length_le (by omega :
    (Text.decimalDigits 3 millisecond).length ≤ 6), hvalue, hlength]
  rfl

theorem timePart?_printed {hour minute second millisecond : Nat} (hhour : hour < 100)
    (hminute : minute < 100) (hsecond : second < 100) (hmillisecond : millisecond < 1000) :
    timePart? (Text.decimalDigits 2 hour ++ ':' :: (Text.decimalDigits 2 minute ++
      ':' :: (Text.decimalDigits 2 second ++ '.' :: (Text.decimalDigits 3 millisecond ++ ['Z'])))) =
      some ⟨hour, minute, second, millisecond * 1000, some 0⟩ := by
  have hhour := number?_decimalDigits (by decide) (show hour < tenTo 2 from hhour)
  have hminute := number?_decimalDigits (by decide) (show minute < tenTo 2 from hminute)
  have hsecond := number?_decimalDigits (by decide) (show second < tenTo 2 from hsecond)
  have hfraction := fractionPart?_printed hmillisecond
  have hoffset (n : Nat) (rest : List Char) := atOffset_decimalDigits (by decide : 0 < 2) n rest
  have hlength (n : Nat) (rest : List Char) :
      ¬(Text.decimalDigits 2 n ++ rest).length < 2 := by
    rw [List.length_append, Text.length_decimalDigits]
    omega
  rw [timePart?, if_neg (hlength hour _), hoffset, if_neg Bool.false_ne_true, hhour]
  simp [atOffset, hminute, hsecond, hfraction]

/-- The timestamp of a date and a time of that day in UTC. -/
theorem ofParts_eq_ok {date : Date} {time : TimeText} {r : Reading} (hhour : time.hour < 24)
    (hminute : time.minute < 60) (hsecond : time.second < 60)
    (hr : r.micros = date.dayNumber * 86400000000 + (time.hour * 3600000000 +
      (time.minute * 60000000 + time.second * 1000000 + time.microsecond) : Nat)) :
    ofParts date time = .ok ⟨r, time.offset⟩ := by
  unfold ofParts
  simp only
  rw [if_neg (by omega), if_neg (by omega), if_neg (by omega),
    Reading.ofMicros?_eq_some_iff.mpr hr]

end Timestamp

namespace Reading

variable (r : Reading)

/-- A reading without what it counts beyond whole milliseconds. -/
def wholeMillis : Reading where
  micros := r.micros / 1000 * 1000
  first_le := by have := r.first_le; omega
  le_last := by have := r.le_last; omega

/-- The time of the day as it is printed, with the mark of UTC. -/
def timeChars : List Char :=
  Text.decimalDigits 2 r.hour ++ ':' :: (Text.decimalDigits 2 r.minute ++ ':' ::
    (Text.decimalDigits 2 r.second ++ '.' :: (Text.decimalDigits 3 (r.microsecond / 1000) ++ ['Z'])))

variable {r}

theorem toList_isoUtc (h : 1000 ≤ r.date.year) : r.isoUtc.toList =
    Text.decimalDigits 4 r.date.year.toNat ++ '-' :: (Text.decimalDigits 2 r.date.month ++
      '-' :: (Text.decimalDigits 2 r.date.day ++ 'T' :: r.timeChars)) := by
  have hlast := r.date.year_bounds.2
  have hyear : (toString r.date.year).toList = Text.decimalDigits 4 r.date.year.toNat := by
    obtain ⟨n, hn⟩ := Int.eq_ofNat_of_zero_le (show 0 ≤ r.date.year by omega)
    rw [hn] at h hlast ⊢
    have hprinted : toString (n : Int) = toString n := rfl
    rw [hprinted, Nat.toString_eq_ofList_toDigits, String.toList_ofList, Int.toNat_natCast]
    exact Text.toDigits_eq_decimalDigits (show 1000 ≤ n by omega) (show n < 10000 by omega)
  simpa [isoUtc, timeChars] using hyear

theorem forall_mem_isoUtc {p : Char → Prop} (h : 1000 ≤ r.date.year)
    (hdigit : ∀ c : Char, c.isDigit = true → p c)
    (hmark : p '-' ∧ p 'T' ∧ p ':' ∧ p '.' ∧ p 'Z') :
    ∀ c ∈ r.isoUtc.toList, p c := by
  have hdigits : ∀ width n, ∀ c ∈ Text.decimalDigits width n, p c := fun width n c hc =>
    hdigit c (Text.isDigit_of_mem_decimalDigits hc)
  rw [toList_isoUtc h, timeChars]
  simp only [List.forall_mem_append, List.forall_mem_cons, hmark, true_and]
  exact ⟨hdigits _ _, hdigits _ _, hdigits _ _, hdigits _ _, hdigits _ _, hdigits _ _, hdigits _ _,
    List.forall_mem_nil p⟩

/-- A printed reading has no blanks. -/
theorem trim_isoUtc (h : 1000 ≤ r.date.year) :
    Text.isBlankText r.isoUtc = false ∧ Text.trim r.isoUtc = r.isoUtc := by
  have hblank : ∀ c ∈ r.isoUtc.toList, Text.isBlank c = false :=
    forall_mem_isoUtc h (fun c hc => Text.isBlank_of_isDigit hc) (by decide)
  have hmark : '-' ∈ r.isoUtc.toList := by
    rw [toList_isoUtc h]
    exact List.mem_append_right _ List.mem_cons_self
  constructor
  · rw [Text.isBlankText, List.all_eq_false]
    exact ⟨'-', hmark, by decide⟩
  · rw [Text.trim, Text.trimChars_of_not_blank hblank, String.ofList_toList]

theorem ofParts_timeText : Timestamp.ofParts r.date
    ⟨r.hour, r.minute, r.second, r.microsecond / 1000 * 1000, some 0⟩ =
      .ok (.utc r.wholeMillis) := by
  have hday := r.microOfDay_lt
  have hminutes := r.minuteOfDay_lt
  refine Timestamp.ofParts_eq_ok ?_ ?_ ?_ ?_
  · show r.minuteOfDay / 60 < 24
    omega
  · exact Nat.mod_lt _ (by decide)
  · exact Nat.mod_lt _ (by decide)
  · show r.micros / 1000 * 1000 = r.micros / 86400000000 * 86400000000 + _
    simp only [hour, minute, second, microsecond, minuteOfDay, microOfDay]
    omega

/-- What a printed reading is read as. -/
theorem ofIso_isoUtc (h : 1000 ≤ r.date.year) :
    Timestamp.ofIso r.isoUtc = .ok (.utc r.wholeMillis) := by
  have hyear := r.date.year_bounds
  have hmonth := r.date.month_bounds.2
  have hday := r.date.day_le
  have hdate : Timestamp.datePart (Text.decimalDigits 4 r.date.year.toNat ++
      '-' :: (Text.decimalDigits 2 r.date.month ++ '-' ::
        (Text.decimalDigits 2 r.date.day ++ 'T' :: r.timeChars))) =
      .ok (r.date, 'T' :: r.timeChars) := by
    rw [Timestamp.datePart, Timestamp.plainDate?_printed (by omega) (by omega) (by omega)]
    simp only [Int.toNat_of_nonneg (show 0 ≤ r.date.year by omega), r.date.ofCivil_parts]
  have htime : Timestamp.timePart? r.timeChars =
      some ⟨r.hour, r.minute, r.second, r.microsecond / 1000 * 1000, some 0⟩ := by
    have hminutes := r.minuteOfDay_lt
    refine Timestamp.timePart?_printed ?_ ?_ ?_ ?_
    · show r.minuteOfDay / 60 < 100
      omega
    · show r.minuteOfDay % 60 < 100
      omega
    · show r.microOfDay / 1000000 % 60 < 100
      omega
    · show r.microOfDay % 1000000 / 1000 < 1000
      omega
  have hascii : r.isoUtc.toList.all (fun c => c.toNat < 0x80) = true := by
    refine List.all_eq_true.mpr (forall_mem_isoUtc h (fun c hc => ?_) (by decide))
    have hbounds : 48 ≤ c.toNat ∧ c.toNat ≤ 57 := Char.isDigit_iff_toNat.mp hc
    exact decide_eq_true (by omega)
  rw [Timestamp.ofIso, if_pos hascii, toList_isoUtc h]
  simp only [Timestamp.ofIsoChars, hdate, bind, Except.bind, htime]
  exact ofParts_timeText

/-- What is cut off is not printed. -/
theorem isoUtc_wholeMillis (r : Reading) : r.wholeMillis.isoUtc = r.isoUtc := by
  have hdate : r.wholeMillis.date = r.date := by
    ext
    show r.micros / 1000 * 1000 / 86400000000 = r.micros / 86400000000
    omega
  have htime : r.wholeMillis.microOfDay = r.microOfDay / 1000 * 1000 := by
    show (r.micros / 1000 * 1000 % 86400000000).toNat = (r.micros % 86400000000).toNat / 1000 * 1000
    omega
  have hminutes : r.wholeMillis.minuteOfDay = r.minuteOfDay := by
    unfold minuteOfDay
    omega
  have hsecond : r.wholeMillis.second = r.second := by
    unfold second
    omega
  have hmillisecond : r.wholeMillis.microsecond / 1000 = r.microsecond / 1000 := by
    unfold microsecond
    omega
  rw [isoUtc, isoUtc, hdate, hour, hour, minute, minute, hminutes, hsecond, hmillisecond]

end Reading

/-- A platform reads what is printed, with years of four digits, as what is left of it. -/
def Platform.ReadsPrinted [Platform] : Prop :=
  ∀ r : Reading, 1000 ≤ r.date.year → readTimestamp r.isoUtc = .ok (.utc r.wholeMillis)

theorem Platform.readsPrinted_standard : ReadsPrinted := fun _ h => Reading.ofIso_isoUtc h

end TradingStatus
