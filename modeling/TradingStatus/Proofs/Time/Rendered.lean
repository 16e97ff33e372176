import TradingStatus.Proofs.Text.DigitOrder
import TradingStatus.Proofs.Time.Printed

/-! Instants that are written and the order of what is written. From the year 1000 on a written
instant is read back, up to whole milliseconds, and texts are in the order of the instants. A year
before that is written with fewer digits: its text is not read, and may come after later ones. -/

namespace TradingStatus

/-! Texts that are not read -/

theorem Text.foldlM_asciiDigit?_of_mem {cs : List Char} {c : Char} (hc : c ∈ cs)
    (hdigit : asciiDigit? c = none) (start : Nat) :
    cs.foldlM (fun n c => (asciiDigit? c).map (n * 10 + ·)) start = none := by
  induction cs generalizing start with
  | nil => cases hc
  | cons d cs ih =>
    rw [List.foldlM_cons]
    obtain rfl | hc := List.mem_cons.mp hc
    · rw [hdigit]
      rfl
    · cases asciiDigit? d with
      | none => rfl
      | some n => exact ih hc _

namespace Timestamp

variable {cs : List Char} {c : Char}

theorem number?_of_mem {n : Nat} (hc : c ∈ cs.take n) (hdigit : Text.asciiDigit? c = none) :
    number? n cs = none := by
  have hnumber : Text.asciiNat? (cs.take n) = none := by
    unfold Text.asciiNat?
    split
    · rfl
    · exact Text.foldlM_asciiDigit?_of_mem hc hdigit 0
  unfold number?
  rw [hnumber, Option.map_none, ite_self]

/-- Four digits are read first of all. -/
theorem ofIsoChars_of_mem (hc : c ∈ cs.take 4) (hdigit : Text.asciiDigit? c = none) :
    ofIsoChars cs = .error .malformed := by
  have hyear := number?_of_mem hc hdigit
  have hplain : plainDate? cs = none := by
    rw [plainDate?, hyear]
    rfl
  have hdate : datePart cs = .error .malformed := by
    rw [datePart, hplain, countedDate, hyear]
  rw [ofIsoChars, hdate]
  rfl

theorem ofIso_of_mem {s : String} (hc : c ∈ s.toList.take 4)
    (hdigit : Text.asciiDigit? c = none) : ofIso s = .error .malformed := by
  rw [ofIso, ofIsoChars_of_mem hc hdigit, ite_self]

end Timestamp

/-! The order of dates -/

namespace Date

variable {d e : Date}

theorem year_le (h : d.dayNumber ≤ e.dayNumber) : d.year ≤ e.year := by
  have hstart : newYear d.year ≤ d.dayNumber := (newYear_yearOf d.dayNumber).1
  have hnext : e.dayNumber < newYear (e.year + 1) := (newYear_yearOf e.dayNumber).2
  unfold newYear at hstart hnext
  simp only at hstart hnext
  omega

theorem daysBeforeMonth_add_monthLength_le : ∀ leap, ∀ n ≤ 12, ∀ m < n, 1 ≤ m →
    daysBeforeMonth leap m + monthLength leap m ≤ daysBeforeMonth leap n := by decide

/-- Within a year the month counts first, and then the day. -/
theorem monthDay_le (hyear : d.year = e.year) (h : d.dayNumber ≤ e.dayNumber) :
    d.month < e.month ∨ d.month = e.month ∧ d.day ≤ e.day := by
  have hd := d.newYear_add_dayOfYear
  have he := e.newYear_add_dayOfYear
  have hdmonth := d.daysBeforeMonth_add_day
  have hemonth := e.daysBeforeMonth_add_day
  rw [hyear] at hd hdmonth
  obtain hlt | hsame | hgt := Nat.lt_trichotomy d.month e.month
  · exact .inl hlt
  · rw [hsame] at hdmonth
    exact .inr ⟨hsame, by omega⟩
  · have hday := e.day_bounds.2
    have hbefore := daysBeforeMonth_add_monthLength_le (isLeapYear e.year) d.month
      d.month_bounds.2 e.month hgt e.month_bounds.1
    have hfirst := d.day_bounds.1
    omega

end Date

namespace Reading

variable {r s : Reading}

theorem dayNumber_le (h : r.micros ≤ s.micros) : r.date.dayNumber ≤ s.date.dayNumber :=
  Int.ediv_le_ediv (by decide) h

/-- Within a day the hour counts first, then the minute, the second and the millisecond. -/
theorem timeOfDay_le (h : r.microOfDay ≤ s.microOfDay) : r.hour < s.hour ∨ r.hour = s.hour ∧
    (r.minute < s.minute ∨ r.minute = s.minute ∧
      (r.second < s.second ∨ r.second = s.second ∧
        (r.microsecond / 1000 < s.microsecond / 1000 ∨
          r.microsecond / 1000 = s.microsecond / 1000))) := by
  unfold hour minute second microsecond minuteOfDay
  omega

theorem timeChars_le (h : r.microOfDay ≤ s.microOfDay) : r.timeChars ≤ s.timeChars := by
  have hday := s.microOfDay_lt
  have hminutes := s.minuteOfDay_lt
  have hhour : s.hour < tenTo 2 := by
    show s.minuteOfDay / 60 < 100
    omega
  have hminute : s.minute < tenTo 2 := by
    show s.minuteOfDay % 60 < 100
    omega
  have hsecond : s.second < tenTo 2 := by
    show s.microOfDay / 1000000 % 60 < 100
    omega
  have hmilli : s.microsecond / 1000 < tenTo 3 := by
    show s.microOfDay % 1000000 / 1000 < 1000
    omega
  refine Text.decimalDigits_append_le hhour
    ((timeOfDay_le h).imp_right (And.imp_right fun h => List.cons_le_cons _ ?_))
  refine Text.decimalDigits_append_le hminute
    (h.imp_right (And.imp_right fun h => List.cons_le_cons _ ?_))
  refine Text.decimalDigits_append_le hsecond
    (h.imp_right (And.imp_right fun h => List.cons_le_cons _ ?_))
  exact Text.decimalDigits_append_le hmilli (h.imp_right fun h => ⟨h, le_refl _⟩)

/-- What is written behind the year. -/
def withinYear (r : Reading) : List Char :=
  Text.decimalDigits 2 r.date.month ++
    '-' :: (Text.decimalDigits 2 r.date.day ++ 'T' :: r.timeChars)

theorem toList_isoUtc_eq (r : Reading) :
    r.isoUtc.toList = (toString r.date.year).toList ++ '-' :: r.withinYear := by
  simp [isoUtc, withinYear, timeChars]

theorem withinYear_le (hyear : r.date.year = s.date.year) (h : r.micros ≤ s.micros) :
    r.withinYear ≤ s.withinYear := by
  have hmonth := s.date.month_bounds.2
  have hday := s.date.day_le
  have hmonthLt : s.date.month < tenTo 2 := show s.date.month < 100 by omega
  have hdayLt : s.date.day < tenTo 2 := show s.date.day < 100 by omega
  have hdays := dayNumber_le h
  obtain hlt | ⟨hsame, hle⟩ := Date.monthDay_le hyear hdays
  · exact Text.decimalDigits_append_le hmonthLt (.inl hlt)
  · refine Text.decimalDigits_append_le hmonthLt (.inr ⟨hsame, List.cons_le_cons _ ?_⟩)
    obtain hlt | heq := Nat.lt_or_eq_of_le hle
    · exact Text.decimalDigits_append_le hdayLt (.inl hlt)
    · refine Text.decimalDigits_append_le hdayLt (.inr ⟨heq, List.cons_le_cons _ ?_⟩)
      have hdate : r.date.dayNumber = s.date.dayNumber := by
        have hr := r.date.newYear_add_dayOfYear
        have hs := s.date.newYear_add_dayOfYear
        have hrmonth := r.date.daysBeforeMonth_add_day
        have hsmonth := s.date.daysBeforeMonth_add_day
        rw [hyear] at hr hrmonth
        rw [hsame] at hrmonth
        omega
      refine timeChars_le ?_
      have hr : r.micros / 86400000000 = s.micros / 86400000000 := hdate
      unfold microOfDay
      omega

/-- The digits of a year. -/
theorem toList_toString_year (r : Reading) :
    (toString r.date.year).toList = Nat.toDigits 10 r.date.year.toNat := by
  have hfirst := r.date.year_bounds.1
  obtain ⟨n, hn⟩ := Int.eq_ofNat_of_zero_le (show 0 ≤ r.date.year by omega)
  rw [hn]
  show (toString n).toList = _
  rw [Nat.toString_eq_ofList_toDigits, String.toList_ofList, Int.toNat_natCast]

theorem toDigits_year_inj (h : Nat.toDigits 10 r.date.year.toNat =
    Nat.toDigits 10 s.date.year.toNat) : r.date.year = s.date.year := by
  have hr := r.date.year_bounds.1
  have hs := s.date.year_bounds.1
  have hnat := congrArg (Nat.ofDigitChars 10 · 0) h
  simp only [Nat.ofDigitChars_ten_toDigits] at hnat
  omega

/-- Later instants come later as texts just when their years do, by the digits. -/
theorem isoUtc_le_iff (h : r.micros ≤ s.micros) :
    r.isoUtc ≤ s.isoUtc ↔ toString r.date.year ≤ toString s.date.year := by
  rw [String.le_iff_toList_le, String.le_iff_toList_le, toList_isoUtc_eq, toList_isoUtc_eq]
  by_cases hyear : r.date.year = s.date.year
  · rw [hyear]
    exact iff_of_true (Text.append_le_append _ (List.cons_le_cons _ (withinYear_le hyear h)))
      (le_refl _)
  · have hmark (t : Reading) : ∀ c ∈ (toString t.date.year).toList, '-' < c := by
      intro c hc
      rw [toList_toString_year] at hc
      have hdigit := Char.isDigit_iff_toNat.mp (Text.isDigit_of_mem_toDigits hc)
      show '-'.toNat < c.toNat
      exact Nat.lt_of_lt_of_le (by decide) hdigit.1
    refine Text.append_mark_le_iff (hmark r) (hmark s) fun heq => hyear ?_
    rw [toList_toString_year, toList_toString_year] at heq
    exact toDigits_year_inj heq

/-- Years of four digits are in the order of their digits. -/
theorem toString_year_le (hr : 1000 ≤ r.date.year) (h : r.date.year ≤ s.date.year) :
    toString r.date.year ≤ toString s.date.year := by
  have hdigits {t : Reading} (ht : 1000 ≤ t.date.year) : (toString t.date.year).toList =
      Text.decimalDigits 4 t.date.year.toNat ++ [] := by
    have hlast := t.date.year_bounds.2
    rw [toList_toString_year, List.append_nil]
    exact Text.toDigits_eq_decimalDigits (show 1000 ≤ t.date.year.toNat by omega)
      (show t.date.year.toNat < 10000 by omega)
  have hlast := s.date.year_bounds.2
  rw [String.le_iff_toList_le, hdigits hr, hdigits (Int.le_trans hr h)]
  refine Text.decimalDigits_append_le (show s.date.year.toNat < 10000 by omega) ?_
  obtain hlt | heq := Int.lt_or_eq_of_le h
  · exact .inl (by omega)
  · exact .inr ⟨by omega, le_refl _⟩

/-- Before the year 1000 the hyphen behind the year stands among the first four characters. -/
theorem ofIso_isoUtc_of_lt (h : r.date.year < 1000) :
    Timestamp.ofIso r.isoUtc = .error .malformed := by
  have hfirst := r.date.year_bounds.1
  have hlength : (Nat.toDigits 10 r.date.year.toNat).length ≤ 3 :=
    (Nat.length_toDigits_le_iff (by decide) (by decide)).mpr (by omega)
  refine Timestamp.ofIso_of_mem (c := '-') ?_ rfl
  rw [toList_isoUtc_eq, toList_toString_year, List.take_append]
  refine List.mem_append_right _ ?_
  obtain ⟨k, hk⟩ : ∃ k, 4 - (Nat.toDigits 10 r.date.year.toNat).length = k + 1 :=
    Nat.exists_eq_add_one.mpr (by omega)
  rw [hk, List.take_succ_cons]
  exact List.mem_cons_self

theorem ofIso_isoUtc_eq_ok_iff {back : Timestamp} :
    Timestamp.ofIso r.isoUtc = .ok back ↔ 1000 ≤ r.date.year ∧ back = .utc r.wholeMillis := by
  by_cases hyear : 1000 ≤ r.date.year
  · rw [ofIso_isoUtc hyear, Except.ok.injEq, eq_comm]
    exact (and_iff_right hyear).symm
  · rw [ofIso_isoUtc_of_lt (by omega)]
    exact iff_of_false nofun fun h => hyear h.1

end Reading

/-- What a clock shows is written, if a UTC clock can show it. From the year 1000 on it is read back
in UTC, cut down to whole milliseconds, and later instants come later as texts; before that nothing
is read, and the order is that of the digits of the years. -/
theorem Timestamp.isoUtc_is_faithful_from_1000 {t : Timestamp} {r : Reading}
    (ht : t.instant? = some ⟨r.micros⟩) :
    ∃ text, isoUtc (some t) = .ok text ∧
      (∀ back, ofIso text = .ok back ↔ 1000 ≤ r.date.year ∧ back = .utc r.wholeMillis) ∧
      ∀ (u : Timestamp) (s : Reading), u.instant? = some ⟨s.micros⟩ → r.micros ≤ s.micros →
        ∃ later, isoUtc (some u) = .ok later ∧
          (text ≤ later ↔ toString r.date.year ≤ toString s.date.year) ∧
          (1000 ≤ r.date.year → text ≤ later) := by
  refine ⟨r.isoUtc, isoUtc_eq_ok ht, fun _ => Reading.ofIso_isoUtc_eq_ok_iff, ?_⟩
  intro u s hu h
  have horder := Reading.isoUtc_le_iff h
  refine ⟨s.isoUtc, isoUtc_eq_ok hu, horder, fun hyear => horder.mpr ?_⟩
  exact Reading.toString_year_le hyear (Date.year_le (Reading.dayNumber_le h))

/-- The last second of the year 999, by a clock in UTC. -/
def endOf999 : Timestamp := .utc ⟨-30610224001000000, by decide, by decide⟩

/-- The second after it. -/
def startOf1000 : Timestamp := .utc ⟨-30610224000000000, by decide, by decide⟩

/-- A clock in Tokyo that shows the same second. -/
def tokyoAtStartOf1000 : Timestamp :=
  ⟨⟨-30610191600000000, by decide, by decide⟩, some 32400⟩

theorem Timestamp.isoUtc_is_faithful_at_startOf1000 :
    tokyoAtStartOf1000.instant? = some ⟨startOf1000.reading.micros⟩ ∧
      ∃ text, isoUtc (some tokyoAtStartOf1000) = .ok text ∧ ofIso text = .ok startOf1000 := by
  have hinstant : tokyoAtStartOf1000.instant? = some ⟨startOf1000.reading.micros⟩ := by decide
  obtain ⟨text, htext, hread, -⟩ := isoUtc_is_faithful_from_1000 hinstant
  exact ⟨hinstant, text, htext, (hread _).mpr ⟨by decide +kernel, by decide +kernel⟩⟩

/-- The last second of the year 999 is not read back, and as text it comes after the next one. -/
theorem Timestamp.isoUtc_unfaithful_at_endOf999 :
    isoUtc (some endOf999) = .ok "999-12-31T23:59:59.000Z" ∧
      (¬∃ back, ofIso "999-12-31T23:59:59.000Z" = .ok back) ∧
      endOf999.reading.micros ≤ startOf1000.reading.micros ∧
      isoUtc (some startOf1000) = .ok "1000-01-01T00:00:00.000Z" ∧
      ¬"999-12-31T23:59:59.000Z" ≤ "1000-01-01T00:00:00.000Z" := by
  have hone : endOf999.reading.isoUtc = "999-12-31T23:59:59.000Z" := by decide +kernel
  have htwo : startOf1000.reading.isoUtc = "1000-01-01T00:00:00.000Z" := by decide +kernel
  refine ⟨hone ▸ isoUtc_eq_ok rfl, ?_, by decide, htwo ▸ isoUtc_eq_ok rfl, by decide +kernel⟩
  rintro ⟨back, hback⟩
  rw [← hone, Reading.ofIso_isoUtc_eq_ok_iff] at hback
  exact absurd hback.1 (by decide +kernel)

end TradingStatus
