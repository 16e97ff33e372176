import TradingStatus.Proofs.Market.Loaded
import TradingStatus.Proofs.Time.CivilDates

/-! Markets written as documents and read again. A document may write years, dates and the absence
of a part in many ways. What a market keeps of it is written in one way only, and each part of that
is read back as it is; so the market is. -/

namespace TradingStatus

/-- Elements that are taken in behind all others when they come last stay in their order. -/
theorem foldl_eq_append {α : Type} {before : α → α → Prop} {take : List α → α → List α}
    (hlast : ∀ taken a, (∀ b ∈ taken, before b a) → take taken a = taken ++ [a])
    {taken rest : List α} (h : (taken ++ rest).Pairwise before) :
    rest.foldl take taken = taken ++ rest := by
  induction rest generalizing taken with
  | nil => rw [List.foldl_nil, List.append_nil]
  | cons a rest ih =>
    have hbefore : ∀ b ∈ taken, before b a := fun b hb =>
      (List.pairwise_append.mp h).2.2 b hb a List.mem_cons_self
    have hassoc : taken ++ a :: rest = taken ++ [a] ++ rest := by
      rw [List.append_assoc, List.singleton_append]
    rw [List.foldl_cons, hlast taken a hbefore, hassoc, ih (hassoc ▸ h)]

namespace DaySet

theorem insertDay_of_lt {day : Date} {days : List Date} (h : ∀ d ∈ days, d < day) :
    insertDay day days = days ++ [day] := by
  induction days with
  | nil => rfl
  | cons d days ih =>
    have hlt : d.dayNumber < day.dayNumber := h d List.mem_cons_self
    have hnot : ¬day < d := Int.lt_asymm hlt
    have hne : day ≠ d := by
      rintro rfl
      exact absurd hlt (Int.lt_irrefl _)
    rw [insertDay, if_neg hnot, if_neg hne, ih fun e he => h e (List.mem_cons_of_mem _ he),
      List.cons_append]

theorem ofList_days (set : DaySet) : ofList set.days = set := by
  have hdays := calc (ofList set.days).days
      = set.days.foldl (fun taken day => insertDay day taken) [] :=
        (List.foldl_hom DaySet.days fun _ _ => rfl).symm
    _ = set.days := foldl_eq_append (fun _ _ => insertDay_of_lt) set.sorted
  cases set
  rw [mk.injEq]
  exact hdays

end DaySet

theorem EarlyClose.ofJson_toJson [Platform] (early : EarlyClose) (mic : String) :
    ofJson early.toJson mic = .ok early := by
  show (do ofParts (some (← Date.ofJson (.str early.day.isoText))) (.str early.closing.text)) = _
  simp [Date.ofJson, Date.ofIso_isoText, ofParts, ClockTime.ofJson, ClockTime.ofText_text, bind,
    Except.bind]

namespace Holidays

variable {mic : String} {year : Int} {set : DaySet}

theorem setYear_of_lt {days : DaySet} {years : List (Int × DaySet)}
    (h : ∀ entry ∈ years, entry.1 < year) : setYear year days years = years ++ [(year, days)] := by
  induction years with
  | nil => rfl
  | cons entry years ih =>
    have hlt : entry.1 < year := h entry List.mem_cons_self
    rw [setYear, if_neg (by omega), if_neg (by omega),
      ih fun e he => h e (List.mem_cons_of_mem _ he), List.cons_append]

theorem ofEntries_years (holidays : Holidays) : ofEntries holidays.years = holidays := by
  have hyears := calc (ofEntries holidays.years).years
      = holidays.years.foldl (fun taken entry => setYear entry.1 entry.2 taken) [] :=
        (List.foldl_hom Holidays.years fun _ _ => rfl).symm
    _ = holidays.years := foldl_eq_append (fun _ _ => setYear_of_lt) holidays.sorted
  cases holidays
  rw [mk.injEq]
  exact hyears

theorem mem_setYear {days : DaySet} {years : List (Int × DaySet)} {entry : Int × DaySet}
    (h : entry ∈ setYear year days years) : entry = (year, days) ∨ entry ∈ years := by
  induction years with
  | nil => simp_all [setYear]
  | cons e rest ih => unfold setYear at h; grind

theorem mem_of_mem_foldl_set {entries : List (Int × DaySet)} {holidays : Holidays}
    {entry : Int × DaySet}
    (h : entry ∈ (entries.foldl (fun holidays e => holidays.set e.1 e.2) holidays).years) :
    entry ∈ holidays.years ∨ entry ∈ entries := by
  induction entries generalizing holidays with
  | nil => exact .inl h
  | cons e entries ih =>
    rcases ih h with h | h
    · rcases mem_setYear h with rfl | h
      · exact .inr List.mem_cons_self
      · exact .inl h
    · exact .inr (List.mem_cons_of_mem _ h)

theorem mem_of_mem_ofEntries {entries : List (Int × DaySet)} {entry : Int × DaySet}
    (h : entry ∈ (ofEntries entries).years) : entry ∈ entries := by
  rcases mem_of_mem_foldl_set h with h | h
  · cases h
  · exact h

/-- An entry as a document can write it: a year that has not too many digits, with days of it. -/
structure IsWritable (entry : Int × DaySet) : Prop where
  numeral : ∃ n : Nat, entry.1 = n ∧ (Nat.toDigits 10 n).length ≤ Text.numeralLimit
  of_year : ∀ day ∈ entry.2.days, day.year = entry.1

theorem isWritable_of_entryOfJson {member : String × Json} {entry : Int × DaySet}
    (h : entryOfJson mic member = .ok entry) : IsWritable entry := by
  obtain ⟨hdigits, hyear, items, days, -, -, hset, hdays⟩ := entryOfJson_eq_ok_iff.mp h
  refine ⟨?_, fun day hday => hdays day (DaySet.mem_ofList.mp (hset ▸ hday))⟩
  unfold yearOfText at hyear
  split at hyear
  · next value hvalue =>
    obtain rfl := Except.ok.inj hyear
    exact Text.exists_nat_of_readInteger hdigits hvalue
  · cases hyear

theorem isWritable_of_ofJson [Platform] {value : Json} {holidays : Holidays} {entry : Int × DaySet}
    (h : ofJson mic value = .ok holidays) (hentry : entry ∈ holidays.years) : IsWritable entry := by
  unfold ofJson at h
  split at h
  · obtain rfl := Except.ok.inj h
    cases hentry
  · obtain ⟨entries, hentries, h⟩ := bind_eq_ok_iff.mp h
    obtain rfl := pure_eq_ok_iff.mp h
    obtain ⟨member, -, hmember⟩ :=
      (mem_iff_of_mapM hentries).mp (mem_of_mem_ofEntries hentry)
    exact isWritable_of_entryOfJson hmember
  · cases h

theorem IsWritable.entryOfJson_eq {entry : Int × DaySet} (h : IsWritable entry) :
    entryOfJson mic
      (toString entry.1, .arr (entry.2.days.map fun day => .str day.isoText)) = .ok entry := by
  obtain ⟨n, hn, hdigits⟩ := h.numeral
  have hkey : toString entry.1 = toString n := by
    rw [hn]
    rfl
  have hyear : yearOfText (toString n) = .ok entry.1 := by
    rw [yearOfText, Text.readInteger_toString hdigits, hn]
  have hdays := mapM_map_eq_ok fun day (_ : day ∈ entry.2.days) =>
    Date.ofJson_eq_ok_iff.mpr ⟨_, rfl, day.ofIso_isoText⟩
  rw [hkey]
  exact entryOfJson_eq_ok_iff.mpr ⟨Text.isDigitText_toString n, hyear, _, entry.2.days, rfl, hdays,
    (DaySet.ofList_days _).symm, h.of_year⟩

theorem ofJson_toJson [Platform] {holidays : Holidays}
    (h : ∀ entry ∈ holidays.years, IsWritable entry) :
    ofJson mic holidays.toJson = .ok holidays :=
  bind_eq_ok_iff.mpr ⟨holidays.years,
    mapM_map_eq_ok fun entry hentry => (h entry hentry).entryOfJson_eq,
    pure_eq_ok_iff.mpr (ofEntries_years holidays)⟩

end Holidays

namespace Market

variable {zones : ZoneDatabase} {mic : String} {market : Market}

/-- The hours under a name, as a part of a draft. -/
def Part.ofOption {α : Type} : Option α → Part α
  | none => .absent
  | some value => .given value

/-- The draft that a market is put together from once more. -/
def draft (market : Market) : Draft where
  mic := .str market.mic
  name := .str market.name
  timezone := .str market.timezone
  hours := .given market.hours
  lunch := .ofOption market.lunch
  earlyCloses := market.earlyCloses

theorem checkLunch_lunch (market : Market) :
    checkLunch market.mic market.hours (.ofOption market.lunch) =
      .ok ⟨market.lunch, market.lunch_within⟩ := by
  obtain ⟨-, -, -, -, hours, lunch, -, -, hwithin, -⟩ := market
  cases lunch with
  | none => rfl
  | some lunch => simp [Part.ofOption, checkLunch, hwithin lunch rfl]

theorem exists_of_checkEarlyCloses {hours : Hours} {closes : List EarlyClose} {failure : Failure}
    (h : checkEarlyCloses mic hours closes = .error failure) :
    ∃ e ∈ closes, e.fits hours = false := by
  unfold checkEarlyCloses at h
  split at h
  · next e he => exact ⟨e, List.mem_of_find?_eq_some he, by simpa using List.find?_some he⟩
  · cases h

theorem checkEarlyCloses_earlyCloses (market : Market) :
    checkEarlyCloses market.mic market.hours market.earlyCloses = .ok ⟨market.earlyCloses_fit⟩ := by
  cases hcheck : checkEarlyCloses market.mic market.hours market.earlyCloses with
  | ok fit => rfl
  | error failure =>
    obtain ⟨e, he, hnot⟩ := exists_of_checkEarlyCloses hcheck
    exact absurd (market.earlyCloses_fit e he) (Bool.eq_false_iff.mp hnot)

/-- A market is put together again from its own parts. -/
theorem IsNamed.ofDraft_draft (h : IsNamed zones market) :
    ofDraft zones market.draft = .ok { market with holidays := .empty } := by
  have hmic : nonBlank (.str market.mic) "mic" = .ok market.mic :=
    nonBlank_eq_ok_iff.mpr ⟨rfl, h.mic_text⟩
  have hname : nonBlank (.str market.name) "name" = .ok market.name :=
    nonBlank_eq_ok_iff.mpr ⟨rfl, h.name_text⟩
  refine bind_eq_ok_iff.mpr ⟨_, hmic, ?_⟩
  refine bind_eq_ok_iff.mpr ⟨_, hname, ?_⟩
  refine bind_eq_ok_iff.mpr ⟨_, h.zone_eq, ?_⟩
  refine bind_eq_ok_iff.mpr ⟨_, checkLunch_lunch market, ?_⟩
  exact bind_eq_ok_iff.mpr ⟨_, checkEarlyCloses_earlyCloses market, rfl⟩

section

variable [Platform]

theorem isWritable_of_ofJson {entry : Json} {year : Int × DaySet}
    (h : ofJson zones mic entry = .ok market) (hyear : year ∈ market.holidays.years) :
    Holidays.IsWritable year := by
  obtain ⟨_, _, _, _, _, _, _, _, -, -, -, -, hholidays, -, -, -, rfl⟩ := ofJson_eq_ok_iff.mp h
  exact Holidays.isWritable_of_ofJson hholidays hyear

theorem sessionHours_of_member {sessions : List (String × Json)} {key label : String}
    {hours : Hours} (h : Json.member sessions key = hours.toJson) :
    sessionHours sessions key label mic = .ok (.given hours) := by
  have hbounds : Hours.ofBounds (Json.member [("open", .str hours.opening.text),
      ("close", .str hours.closing.text)] "open") (Json.member [("open", .str hours.opening.text),
      ("close", .str hours.closing.text)] "close") = .ok hours := hours.ofBounds_text
  unfold sessionHours
  rw [h, Hours.toJson]
  exact bind_eq_ok_iff.mpr ⟨hours, hbounds, rfl⟩

theorem sessionHours_regular (hours : Hours) (lunch : Json) (label : String) :
    sessionHours [("regular", hours.toJson), ("lunch_break", lunch)] "regular" label mic =
      .ok (.given hours) :=
  sessionHours_of_member rfl

theorem sessionHours_lunch (hours : Json) (lunch : Option Hours) (label : String) :
    sessionHours [("regular", hours), ("lunch_break", (lunch.map Hours.toJson).getD .null)]
      "lunch_break" label mic = .ok (.ofOption lunch) := by
  cases lunch with
  | none => rfl
  | some lunch => exact sessionHours_of_member rfl

theorem earlyCloseEntries_arr (items : List Json) :
    earlyCloseEntries (.arr items) mic = .ok items := by
  cases items <;> rfl

/-- Whatever the entry that a market was read from looked like, the market is written as an entry
that is read, under the same text for its identifier, as a market that is the same in every part. So
it is written in the same way again. -/
theorem toJson_is_read_back {entry : Json} (h : ofJson zones mic entry = .ok market) :
    ofJson zones mic market.toJson = .ok market := by
  obtain ⟨hmic, hnamed⟩ := isNamed_of_ofJson h
  have hholidays : Holidays.ofJson mic market.holidays.toJson = .ok market.holidays :=
    Holidays.ofJson_toJson fun _ => isWritable_of_ofJson h
  have hmade := hnamed.ofDraft_draft
  have hdraft : market.draft = { market.draft with mic := .str (Mic.normalize mic) } := by
    rw [← hmic]
    rfl
  rw [hdraft] at hmade
  refine ofJson_eq_ok_iff.mpr ⟨_, _, market.hours, market.earlyCloses.map EarlyClose.toJson,
    market.holidays, market.earlyCloses, .ofOption market.lunch, { market with holidays := .empty },
    rfl, by simp [Json.member, List.lookup_cons], sessionHours_regular .., ?_, ?_,
    mapM_map_eq_ok fun early _ => early.ofJson_toJson mic, sessionHours_lunch .., ?_, rfl⟩
  · simp [Json.member, List.lookup_cons, earlyCloseEntries_arr]
  · simpa [Json.member, List.lookup_cons] using hholidays
  · simpa [Json.member, List.lookup_cons, draft] using hmade

end

/-- The entry of a market in UTC whose years and dates are written in uncommon ways. -/
def uncommonEntry : Json :=
  .obj [("name", .str "Test"), ("timezone", .str "UTC"),
    ("sessions_hours", .obj [
      ("lunch_break", .obj [("close", .str "13:00"), ("open", .str "12:00")]),
      ("regular", .obj [("open", .str "09:00"), ("close", .str "16:00")])]),
    ("holidays", .obj [
      ("２０２７", .arr []),
      ("02026", .arr [.str "20261225", .str "2026-W01-4", .str "2026-12-25"])]),
    ("early_closes", .arr [.obj [("close", .str "12:30"), ("date", .str "2026W52")]])]

/-- The years come in order, and Christmas Day once; week 52 of the year 2026 begins on the 21st of
December. -/
theorem uncommonEntry_is_written_commonly :
    ∃ market, ofJson .standard " xtst" uncommonEntry = .ok market ∧
      (market.mic, market.holidays.years.map fun year => (year.1, year.2.days.map Date.isoText),
        market.earlyCloses.map fun early => early.day.isoText) =
        ("XTST", [(2026, ["2026-01-01", "2026-12-25"]), (2027, [])], ["2026-12-21"]) ∧
      ofJson .standard " xtst" market.toJson = .ok market := by
  have hread : (do
      let market ← ofJson .standard " xtst" uncommonEntry
      return (market.mic,
        market.holidays.years.map fun (year : Int × DaySet) =>
          (year.1, year.2.days.map Date.isoText),
        market.earlyCloses.map fun (early : EarlyClose) => early.day.isoText)) =
      .ok ("XTST", [(2026, ["2026-01-01", "2026-12-25"]), (2027, [])], ["2026-12-21"]) :=
    toOption_eq_some_iff.mp (by decide +kernel)
  obtain ⟨market, hmarket, hparts⟩ := bind_eq_ok_iff.mp hread
  exact ⟨market, hmarket, pure_eq_ok_iff.mp hparts, toJson_is_read_back hmarket⟩

end Market

end TradingStatus
