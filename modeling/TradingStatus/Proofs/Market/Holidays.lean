import TradingStatus.Platform.Standard
import TradingStatus.Proofs.Schedule.Agreement

/-! From the dates of a document to the days on which a market is closed. The members under the
holidays of a market are read in their order, and a name may write its year in more than one way: of
the members whose names write one year, the last one replaces the lists of the others. -/

namespace TradingStatus

theorem Date.ofJson_eq_ok_iff {value : Json} {day : Date} :
    ofJson value = .ok day ↔ ∃ text, value = .str text ∧ ofIso text = .ok day := by
  cases value with
  | str text =>
    cases h : ofIso text with
    | ok d => simp [ofJson, h]
    | error e => cases e <;> simp [ofJson, h]
  | _ => simp [ofJson]

namespace Holidays

variable {mic : String} {year : Int} {set : DaySet} {day : Date}

theorem find?_ofEntries (entries : List (Int × DaySet)) (year : Int) :
    (ofEntries entries).find? year = entries.reverse.lookup year := by
  -- The entries are written one by one, so what they say of the year goes before what was there.
  have hfold (holidays : Holidays) :
      (entries.foldl (fun holidays entry => holidays.set entry.1 entry.2) holidays).find? year =
        (entries.reverse.lookup year).or (holidays.find? year) := by
    induction entries generalizing holidays with
    | nil => rfl
    | cons entry entries ih =>
      obtain ⟨y, days⟩ := entry
      rw [List.foldl_cons, ih, find?_set, List.reverse_cons, List.lookup_append, Option.or_assoc]
      by_cases hy : year = y
      · simp [hy]
      · simp [hy, List.lookup_cons, beq_false_of_ne hy]
  exact (hfold empty).trans (Option.or_none ..)

/-- A member is read when it lists dates of the year that its name writes. -/
theorem entryOfJson_eq_ok_iff {key : String} {value : Json} :
    entryOfJson mic (key, value) = .ok (year, set) ↔
      Text.isDigitText key = true ∧ yearOfText key = .ok year ∧
        ∃ items days, value = .arr items ∧ items.mapM Date.ofJson = .ok days ∧
          set = .ofList days ∧ ∀ day ∈ days, day.year = year := by
  unfold entryOfJson
  cases hkey : Text.isDigitText key with
  | false => simp [hkey]
  | true =>
    cases value with
    | arr items =>
      simp only [hkey, Bool.not_true, Bool.false_eq_true, if_false, bind_eq_ok_iff, true_and]
      constructor
      · rintro ⟨y, hy, days, hdays, h⟩
        split at h
        · next hstray =>
          obtain ⟨rfl, rfl⟩ := Prod.mk.inj (pure_eq_ok_iff.mp h)
          refine ⟨hy, items, days, rfl, hdays, rfl, fun day hday => ?_⟩
          have := List.filter_eq_nil_iff.mp hstray day (DaySet.mem_ofList.mpr hday)
          simpa using this
        · cases h
      · rintro ⟨hy, items, days, ⟨⟩, hdays, rfl, hyear⟩
        have hstray : (DaySet.ofList days).filter (fun day => decide (day.year ≠ year)) = [] :=
          List.filter_eq_nil_iff.mpr fun day hday => by
            simpa using hyear day (DaySet.mem_ofList.mp hday)
        refine ⟨year, hy, days, hdays, ?_⟩
        simp only [hstray]
        rfl
    | _ => simp [hkey]

theorem mem_ofList_iff {items : List Json} {days : List Date}
    (h : items.mapM Date.ofJson = .ok days) :
    day ∈ (DaySet.ofList days).days ↔ ∃ text, .str text ∈ items ∧ Date.ofIso text = .ok day := by
  rw [DaySet.mem_ofList, mem_iff_of_mapM h]
  constructor
  · rintro ⟨value, hvalue, hday⟩
    obtain ⟨text, rfl, htext⟩ := Date.ofJson_eq_ok_iff.mp hday
    exact ⟨text, hvalue, htext⟩
  · rintro ⟨text, hvalue, htext⟩
    exact ⟨.str text, hvalue, Date.ofJson_eq_ok_iff.mpr ⟨text, rfl, htext⟩⟩

/-- The name of a member writes a year. -/
def writes (year : Int) (member : String × Json) : Bool :=
  (yearOfText member.1).toOption == some year

theorem writes_iff {member : String × Json} :
    writes year member = true ↔ yearOfText member.1 = .ok year := by
  rw [writes, beq_iff_eq, toOption_eq_some_iff]

/-- The last of the members whose names write a year. -/
def lastOf? (members : List (String × Json)) (year : Int) : Option (String × Json) :=
  members.reverse.find? (writes year)

theorem lastOf?_of_forall {members : List (String × Json)} {member : String × Json}
    (hmember : member ∈ members) (hwrites : yearOfText member.1 = .ok year)
    (honly : ∀ other ∈ members, yearOfText other.1 = .ok year → other = member) :
    lastOf? members year = some member := by
  cases hlast : lastOf? members year with
  | none =>
    have hnone := List.find?_eq_none.mp hlast member (List.mem_reverse.mpr hmember)
    exact absurd (writes_iff.mpr hwrites) hnone
  | some other =>
    have hother : other ∈ members := List.mem_reverse.mp (List.mem_of_find?_eq_some hlast)
    rw [honly other hother (writes_iff.mp (List.find?_some hlast))]

theorem lookup_eq_some_iff {members : List (String × Json)} {entries : List (Int × DaySet)}
    (h : List.Forall₂ (fun member entry => entryOfJson mic member = .ok entry) members entries) :
    entries.lookup year = some set ↔
      ∃ member, members.find? (writes year) = some member ∧
        entryOfJson mic member = .ok (year, set) := by
  induction h with
  | nil => simp
  | @cons member entry _ _ hentry _ ih =>
    obtain ⟨y, days⟩ := entry
    have hkey : yearOfText member.1 = .ok y := (entryOfJson_eq_ok_iff.mp hentry).2.1
    rw [List.lookup_cons, List.find?_cons]
    by_cases hy : year = y
    · subst hy
      simp [writes_iff.mpr hkey, hentry]
    · have hwrites : writes year member = false := by
        rw [← Bool.not_eq_true, writes_iff, hkey]
        exact fun heq => hy (Except.ok.inj heq).symm
      rw [beq_false_of_ne hy, hwrites]
      exact ih

/-- A day is a holiday of a document when the last member of its year lists it. -/
theorem includes_iff {members : List (String × Json)} {entries : List (Int × DaySet)}
    (h : members.mapM (entryOfJson mic) = .ok entries) :
    (ofEntries entries).includes day = true ↔
      ∃ key items text, lastOf? members day.year = some (key, .arr items) ∧
        .str text ∈ items ∧ Date.ofIso text = .ok day := by
  have hlookup (set : DaySet) : (ofEntries entries).find? day.year = some set ↔
      ∃ member, lastOf? members day.year = some member ∧
        entryOfJson mic member = .ok (day.year, set) := by
    rw [find?_ofEntries]
    exact lookup_eq_some_iff (List.forall₂_reverse_iff.mpr (mapM_eq_ok_iff.mp h))
  have hincludes : (ofEntries entries).includes day = true ↔
      ∃ set, (ofEntries entries).find? day.year = some set ∧ day ∈ set.days := by
    unfold includes
    cases (ofEntries entries).find? day.year <;> simp
  rw [hincludes]
  constructor
  · rintro ⟨set, hset, hday⟩
    obtain ⟨⟨key, value⟩, hlast, hentry⟩ := (hlookup set).mp hset
    obtain ⟨-, -, items, days, rfl, hdays, rfl, -⟩ := entryOfJson_eq_ok_iff.mp hentry
    obtain ⟨text, hmem, htext⟩ := (mem_ofList_iff hdays).mp hday
    exact ⟨key, items, text, hlast, hmem, htext⟩
  · rintro ⟨key, items, text, hlast, hmem, htext⟩
    -- Every member was read, the last one of the year too.
    obtain ⟨⟨year, set⟩, -, hentry⟩ :=
      exists_of_mem_of_mapM h (List.mem_reverse.mp (List.mem_of_find?_eq_some hlast))
    obtain ⟨-, hkey, _, days, ⟨⟩, hdays, rfl, -⟩ := entryOfJson_eq_ok_iff.mp hentry
    have hwrites := List.find?_some hlast
    rw [writes_iff, hkey] at hwrites
    obtain rfl := Except.ok.inj hwrites
    exact ⟨.ofList days, (hlookup _).mpr ⟨_, hlast, hentry⟩,
      (mem_ofList_iff hdays).mpr ⟨text, hmem, htext⟩⟩

theorem covers_of_includes {holidays : Holidays} (h : holidays.includes day = true) :
    holidays.covers day.year = true := by
  unfold includes at h
  unfold covers
  split at h
  · next hfind => rw [hfind]; rfl
  · cases h

end Holidays

namespace Market

variable {zones : ZoneDatabase} {mic key text : String} {members years : List (String × Json)}
  {items : List Json} {market : Market} {day : Date}

theorem verdictOn_of_isHoliday {w : WallClock} (h : market.isHoliday w.date = true) :
    market.verdictOn w = .closed := by
  have hcovers : market.covers w.date.year = true := Holidays.covers_of_includes h
  simp [verdictOn, tradesOn, hcovers, h]

section

variable [Platform]

/-- A market is read from an entry part by part, and put together from the parts. -/
theorem ofJson_eq_ok_iff {entry : Json} :
    ofJson zones mic entry = .ok market ↔
      ∃ members sessions hours entries holidays earlyCloses lunch made,
        entry = .obj members ∧ Json.member members "sessions_hours" = .obj sessions ∧
        sessionHours sessions "regular" "Regular" mic = .ok (.given hours) ∧
        earlyCloseEntries (Json.member members "early_closes") mic = .ok entries ∧
        Holidays.ofJson mic (Json.member members "holidays") = .ok holidays ∧
        entries.mapM (EarlyClose.ofJson · mic) = .ok earlyCloses ∧
        sessionHours sessions "lunch_break" "Lunch_break" mic = .ok lunch ∧
        ofDraft zones {
          mic := .str (Mic.normalize mic)
          name := Json.member members "name"
          timezone := Json.member members "timezone"
          hours := .given hours
          lunch, earlyCloses } = .ok made ∧
        { made with holidays } = market := by
  constructor
  · intro h
    unfold ofJson at h
    split at h
    · next members =>
      split at h
      · next sessions hsessions =>
        obtain ⟨hours, hhours, h⟩ := bind_eq_ok_iff.mp h
        cases hours with
        | given hours =>
          obtain ⟨entries, hentries, h⟩ := bind_eq_ok_iff.mp h
          obtain ⟨holidays, hholidays, h⟩ := bind_eq_ok_iff.mp h
          obtain ⟨earlyCloses, hcloses, h⟩ := bind_eq_ok_iff.mp h
          obtain ⟨lunch, hlunch, h⟩ := bind_eq_ok_iff.mp h
          obtain ⟨made, hmade, h⟩ := bind_eq_ok_iff.mp h
          exact ⟨members, sessions, hours, entries, holidays, earlyCloses, lunch, made, rfl,
            hsessions, hhours, hentries, hholidays, hcloses, hlunch, hmade, pure_eq_ok_iff.mp h⟩
        | _ => cases h
      · cases h
    · cases h
  · rintro ⟨members, sessions, hours, entries, holidays, earlyCloses, lunch, made, rfl, hsessions,
      hhours, hentries, hholidays, hcloses, hlunch, hmade, rfl⟩
    simp only [ofJson, hsessions, hhours, hentries, hholidays, hcloses, hlunch, hmade, bind,
      Except.bind, pure, Except.pure]

theorem holidays_of_ofJson (h : ofJson zones mic (.obj members) = .ok market) :
    Holidays.ofJson mic (Json.member members "holidays") = .ok market.holidays := by
  obtain ⟨_, _, _, _, _, _, _, _, ⟨⟩, -, -, -, hholidays, -, -, -, rfl⟩ := ofJson_eq_ok_iff.mp h
  exact hholidays

theorem exists_entries (hmarket : ofJson zones mic (.obj members) = .ok market)
    (hyears : Json.member members "holidays" = .obj years) :
    ∃ entries, years.mapM (Holidays.entryOfJson mic) = .ok entries ∧
      market.holidays = .ofEntries entries := by
  have hholidays := holidays_of_ofJson hmarket
  rw [hyears] at hholidays
  obtain ⟨entries, hentries, hmade⟩ := bind_eq_ok_iff.mp hholidays
  exact ⟨entries, hentries, (pure_eq_ok_iff.mp hmade).symm⟩

theorem isHoliday_iff (hmarket : ofJson zones mic (.obj members) = .ok market)
    (hyears : Json.member members "holidays" = .obj years) :
    market.isHoliday day = true ↔
      ∃ key items text, Holidays.lastOf? years day.year = some (key, .arr items) ∧
        .str text ∈ items ∧ Date.ofIso text = .ok day := by
  obtain ⟨entries, hentries, hmade⟩ := exists_entries hmarket hyears
  rw [isHoliday, hmade, Holidays.includes_iff hentries]

/-- Every date that a document lists among the holidays is a day of the year under whose name it is
listed. It is a holiday of the market exactly when the last member whose name writes that year lists
it, in whatever form of a date. So it is when no other member writes the year, and then the market is
closed as long as its wall clocks show the day. -/
theorem listed_isHoliday_iff (hmarket : ofJson zones mic (.obj members) = .ok market)
    (hyears : Json.member members "holidays" = .obj years) (hlisted : (key, .arr items) ∈ years)
    (htext : .str text ∈ items) :
    ∃ day, Date.ofIso text = .ok day ∧ Holidays.yearOfText key = .ok day.year ∧
      (market.isHoliday day = true ↔
        ∃ last list form, Holidays.lastOf? years day.year = some (last, .arr list) ∧
          .str form ∈ list ∧ Date.ofIso form = .ok day) ∧
      ((∀ member ∈ years, Holidays.yearOfText member.1 = .ok day.year →
          member = (key, .arr items)) → market.isHoliday day = true) ∧
      (market.isHoliday day = true → ∀ schedule : Schedule, ∀ sought clock t w,
        schedule.calendar.get sought = .ok market → clock.instant? = some t →
        market.zone.wallClock t = .ok w → w.date = day →
        schedule.verdict sought (some clock) = .ok .closed) := by
  obtain ⟨entries, hentries, -⟩ := exists_entries hmarket hyears
  obtain ⟨⟨year, set⟩, -, hentry⟩ := exists_of_mem_of_mapM hentries hlisted
  obtain ⟨-, hkey, _, days, ⟨⟩, hdays, -, hyear⟩ := Holidays.entryOfJson_eq_ok_iff.mp hentry
  obtain ⟨day, hmem, hday⟩ := exists_of_mem_of_mapM hdays htext
  obtain ⟨_, ⟨⟩, hday⟩ := Date.ofJson_eq_ok_iff.mp hday
  obtain rfl := hyear day hmem
  refine ⟨day, hday, hkey, isHoliday_iff hmarket hyears, fun honly => ?_, ?_⟩
  · have hlast := Holidays.lastOf?_of_forall hlisted hkey honly
    exact (isHoliday_iff hmarket hyears).mpr ⟨key, items, text, hlast, htext, hday⟩
  · rintro hholiday schedule sought clock t w hget hclock hw rfl
    rw [Schedule.verdict_eq hget hclock, verdict, hw]
    exact congrArg Except.ok (verdictOn_of_isHoliday hholiday)

end

/-- The members of the document of a market in UTC with holidays by year. -/
def utcMembers (years : List (String × Json)) : List (String × Json) :=
  [("name", .str "Test"), ("timezone", .str "UTC"),
    ("sessions_hours", .obj [("regular", .obj [("open", .str "09:00"), ("close", .str "16:00")])]),
    ("holidays", .obj years)]

/-- The first of January 2026 is the fourth day of a week; so it is listed here, and the market is
closed at noon. -/
theorem newYear_isHoliday :
    ∃ market, ofJson .standard "XTST" (.obj (utcMembers [("02026", .arr [.str "2026-W01-4"])])) =
        .ok market ∧
      market.isHoliday ⟨20454, by decide, by decide⟩ = true ∧
      (⟨⟨[market], by simp, by simp⟩, 14, by decide⟩ : Schedule).verdict market.mic
        (some (.utc ⟨1767268800000000, by decide, by decide⟩)) = .ok .closed := by
  have hread : (do
      let market ← ofJson .standard "XTST" (.obj (utcMembers [("02026", .arr [.str "2026-W01-4"])]))
      market.zone.wallClock ⟨1767268800000000⟩) =
        .ok ⟨⟨20454, by decide, by decide⟩, 720, by decide⟩ :=
    toOption_eq_some_iff.mp (by decide +kernel)
  obtain ⟨market, hmarket, hw⟩ := bind_eq_ok_iff.mp hread
  obtain ⟨day, hday, -, -, hkept, hclosed⟩ :=
    listed_isHoliday_iff hmarket rfl List.mem_cons_self List.mem_cons_self
  have hnewYear : Date.ofIso "2026-W01-4" = .ok ⟨20454, by decide, by decide⟩ :=
    toOption_eq_some_iff.mp (by decide +kernel)
  obtain rfl := Except.ok.inj (hday.symm.trans hnewYear)
  have hholiday := hkept fun member hmember _ => List.mem_singleton.mp hmember
  have hget : Calendar.get ⟨[market], by simp, by simp⟩ market.mic = .ok market := by
    simp [Calendar.get, Calendar.find?]
  exact ⟨market, hmarket, hholiday, hclosed hholiday ⟨_, 14, by decide⟩ _ _ _ _ hget rfl hw rfl⟩

/-- Two members write the year 2026. Christmas Day is listed in the first of them only and is no
holiday of the market, which is open at noon. -/
theorem listed_not_isHoliday :
    Date.ofIso "2026-12-25" = .ok ⟨20812, by decide, by decide⟩ ∧
    ∃ market, ofJson .standard "XTST" (.obj (utcMembers
        [("2026", .arr [.str "2026-12-25"]), ("02026", .arr [.str "2026-01-01"])])) = .ok market ∧
      market.isHoliday ⟨20812, by decide, by decide⟩ = false ∧
      market.verdict ⟨1798200000000000⟩ = .ok .opened := by
  have hday : Date.ofIso "2026-12-25" = .ok ⟨20812, by decide, by decide⟩ :=
    toOption_eq_some_iff.mp (by decide +kernel)
  generalize hentry : utcMembers
    [("2026", .arr [.str "2026-12-25"]), ("02026", .arr [.str "2026-01-01"])] = entry
  have h : (do
      let market ← ofJson .standard "XTST" (.obj entry)
      return (market.isHoliday ⟨20812, by decide, by decide⟩,
        ← market.verdict ⟨1798200000000000⟩)) = .ok (false, .opened) := by
    subst hentry
    exact toOption_eq_some_iff.mp (by decide +kernel)
  obtain ⟨market, hmarket, h⟩ := bind_eq_ok_iff.mp h
  obtain ⟨verdict, hverdict, h⟩ := bind_eq_ok_iff.mp h
  obtain ⟨hholiday, rfl⟩ := Prod.mk.inj (pure_eq_ok_iff.mp h)
  exact ⟨hday, market, hmarket, hholiday, hverdict⟩

end Market

end TradingStatus
