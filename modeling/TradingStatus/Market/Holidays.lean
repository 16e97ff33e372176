import TradingStatus.Market.EarlyClose
import TradingStatus.Text.Numeral

/-! Holidays by year. A year without an entry is not known to have no holidays: nobody has looked.
Years and days are kept in order and without repetition, so two tables with the same entries are the
same table. -/

namespace TradingStatus

/-- Days in order, each of them once. -/
structure DaySet where
  days : List Date
  sorted : days.Pairwise (· < ·)
deriving DecidableEq

namespace DaySet

/-- Days in order, with one more. -/
def insertDay (day : Date) : List Date → List Date
  | [] => [day]
  | d :: rest =>
    if day < d then day :: d :: rest
    else if day = d then d :: rest
    else d :: insertDay day rest

theorem mem_insertDay {day d : Date} {days : List Date} :
    d ∈ insertDay day days ↔ d = day ∨ d ∈ days := by
  induction days with
  | nil => simp [insertDay]
  | cons e rest ih =>
    unfold insertDay
    split
    · simp
    · split
      · next h => subst h; simp
      · simp only [List.mem_cons, ih]; grind

theorem sorted_insertDay (day : Date) {days : List Date} (h : days.Pairwise (· < ·)) :
    (insertDay day days).Pairwise (· < ·) := by
  induction days with
  | nil => simp [insertDay]
  | cons e rest ih =>
    have ⟨he, hr⟩ := List.pairwise_cons.mp h
    unfold insertDay
    split
    · next hlt =>
      refine List.pairwise_cons.mpr ⟨fun d hd => ?_, h⟩
      rcases List.mem_cons.mp hd with rfl | hd
      · exact hlt
      · exact Int.lt_trans hlt (he d hd)
    · split
      · exact h
      · next hlt hne =>
        refine List.pairwise_cons.mpr ⟨fun d hd => ?_, ih hr⟩
        rcases mem_insertDay.mp hd with rfl | hd
        · have h1 : ¬d.dayNumber < e.dayNumber := hlt
          have h2 : d.dayNumber ≠ e.dayNumber := fun h => hne (Date.ext h)
          change e.dayNumber < d.dayNumber
          omega
        · exact he d hd

/-- No days. -/
def empty : DaySet := ⟨[], .nil⟩

/-- The days with one more. -/
def insert (set : DaySet) (day : Date) : DaySet :=
  ⟨insertDay day set.days, sorted_insertDay day set.sorted⟩

/-- The days of a list. -/
def ofList (days : List Date) : DaySet := days.foldl insert empty

/-- The days that pass a test. -/
def filter (set : DaySet) (test : Date → Bool) : List Date := set.days.filter test

theorem mem_foldl_insert {d : Date} (days : List Date) (set : DaySet) :
    d ∈ (days.foldl insert set).days ↔ d ∈ days ∨ d ∈ set.days := by
  induction days generalizing set with
  | nil => simp
  | cons e rest ih => simp only [List.foldl_cons, ih, insert, mem_insertDay, List.mem_cons]; grind

theorem mem_ofList {d : Date} {days : List Date} : d ∈ (ofList days).days ↔ d ∈ days := by
  simp [ofList, mem_foldl_insert, empty]

end DaySet

/-- The holidays of the years that have been looked at. -/
structure Holidays where
  years : List (Int × DaySet)
  sorted : years.Pairwise (·.1 < ·.1)
deriving DecidableEq

namespace Holidays

/-- Years in order, with the entry of one of them replaced. -/
def setYear (year : Int) (days : DaySet) : List (Int × DaySet) → List (Int × DaySet)
  | [] => [(year, days)]
  | (y, d) :: rest =>
    if year < y then (year, days) :: (y, d) :: rest
    else if year = y then (year, days) :: rest
    else (y, d) :: setYear year days rest

theorem fst_of_mem_setYear {year : Int} {days : DaySet} {years : List (Int × DaySet)}
    {entry : Int × DaySet} (h : entry ∈ setYear year days years) :
    entry.1 = year ∨ entry ∈ years := by
  induction years with
  | nil => simp_all [setYear]
  | cons e rest ih => unfold setYear at h; grind

theorem sorted_setYear (year : Int) (days : DaySet) {years : List (Int × DaySet)}
    (h : years.Pairwise (·.1 < ·.1)) : (setYear year days years).Pairwise (·.1 < ·.1) := by
  induction years with
  | nil => simp [setYear]
  | cons e rest ih =>
    obtain ⟨y, d⟩ := e
    have ⟨he, hr⟩ := List.pairwise_cons.mp h
    unfold setYear
    split
    · next hlt =>
      refine List.pairwise_cons.mpr ⟨fun entry hd => ?_, h⟩
      rcases List.mem_cons.mp hd with rfl | hd
      · exact hlt
      · exact Int.lt_trans hlt (he entry hd)
    · split
      · next heq => subst heq; exact List.pairwise_cons.mpr ⟨he, hr⟩
      · next hlt hne =>
        refine List.pairwise_cons.mpr ⟨fun entry hd => ?_, ih hr⟩
        rcases fst_of_mem_setYear hd with heq | hd
        · simp only [heq]; omega
        · exact he entry hd

/-- No year has been looked at. -/
def empty : Holidays := ⟨[], .nil⟩

/-- The table with the holidays of a year replaced. -/
def set (holidays : Holidays) (year : Int) (days : DaySet) : Holidays :=
  ⟨setYear year days holidays.years, sorted_setYear year days holidays.sorted⟩

/-- The holidays of a year, if it has been looked at. -/
def find? (holidays : Holidays) (year : Int) : Option DaySet := holidays.years.lookup year

/-- The holidays of a year have been looked at. -/
def covers (holidays : Holidays) (year : Int) : Bool := (holidays.find? year).isSome

/-- A day is a holiday of its year. -/
def includes (holidays : Holidays) (day : Date) : Bool :=
  match holidays.find? day.year with
  | some set => set.days.contains day
  | none => false

theorem lookup_setYear (year y : Int) (days : DaySet) (years : List (Int × DaySet)) :
    (setYear year days years).lookup y = if y = year then some days else years.lookup y := by
  induction years with
  | nil => by_cases hy : y = year <;> simp [setYear, List.lookup_cons, hy, beq_false_of_ne]
  | cons e rest ih =>
    obtain ⟨z, d⟩ := e
    unfold setYear
    split
    · by_cases hy : y = year <;> simp [List.lookup_cons, hy, beq_false_of_ne]
    · split
      · rename_i heq
        subst heq
        by_cases hy : y = year <;> simp [List.lookup_cons, hy, beq_false_of_ne]
      · rename_i hne
        rw [List.lookup_cons, List.lookup_cons, ih]
        by_cases hz : y = z
        · subst hz
          simp [Ne.symm hne]
        · simp [beq_false_of_ne hz]

/-- The entry last written for a year is the one that counts. -/
theorem find?_set (holidays : Holidays) (year y : Int) (days : DaySet) :
    (holidays.set year days).find? y = if y = year then some days else holidays.find? y :=
  lookup_setYear year y days holidays.years

/-- The table of the entries of a list, in which the last entry of a year counts. -/
def ofEntries (entries : List (Int × DaySet)) : Holidays :=
  entries.foldl (fun holidays (year, days) => holidays.set year days) empty

/-- The year that a text writes. -/
def yearOfText (text : String) : Except Failure Int :=
  match Text.readInteger text with
  | .ok year => .ok year
  | .error error => .error (.numeral text error)

/-- The table whose years are written as texts. -/
def ofYearTexts (entries : List (String × List Date)) : Except Failure Holidays :=
  return ofEntries (← entries.mapM fun (text, days) => return (← yearOfText text, .ofList days))

/-- One entry of a document: a year in digits, with a list of dates of that year. -/
def entryOfJson (mic : String) (member : String × Json) : Except Failure (Int × DaySet) :=
  let (key, value) := member
  if !Text.isDigitText key then .error (.holidayYear mic key)
  else
    match value with
    | .arr items => do
      let year ← yearOfText key
      let days := DaySet.ofList (← items.mapM Date.ofJson)
      match days.filter fun day => day.year ≠ year with
      | [] => return (year, days)
      | stray => throw (.holidayStray mic year stray)
    | _ => .error (.holidayDates mic key)

/-- The table of a document. -/
def ofJson [Platform] (mic : String) (value : Json) : Except Failure Holidays :=
  match value with
  | .null => .ok empty
  | .obj members => return ofEntries (← members.mapM (entryOfJson mic))
  | value => .error (.showing value (.marketHolidays mic value))

def toJson (holidays : Holidays) : Json :=
  .obj (holidays.years.map fun (year, set) =>
    (toString year, .arr (set.days.map fun day => .str day.isoText)))

end Holidays

end TradingStatus
