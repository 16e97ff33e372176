import TradingStatus.Proofs.Json.Depth
import TradingStatus.Proofs.Time.CivilDates
import TradingStatus.Settings.Installation

/-! Documents that are refused. Whatever keeps a document from being read as a calendar is a fault
of the document or of the file that it is in; so a run that has no calendar ends for that reason,
unless the document is beyond what can be read at all. -/

namespace TradingStatus

/-- Whatever a computation fails with is put down to the document of the calendar. -/
abbrev BlamesDocument {α : Type} (x : Except Failure α) : Prop :=
  FailsOnlyWith (fun failure => Installation.blamesDocument failure = true) x

/-- The document is beyond what can be read: it goes deeper than the platform does, or half of a
pair stands alone in a text of it, which no text can hold here. It may well be a document all the
same. -/
def Failure.isBeyondReading : Failure → Bool
  | .document (.tooDeep _) | .document .unpaired => true
  | _ => false

theorem blamesDocument_showing [Platform] {α : Type} {value : Json} {failure : Failure}
    (hvalue : value.CanShow Platform.showingDepth)
    (hfailure : Installation.blamesDocument failure = true) :
    BlamesDocument (.error (.showing value failure) : Except Failure α) := by
  rw [Failure.showing_of_canShow hvalue]
  exact .error hfailure

/-! Dates -/

namespace Date

/-- Numbers of a few digits are not too far from zero. -/
theorem ofCivil_ne_size {year month day : Nat} (hyear : year < 10000) (hmonth : month < 100)
    (hday : day < 100) (excess : Excess) : ofCivil year month day ≠ .error (.size excess) := by
  have hfirst : Excess.first? [(year : Int), month, day] = none := by
    refine Excess.first?_eq_none fun n hn => ?_
    simp only [List.mem_cons, List.not_mem_nil, or_false] at hn
    omega
  unfold ofCivil
  rw [hfirst]
  intro h
  simp only at h
  split at h
  · cases h
  · split at h
    · cases h
    · split at h
      · cases h
      · split at h <;> cases h

/-- No text is refused as a date for the size of its numbers. -/
abbrev KeepsSize (x : Except DateTextError Date) : Prop :=
  FailsOnlyWith (fun error => ∀ excess, error ≠ .noDate (.size excess)) x

theorem keepsSize_ofNumbers {year month day : Nat} (hyear : year < 10000) (hmonth : month < 100)
    (hday : day < 100) : KeepsSize (ofNumbers year month day) := by
  have hsize := ofCivil_ne_size hyear hmonth hday
  unfold ofNumbers
  cases hdate : ofCivil year month day with
  | ok date => exact .ok date
  | error error =>
    refine .error fun excess h => hsize excess ?_
    rw [hdate, DateTextError.noDate.inj h]

theorem keepsSize_ofWeek (year week day : Nat) : KeepsSize (ofWeek year week day) := by
  unfold ofWeek
  generalize (if year ≠ 0 ∧ hasLongCalendar year then 53 else 52) = weeks
  simp only
  split
  · exact .error (by simp)
  · split
    · exact .error (by simp)
    · split
      · exact .ok _
      · exact .error (by simp)

/-- Reading a number of so many digits, and going on with it. -/
theorem keepsSize_number {cs : List Char} {use : Nat → Except DateTextError Date}
    (huse : ∀ n, n < tenTo cs.length → KeepsSize (use n)) :
    KeepsSize (match Text.asciiNat? cs with
      | some n => use n
      | none => .error .malformed) := by
  split
  · next n hn => exact huse n (Text.asciiNat?_lt hn)
  · exact .error (by simp)

theorem keepsSize_ofIsoRest {year : Nat} (hyear : year < 10000) (hyphens : Bool) (cs : List Char) :
    KeepsSize (ofIsoRest hyphens year cs) := by
  unfold ofIsoRest
  split
  · exact keepsSize_number fun week _ => keepsSize_ofWeek year week 1
  · exact keepsSize_number fun week _ => keepsSize_number fun day _ =>
      keepsSize_ofWeek year week day
  · exact keepsSize_number fun week _ => keepsSize_number fun day _ =>
      keepsSize_ofWeek year week day
  · exact keepsSize_number fun month hmonth => keepsSize_number fun day hday =>
      keepsSize_ofNumbers hyear hmonth hday
  · exact keepsSize_number fun month hmonth => keepsSize_number fun day hday =>
      keepsSize_ofNumbers hyear hmonth hday
  · exact .error (by simp)

theorem keepsSize_ofIso (text : String) : KeepsSize (ofIso text) := by
  unfold ofIso
  split
  · exact .error (by simp)
  · split
    · split
      · exact .error (by simp)
      · next year hyear =>
        have hyear : year < 10000 := by simpa [tenTo] using Text.asciiNat?_lt hyear
        split
        · exact keepsSize_ofIsoRest hyear true _
        · exact keepsSize_ofIsoRest hyear false _
    · exact .error (by simp)

theorem blamesDocument_ofJson (value : Json) : BlamesDocument (ofJson value) := by
  cases value with
  | str text =>
    have hsize := keepsSize_ofIso text
    simp only [ofJson]
    cases hdate : ofIso text with
    | ok date => exact .ok date
    | error error =>
      cases error with
      | malformed => exact .error rfl
      | noDate error =>
        cases error with
        | size excess => exact absurd rfl (hsize _ hdate excess)
        | year value => exact .error rfl
        | month => exact .error rfl
        | day => exact .error rfl
  | _ => exact .error rfl

end Date

/-! Hours -/

namespace Hours

theorem blamesDocument_time (value : Json) (field : String) :
    BlamesDocument (ClockTime.ofJson value field) := by
  cases value with
  | str text =>
    simp only [ClockTime.ofJson, ClockTime.ofText]
    split
    · exact .error rfl
    · split
      · exact .ok _
      · exact .error rfl
  | _ => exact .error rfl

theorem blamesDocument_ofBounds (opening closing : Json) :
    BlamesDocument (ofBounds opening closing) := by
  unfold ofBounds
  refine (blamesDocument_time opening _).bind fun opening _ => ?_
  refine (blamesDocument_time closing _).bind fun closing _ => ?_
  unfold between
  split
  · exact .ok _
  · exact .error rfl

end Hours

theorem EarlyClose.blamesDocument_ofJson [Platform] {entry : Json} (mic : String)
    (hentry : entry.CanShow Platform.showingDepth) : BlamesDocument (ofJson entry mic) := by
  unfold ofJson
  split
  · split
    · refine (Date.blamesDocument_ofJson _).bind fun day _ => ?_
      exact (Hours.blamesDocument_time _ _).bind fun closing _ => .ok _
    · exact blamesDocument_showing (Json.canShow_member hentry _) rfl
  · exact blamesDocument_showing hentry rfl

/-! Holidays -/

namespace Holidays

theorem blamesDocument_yearOfText (text : String) : BlamesDocument (yearOfText text) := by
  unfold yearOfText
  split
  · exact .ok _
  · exact .error rfl

theorem blamesDocument_entryOfJson (mic : String) (member : String × Json) :
    BlamesDocument (entryOfJson mic member) := by
  obtain ⟨key, value⟩ := member
  simp only [entryOfJson]
  split
  · exact .error rfl
  · split
    · refine (blamesDocument_yearOfText _).bind fun year _ => ?_
      refine (FailsOnlyWith.mapM fun day _ => Date.blamesDocument_ofJson day).bind fun days _ => ?_
      split
      · exact .ok _
      · exact .error rfl
    · exact .error rfl

theorem blamesDocument_ofJson [Platform] (mic : String) {value : Json}
    (hvalue : value.CanShow Platform.showingDepth) : BlamesDocument (ofJson mic value) := by
  unfold ofJson
  split
  · exact .ok _
  · exact (FailsOnlyWith.mapM fun member _ => blamesDocument_entryOfJson mic member).bind
      fun entries _ => .ok _
  · exact blamesDocument_showing hvalue rfl

end Holidays

/-! Markets -/

namespace Market

theorem blamesDocument_nonBlank (value : Json) (field : String) :
    BlamesDocument (nonBlank value field) := by
  unfold nonBlank
  split
  · split
    · exact .error rfl
    · exact .ok _
  · exact .error rfl

theorem blamesDocument_zoneOf (zones : ZoneDatabase) (value : Json) :
    BlamesDocument (zoneOf zones value) := by
  unfold zoneOf
  split
  · split
    · exact .error rfl
    · split
      · exact .ok _
      · exact .error rfl
  · exact .error rfl

theorem blamesDocument_checkLunch (mic : String) (hours : Hours) (lunch : Part Hours) :
    BlamesDocument (checkLunch mic hours lunch) := by
  unfold checkLunch
  split
  · exact .ok _
  · exact .error rfl
  · split
    · exact .ok _
    · exact .error rfl

theorem blamesDocument_checkEarlyCloses (mic : String) (hours : Hours) (closes : List EarlyClose) :
    BlamesDocument (checkEarlyCloses mic hours closes) := by
  unfold checkEarlyCloses
  split
  · exact .error rfl
  · exact .ok _

theorem blamesDocument_ofDraft (zones : ZoneDatabase) (draft : Draft) :
    BlamesDocument (ofDraft zones draft) := by
  unfold ofDraft
  refine (blamesDocument_nonBlank _ _).bind fun mic _ => ?_
  refine (blamesDocument_nonBlank _ _).bind fun name _ => ?_
  refine (blamesDocument_zoneOf zones _).bind fun zone _ => ?_
  simp only
  split
  · refine (blamesDocument_checkLunch mic _ _).bind fun lunch _ => ?_
    exact (blamesDocument_checkEarlyCloses mic _ _).bind fun fit _ => .ok _
  · exact .error rfl

section

variable [Platform]

theorem blamesDocument_sessionHours {sessions : List (String × Json)} (key label mic : String)
    (hsessions : (Json.obj sessions).CanShow Platform.showingDepth) :
    BlamesDocument (sessionHours sessions key label mic) := by
  unfold sessionHours
  split
  · exact .ok _
  · exact (Hours.blamesDocument_ofBounds _ _).bind fun hours _ => .ok _
  · exact blamesDocument_showing (Json.canShow_member hsessions key) rfl

theorem blamesDocument_earlyCloseEntries {value : Json} (mic : String)
    (hvalue : value.CanShow Platform.showingDepth) :
    BlamesDocument (earlyCloseEntries value mic) := by
  unfold earlyCloseEntries
  split
  · exact .ok _
  · split
    · exact .ok _
    · exact blamesDocument_showing hvalue rfl

/-- The early closes of a document can be shown with it. -/
theorem canShow_of_earlyCloseEntries {value entry : Json} {entries : List Json} {mic : String}
    (h : earlyCloseEntries value mic = .ok entries)
    (hvalue : value.CanShow Platform.showingDepth) (hentry : entry ∈ entries) :
    entry.CanShow Platform.showingDepth := by
  unfold earlyCloseEntries at h
  split at h
  · obtain rfl := Except.ok.inj h
    exact absurd hentry List.not_mem_nil
  · split at h
    · obtain rfl := Except.ok.inj h
      exact Json.canShow_of_mem_arr hvalue hentry
    · cases h

theorem blamesDocument_ofJson (zones : ZoneDatabase) (mic : String) {entry : Json}
    (hentry : entry.CanShow Platform.showingDepth) : BlamesDocument (ofJson zones mic entry) := by
  unfold ofJson
  split
  · next members =>
    have hmember := Json.canShow_member hentry
    split
    · next sessions hsessions =>
      have hshown : (Json.obj sessions).CanShow Platform.showingDepth := hsessions ▸ hmember _
      refine (blamesDocument_sessionHours _ _ mic hshown).bind fun hours _ => ?_
      split
      · refine (blamesDocument_earlyCloseEntries mic (hmember _)).bind fun entries hentries => ?_
        refine (Holidays.blamesDocument_ofJson mic (hmember _)).bind fun holidays _ => ?_
        have hcloses := FailsOnlyWith.mapM fun early hearly =>
          EarlyClose.blamesDocument_ofJson mic
            (canShow_of_earlyCloseEntries hentries (hmember _) hearly)
        refine hcloses.bind fun earlyCloses _ => ?_
        refine (blamesDocument_sessionHours _ _ mic hshown).bind fun lunch _ => ?_
        exact (blamesDocument_ofDraft zones _).bind fun market _ => .ok _
      · exact .error rfl
    · exact blamesDocument_showing (hmember _) rfl
  · exact blamesDocument_showing hentry rfl

end

end Market

/-! Files -/

namespace Files

/-- What can keep a document from being read. -/
inductive Trouble : Failure → Prop
  | pathAbsent : Trouble .pathAbsent
  | missing (path : String) : Trouble (.fileMissing path)
  | directory (path : String) : Trouble (.isDirectory path)
  | encoding (error : Text.Utf8.Error) : Trouble (.encoding error)
  | document (error : Json.ReadError) : Trouble (.document error)

/-- Whatever keeps a document from being read is put down to its file, unless the document is beyond
reading. -/
theorem Trouble.blamed_or_beyond {failure : Failure} (h : Trouble failure) :
    Installation.blamesDocument failure = true ∨ failure.isBeyondReading = true := by
  cases h with
  | document error =>
    cases error with
    | malformed => exact .inl rfl
    | tooLong => exact .inl rfl
    | tooDeep => exact .inr rfl
    | unpaired => exact .inr rfl
  | _ => exact .inl rfl

variable [Platform] {files : Files} {path : Option String}

theorem trouble_of_loadStrict (files : Files) (path : Option String) :
    FailsOnlyWith Trouble (files.loadStrict path) := by
  unfold loadStrict
  split
  · exact .error .pathAbsent
  · refine FailsOnlyWith.bind ?_ fun bytes _ => ?_
    · unfold read
      split
      · exact .ok _
      · exact .error (.directory _)
      · exact .error (.missing _)
    · unfold documentOf
      split
      · exact .error (.encoding _)
      · split
        · exact .error (.document _)
        · exact .ok _

/-- What was read from a file can be shown. -/
theorem canShow_of_loadStrict {document : Json} (h : files.loadStrict path = .ok document) :
    document.CanShow Platform.showingDepth := by
  unfold loadStrict at h
  split at h
  · cases h
  · obtain ⟨bytes, -, h⟩ := bind_eq_ok_iff.mp h
    unfold documentOf at h
    split at h
    · cases h
    · split at h
      · cases h
      · next hload =>
        obtain rfl := Except.ok.inj h
        exact Json.canShow_of_load hload

end Files

/-! Calendars -/

namespace Calendar

theorem blamesDocument_collect {markets : List (Except Failure Market)}
    (hmarkets : ∀ market ∈ markets, BlamesDocument market) : BlamesDocument (collect markets) := by
  have hadd (found : Distinct) (market : Market) : BlamesDocument (add found market) := by
    unfold add
    split
    · exact .error rfl
    · exact .ok _
  unfold collect
  refine (FailsOnlyWith.foldlM (fun found market hmem =>
    (hmarkets market hmem).bind fun made _ => hadd found made) _).bind fun found _ => ?_
  split
  · exact .error rfl
  · exact .ok _

variable [Platform]

theorem blamesDocument_ofJson (zones : ZoneDatabase) {value : Json}
    (hvalue : value.CanShow Platform.showingDepth) : BlamesDocument (ofJson zones value) := by
  unfold ofJson
  split
  · exact .error rfl
  · refine blamesDocument_collect fun market hmem => ?_
    obtain ⟨⟨mic, entry⟩, hentry, rfl⟩ := List.mem_map.mp hmem
    exact Market.blamesDocument_ofJson zones mic (Json.canShow_of_mem_obj hvalue hentry)
  · exact blamesDocument_showing hvalue rfl

theorem blamed_or_beyond_of_load (zones : ZoneDatabase) (files : Files) (path : Option String) :
    FailsOnlyWith (fun failure => Installation.blamesDocument failure = true ∨
      files.loadStrict path = .error failure ∧ failure.isBeyondReading = true)
      (load zones files path).value := by
  intro failure h
  have hread : files.loadStrict path >>= ofJson zones = .error failure := by
    unfold load at h
    split at h
    · next cause hcause =>
      obtain rfl := Except.error.inj h
      exact hcause
    · cases h
  rcases bind_eq_error_iff.mp hread with hstrict | ⟨document, hdocument, hrefused⟩
  · exact (files.trouble_of_loadStrict path failure hstrict).blamed_or_beyond.imp_right
      fun hbeyond => ⟨hstrict, hbeyond⟩
  · exact .inl (blamesDocument_ofJson zones (Files.canShow_of_loadStrict hdocument) failure hrefused)

end Calendar

namespace Installation

/-- What is beyond reading is put down to nothing. -/
theorem blamesDocument_of_isBeyondReading {failure : Failure}
    (h : failure.isBeyondReading = true) : blamesDocument failure = false := by
  unfold Failure.isBeyondReading at h
  split at h
  · rfl
  · rfl
  · cases h

end Installation

end TradingStatus
