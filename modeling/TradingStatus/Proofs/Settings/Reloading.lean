import TradingStatus.Platform.Standard
import TradingStatus.Proofs.Files.Loading
import TradingStatus.Proofs.Market.Holidays
import TradingStatus.Proofs.Settings.Refusals
import TradingStatus.Proofs.Settings.Verification

/-! The calendar of an installation while its document is being rewritten. Until a calendar has been
read, every time that it is asked for the document is read anew as it is then, and a failure leaves
the installation as it was; from the first success on that calendar is the answer, whatever becomes
of the document. A failure is put down to the document, unless the document goes too deep. -/

namespace TradingStatus

/-- What comes to an installation: its files become others, or its calendar is asked for. -/
inductive CalendarStep
  | rewrite (files : Files)
  | ask

/-- The files that steps leave, from some files on. -/
def Files.afterSteps (files : Files) : List CalendarStep → Files
  | [] => files
  | .rewrite others :: steps => others.afterSteps steps
  | .ask :: steps => files.afterSteps steps

/-- The files that steps leave are those from before them or some that they bring. -/
theorem Files.afterSteps_eq_or (files : Files) (steps : List CalendarStep) :
    files.afterSteps steps = files ∨ .rewrite (files.afterSteps steps) ∈ steps := by
  induction steps generalizing files with
  | nil => exact .inl rfl
  | cons step steps ih =>
    cases step with
    | rewrite others =>
      obtain hsame | hlater := ih others
      · exact .inr (List.mem_cons.mpr (.inl (congrArg CalendarStep.rewrite hsame)))
      · exact .inr (List.mem_cons_of_mem _ hlater)
    | ask =>
      obtain hsame | hlater := ih files
      · exact .inl hsame
      · exact .inr (List.mem_cons_of_mem _ hlater)

section

variable [Platform]

/-- The document at a path goes deeper than what can be read. -/
def Files.GoesTooDeep (files : Files) (path : Option String) : Prop :=
  ∃ container, files.loadStrict path = .error (.document (.tooDeep container))

/-- A path leads to a file, and the document in that file writes a calendar. -/
def Calendar.IsWrittenAt (zones : ZoneDatabase) (files : Files) (path : String)
    (calendar : Calendar) : Prop :=
  ∃ bytes document, files.find? path = some (.file bytes) ∧ Files.documentOf bytes = .ok document ∧
    ofJson zones document = .ok calendar

theorem Calendar.value_load (zones : ZoneDatabase) (files : Files) (path : Option String) :
    (load zones files path).value = files.loadStrict path >>= ofJson zones := by
  unfold load
  split
  · next failure hfailure => exact hfailure.symm
  · next calendar hcalendar => exact hcalendar.symm

theorem Calendar.value_load_eq_ok_iff {zones : ZoneDatabase} {files : Files} {path : String}
    {calendar : Calendar} :
    (load zones files (some path)).value = .ok calendar ↔ IsWrittenAt zones files path calendar := by
  rw [value_load, bind_eq_ok_iff]
  constructor
  · rintro ⟨document, hdocument, hcalendar⟩
    obtain ⟨bytes, hbytes, hwrites⟩ := Files.loadStrict_eq_ok_iff.mp hdocument
    exact ⟨bytes, document, Files.read_eq_ok_iff.mp hbytes, hwrites, hcalendar⟩
  · rintro ⟨bytes, document, hbytes, hwrites, hcalendar⟩
    exact ⟨document, Files.loadStrict_eq_ok_iff.mpr ⟨bytes, Files.read_eq_ok_iff.mpr hbytes, hwrites⟩,
      hcalendar⟩

theorem Calendar.IsWrittenAt.not_meetsLoneHalf {zones : ZoneDatabase} {files : Files}
    {path : String} {calendar : Calendar} (h : IsWrittenAt zones files path calendar) :
    ¬files.MeetsLoneHalf (some path) := by
  obtain ⟨bytes, document, hfile, hdocument, -⟩ := h
  intro hlone
  rw [Files.MeetsLoneHalf, Files.loadStrict_eq_ok_iff.mpr
    ⟨bytes, Files.read_eq_ok_iff.mpr hfile, hdocument⟩] at hlone
  cases hlone

theorem Calendar.load_of_failure {zones : ZoneDatabase} {files : Files} {path : Option String}
    {failure : Failure} (h : (load zones files path).value = .error failure) :
    load zones files path = pure (.error failure) := by
  unfold load at h ⊢
  split at h
  · cases h
    rfl
  · cases h

namespace Installation

variable {installation : Installation} {calendar : Calendar} {failure : Failure}
  {steps : List CalendarStep}

/-- The document of an installation's calendar, as it lies in the files now, writes a calendar. -/
def Offers (installation : Installation) (calendar : Calendar) : Prop :=
  Calendar.IsWrittenAt installation.zones installation.files installation.settings.marketsPath calendar

/-! Asking once -/

theorem calendar_of_kept (h : installation.calendar? = some calendar) :
    installation.calendar = pure (.ok calendar, installation) := by
  unfold Installation.calendar
  rw [h]

theorem calendar_of_offered (hfresh : installation.calendar? = none)
    (h : installation.Offers calendar) : installation.calendar.value =
      (.ok calendar, { installation with calendar? := some calendar }) := by
  unfold Installation.calendar
  rw [hfresh, Logged.value_bind, Calendar.value_load_eq_ok_iff.mpr h]
  rfl

/-- Without a calendar in the document, no line is written in the journal, and the installation is
what it was. The failure is put down to the document, unless that is beyond reading. -/
theorem calendar_of_not_offered (hfresh : installation.calendar? = none)
    (h : ¬∃ calendar, installation.Offers calendar) :
    ∃ failure, installation.calendar = pure (.error failure, installation) ∧
      ((∃ cause, failure = .calendar installation.settings.marketsPath cause) ∨
        installation.files.loadStrict (some installation.settings.marketsPath) = .error failure ∧
          failure.isBeyondReading = true) := by
  cases hload : (Calendar.load installation.zones installation.files
      (some installation.settings.marketsPath)).value with
  | ok calendar => exact absurd ⟨calendar, Calendar.value_load_eq_ok_iff.mp hload⟩ h
  | error cause =>
    unfold Installation.calendar
    rw [hfresh]
    simp only [Calendar.load_of_failure hload, pure_bind]
    by_cases hblamed : blamesDocument cause = true
    · refine ⟨.calendar installation.settings.marketsPath cause, ?_, .inl ⟨cause, rfl⟩⟩
      simp only [hblamed, if_true]
    · refine ⟨cause, by simp only [hblamed, if_false, Bool.false_eq_true], .inr ?_⟩
      exact (Calendar.blamed_or_beyond_of_load _ _ _ cause hload).resolve_left hblamed

/-- What is beyond reading is put down to nothing. -/
theorem calendar_of_beyond (hfresh : installation.calendar? = none)
    (h : installation.files.loadStrict (some installation.settings.marketsPath) = .error failure)
    (hbeyond : failure.isBeyondReading = true) :
    installation.calendar = pure (.error failure, installation) := by
  have hload : (Calendar.load installation.zones installation.files
      (some installation.settings.marketsPath)).value = .error failure := by
    rw [Calendar.value_load, h]
    rfl
  unfold Installation.calendar
  rw [hfresh]
  simp only [Calendar.load_of_failure hload, pure_bind, blamesDocument_of_isBeyondReading hbeyond,
    if_false, Bool.false_eq_true]

theorem calendar_eq_ok_iff (hfresh : installation.calendar? = none) :
    installation.calendar.value.1 = .ok calendar ↔ installation.Offers calendar := by
  constructor
  · intro h
    by_cases hoffered : ∃ found, installation.Offers found
    · obtain ⟨found, hfound⟩ := hoffered
      rw [calendar_of_offered hfresh hfound] at h
      obtain rfl := Except.ok.inj h
      exact hfound
    · obtain ⟨failure, hfailed, -⟩ := calendar_of_not_offered hfresh hoffered
      rw [hfailed] at h
      cases h
  · intro h
    rw [calendar_of_offered hfresh h]

/-- Whoever gets a calendar leaves it behind. -/
theorem calendar?_of_calendar (h : installation.calendar.value.1 = .ok calendar) :
    installation.calendar.value.2.calendar? = some calendar := by
  cases hkept : installation.calendar? with
  | some kept =>
    rw [calendar_of_kept hkept] at h ⊢
    obtain rfl := Except.ok.inj h
    exact hkept
  | none =>
    rw [calendar_of_offered hkept ((calendar_eq_ok_iff hkept).mp h)]

/-- Whoever gets none leaves everything as it was. -/
theorem calendar_of_failure (h : installation.calendar.value.1 = .error failure) :
    installation.calendar? = none ∧ installation.calendar = pure (.error failure, installation) ∧
      ((∃ cause, failure = .calendar installation.settings.marketsPath cause) ∨
        installation.files.loadStrict (some installation.settings.marketsPath) = .error failure ∧
          failure.isBeyondReading = true) := by
  cases hkept : installation.calendar? with
  | some kept =>
    rw [calendar_of_kept hkept] at h
    cases h
  | none =>
    have hnone : ¬∃ calendar, installation.Offers calendar := by
      rintro ⟨calendar, hoffered⟩
      rw [calendar_of_offered hkept hoffered] at h
      cases h
    obtain ⟨cause, hfailed, hblamed⟩ := calendar_of_not_offered hkept hnone
    rw [hfailed] at h
    obtain rfl := Except.error.inj h
    exact ⟨rfl, hfailed, hblamed⟩

/-- Unless half of a pair stands alone in its document, a calendar is missing for the depth of the
document, or the document is blamed. -/
theorem calendar_fails_for (h : installation.calendar.value.1 = .error failure)
    (hpaired : ¬installation.files.MeetsLoneHalf (some installation.settings.marketsPath)) :
    (installation.files.GoesTooDeep (some installation.settings.marketsPath) ∧
        ∃ container, failure = .document (.tooDeep container)) ∨
      ¬installation.files.GoesTooDeep (some installation.settings.marketsPath) ∧
        ∃ cause, failure = .calendar installation.settings.marketsPath cause := by
  obtain ⟨hfresh, hfailed, hblamed⟩ := calendar_of_failure h
  by_cases hdeep : installation.files.GoesTooDeep (some installation.settings.marketsPath)
  · obtain ⟨container, hread⟩ := hdeep
    have hsame := (calendar_of_beyond hfresh hread rfl).symm.trans hfailed
    refine .inl ⟨⟨container, hread⟩, container, ?_⟩
    exact (Except.error.inj (congrArg (fun answer => answer.value.1) hsame)).symm
  · refine .inr ⟨hdeep, hblamed.resolve_right ?_⟩
    rintro ⟨hread, hbeyond⟩
    unfold Failure.isBeyondReading at hbeyond
    split at hbeyond
    · exact hdeep ⟨_, hread⟩
    · exact hpaired hread
    · cases hbeyond

/-! Any number of steps -/

/-- What a step leaves behind. -/
def step (installation : Installation) : CalendarStep → Installation
  | .rewrite files => { installation with files }
  | .ask => installation.calendar.value.2

/-- What steps leave behind. -/
def run (installation : Installation) (steps : List CalendarStep) : Installation :=
  steps.foldl step installation

/-- Steps change nothing but the files and the calendar that is kept. -/
theorem exists_run_eq (installation : Installation) (steps : List CalendarStep) :
    ∃ calendar?, installation.run steps =
      { installation with files := installation.files.afterSteps steps, calendar? } := by
  induction steps generalizing installation with
  | nil => exact ⟨installation.calendar?, rfl⟩
  | cons step steps ih =>
    cases step with
    | rewrite files => exact ih { installation with files }
    | ask =>
      obtain ⟨calendar?, hkept⟩ := installation.exists_calendar_eq
      have hrun : installation.run (.ask :: steps) =
          Installation.run { installation with calendar? } steps := by
        rw [← hkept]
        rfl
      rw [hrun]
      exact ih { installation with calendar? }

/-- A calendar that is kept stays. -/
theorem calendar?_run (h : installation.calendar? = some calendar) (steps : List CalendarStep) :
    (installation.run steps).calendar? = some calendar := by
  induction steps generalizing installation with
  | nil => exact h
  | cons step steps ih =>
    cases step with
    | rewrite files => exact @ih { installation with files } h
    | ask =>
      show (installation.calendar.value.2.run steps).calendar? = some calendar
      rw [calendar_of_kept h]
      exact ih h

/-- As long as nobody has got a calendar, none is kept. -/
theorem calendar?_run_of_failures (hfresh : installation.calendar? = none)
    (hfailed : ∀ before after, steps = before ++ .ask :: after →
      ∃ failure, (installation.run before).calendar.value.1 = .error failure) :
    (installation.run steps).calendar? = none := by
  induction steps generalizing installation with
  | nil => exact hfresh
  | cons step steps ih =>
    cases step with
    | rewrite files =>
      apply @ih { installation with files } hfresh
      intro before after hsteps
      exact hfailed (.rewrite files :: before) after (congrArg (.rewrite files :: ·) hsteps)
    | ask =>
      obtain ⟨failure, hfailure⟩ : ∃ failure, installation.calendar.value.1 = .error failure :=
        hfailed [] steps rfl
      -- The failure leaves the installation as it was.
      have hsame : installation.calendar.value.2 = installation :=
        congrArg (fun answer => answer.value.2) (calendar_of_failure hfailure).2.1
      show (installation.calendar.value.2.run steps).calendar? = none
      rw [hsame]
      apply ih hfresh
      intro before after hsteps
      have hrun : installation.run (.ask :: before) = installation.run before := by
        show installation.calendar.value.2.run before = installation.run before
        rw [hsame]
      rw [← hrun]
      exact hfailed (.ask :: before) after (congrArg (.ask :: ·) hsteps)

end Installation

end

namespace Installation

/-- An installation that has yet to read its calendar. -/
def unread : Installation :=
  { sample Settings.defaultKeyId none with zones := .standard, calendar? := none }

/-- Files of which one, where the calendar is looked for, is a directory or holds some bytes. -/
def marketsAt (node : FileNode) : Files := ⟨[], [(["config", "markets.json"], node)]⟩

/-- The document of a calendar of one market. -/
def oneMarket : FileNode :=
  .file (Text.Utf8.encode (Json.obj [("XTST", .obj (Market.utcMembers []))]).render)

/-- A directory in the place of the document gives way to the document, and takes its place again. -/
def repair : List CalendarStep :=
  [.rewrite (marketsAt .directory), .ask, .rewrite (marketsAt oneMarket), .ask,
    .rewrite (marketsAt .directory)]

theorem exists_failure_of_directory : ∃ failure,
    (unread.run (repair.take 1)).calendar.value.1 = .error failure := by
  have hrefused : (unread.run (repair.take 1)).calendar.value.1.toOption.isSome = false := by
    decide +kernel
  cases h : (unread.run (repair.take 1)).calendar.value.1 with
  | error failure => exact ⟨failure, rfl⟩
  | ok calendar =>
    rw [h] at hrefused
    cases hrefused

theorem exists_calendar_of_oneMarket : ∃ calendar,
    Calendar.IsWrittenAt unread.zones (marketsAt oneMarket) unread.settings.marketsPath
      calendar := by
  have hread : (Calendar.load unread.zones (marketsAt oneMarket)
      (some unread.settings.marketsPath)).value.toOption.isSome = true := by decide +kernel
  obtain ⟨calendar, hcalendar⟩ := Option.isSome_iff_exists.mp hread
  exact ⟨calendar, Calendar.value_load_eq_ok_iff.mp (toOption_eq_some_iff.mp hcalendar)⟩

/-- In none of the documents does half of a pair stand alone: the first one is missing, and what
makes a calendar has been read. -/
theorem not_meetsLoneHalf_of_repair {files : Files}
    (h : files = unread.files ∨ .rewrite files ∈ repair) :
    ¬files.MeetsLoneHalf (some unread.settings.marketsPath) := by
  obtain ⟨calendar, hwritten⟩ := exists_calendar_of_oneMarket
  simp only [repair, List.mem_cons, CalendarStep.rewrite.injEq, List.not_mem_nil, or_false,
    reduceCtorEq, false_or] at h
  rcases h with rfl | rfl | rfl | rfl
  · nofun
  · nofun
  · exact hwritten.not_meetsLoneHalf
  · nofun

theorem calendar_of_bytes {bytes : List UInt8} {failure : Failure}
    (h : Files.documentOf bytes = .error failure) (hbeyond : failure.isBeyondReading = true) :
    (unread.run [.rewrite (marketsAt (.file bytes))]).calendar.value.1 = .error failure := by
  have hread : (unread.run [.rewrite (marketsAt (.file bytes))]).files.loadStrict
      (some unread.settings.marketsPath) = .error failure := h
  rw [calendar_of_beyond rfl hread hbeyond, Logged.value_pure]

end Installation

end TradingStatus
