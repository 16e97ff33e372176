import TradingStatus.CommandLine.Run
import TradingStatus.Proofs.Service.Plain
import TradingStatus.Proofs.Settings.Reloading
import TradingStatus.Proofs.Settings.StartUp

/-! How runs end. A run without a calendar ends by a code of its own; any other one ends with an
answer that is printed, unless the published keys cannot be put together, the document of the
calendar goes too deep, or the journal has no level, which nothing makes up for. -/

namespace TradingStatus

section

variable [Platform]

/-- A calendar that is read is reported. -/
theorem Calendar.log_load {zones : ZoneDatabase} {files : Files} {path : Option String}
    {calendar : Calendar} (h : (load zones files path).value = .ok calendar) :
    (load zones files path).log = [⟨.debug, calendar.loadedText⟩] := by
  unfold load at h ⊢
  split at h
  · cases h
  · obtain rfl := Except.ok.inj h
    rfl

namespace Installation

variable {installation : Installation} {newId : Nat → Json} {setup : DeskSetup}

/-- A service is set up if there are a calendar and the published keys. -/
theorem exists_deskSetup_iff (newId : Nat → Json) :
    (∃ setup, (installation.deskSetup newId).value.1 = .ok setup) ↔
      (∃ calendar, installation.calendar.value.1 = .ok calendar) ∧
        ∃ keys, installation.keyRegistry.value = .ok keys := by
  constructor
  · rintro ⟨setup, hsetup⟩
    obtain ⟨calendar, wired, keys, hcalendar, -, hkeys, -⟩ := deskSetup_eq_ok_iff.mp hsetup
    exact ⟨⟨calendar, hcalendar⟩, keys, hkeys⟩
  · rintro ⟨⟨calendar, hcalendar⟩, keys, hkeys⟩
    obtain ⟨active, others, hactive, -, -⟩ := keyRegistry_eq_ok_iff.mp hkeys
    obtain ⟨setup, hsetup, -⟩ :=
      exists_deskSetup newId hcalendar (isBlankText_of_activeKey hactive) hkeys
    exact ⟨setup, hsetup⟩

/-- Half of a pair stands alone in none of the documents of an installation. -/
structure IsPaired (installation : Installation) : Prop where
  markets : ¬installation.files.MeetsLoneHalf (some installation.settings.marketsPath)
  keys : ¬installation.files.MeetsLoneHalf (some installation.settings.keysPath)
  overrides : ¬installation.files.MeetsLoneHalf (some installation.settings.overridesPath)

/-- The calendar's document goes deeper than what can be read. -/
def GoesTooDeep (installation : Installation) : Prop :=
  installation.files.GoesTooDeep (some installation.settings.marketsPath)

theorem not_goesTooDeep_of_calendar {calendar : Calendar} (hfresh : installation.calendar? = none)
    (h : installation.calendar.value.1 = .ok calendar) : ¬installation.GoesTooDeep := by
  rintro ⟨container, hdeep⟩
  rw [calendar_of_beyond hfresh hdeep rfl] at h
  cases h

/-- The calendar is blamed for what keeps it from being read, unless its document goes too deep. -/
theorem kind_of_failed_calendar {failure : Failure} (hpaired : installation.IsPaired)
    (h : installation.calendar.value.1 = .error failure) :
    failure.kind = .calendar ↔ ¬installation.GoesTooDeep := by
  obtain ⟨hdeep, container, rfl⟩ | ⟨hshallow, cause, rfl⟩ := calendar_fails_for h hpaired.markets
  · exact iff_of_false (by simp [Failure.kind]) (not_not_intro hdeep)
  · exact iff_of_true rfl hshallow

/-- Whoever reads the calendar for a service leaves a line in the journal. -/
theorem log_deskSetup_ne_nil {calendar : Calendar} (hfresh : installation.calendar? = none)
    (h : installation.calendar.value.1 = .ok calendar) (newId : Nat → Json) :
    (installation.deskSetup newId).log ≠ [] := by
  have hload := Calendar.log_load
    (Calendar.value_load_eq_ok_iff.mpr ((calendar_eq_ok_iff hfresh).mp h))
  have hlog : installation.calendar.log ≠ [] := by
    unfold Installation.calendar
    rw [hfresh, Logged.log_bind, hload]
    exact List.cons_ne_nil _ _
  unfold deskSetup
  rw [Logged.log_bind]
  exact List.append_ne_nil_of_left_ne_nil hlog _

/-- What a service is set up with can be printed. -/
theorem isPlain_of_deskSetup (h : (installation.deskSetup newId).value.1 = .ok setup) :
    setup.note.IsPlain ∧ ∀ key ∈ setup.keys.keys, key.algorithm.IsPlain ∧ key.format.IsPlain := by
  obtain ⟨calendar, wired, keys, -, hwired, hkeys, rfl⟩ := deskSetup_eq_ok_iff.mp h
  obtain ⟨signer, lifetime, -, -, rfl⟩ := setup_eq_ok_iff.mp hwired
  refine ⟨.str _, fun key hmem => ?_⟩
  obtain ⟨id, publicKey, start, finish, hkey⟩ := exists_ofBounds_of_mem hkeys hmem
  obtain ⟨halgorithm, hformat⟩ := PublishedKey.defaults_of_ofBounds hkey
  rw [halgorithm, hformat]
  exact ⟨.str _, .str _⟩

end Installation

namespace Desk

/-- Only the keys may be such that they cannot be answered with. -/
theorem exists_answer_iff (desk : Desk) (setup : DeskSetup) (request : Request) :
    (∃ response, (desk.answer setup request).value.1 = .ok response) ↔
      (request = .keys → ∃ document, setup.keys.toJson = .ok document) := by
  rw [value_answer]
  by_cases hkeys : request = .keys
  · subst hkeys
    constructor
    · rintro ⟨response, h⟩ -
      obtain ⟨document, hdocument, -⟩ := bind_eq_ok_iff.mp h
      exact ⟨document, hdocument⟩
    · intro h
      obtain ⟨document, hdocument⟩ := h rfl
      exact ⟨_, bind_eq_ok_iff.mpr ⟨document, hdocument, rfl⟩⟩
  · refine iff_of_true ?_ fun h => absurd h hkeys
    by_cases hexchanges : request = .exchanges
    · subst hexchanges
      exact ⟨_, rfl⟩
    · obtain ⟨response, hresponse, -⟩ := Service.exists_reply (desk.isTruthful_service setup)
        hexchanges hkeys desk.clock desk.tally
      exact ⟨response, hresponse⟩

end Desk

namespace CommandLine

variable {installation kept : Installation} {newId : Nat → Json} {clock : Option Timestamp}
  {arguments : Arguments} {calendar : Calendar} {setup : DeskSetup} {failure : Failure}

theorem run_of_failure (h : (installation.deskSetup newId).value.1 = .error failure) :
    (run installation newId clock arguments).value =
      if failure.kind = .calendar then .ok ⟨2, ""⟩ else .error failure := by
  rcases hsetup : (installation.deskSetup newId).value with ⟨result, kept⟩
  rw [hsetup] at h
  obtain rfl : result = .error failure := h
  unfold run
  rw [Logged.value_bind, hsetup]
  by_cases hkind : failure.kind = .calendar
  · simp [hkind]
  · simp [hkind]

/-- A calendar that is blamed is all that a run can be kept from starting by in the way that is
provided for. -/
theorem run_of_no_calendar (h : installation.calendar.value.1 = .error failure) :
    (failure.kind = .calendar ∧ (run installation newId clock arguments).value = .ok ⟨2, ""⟩) ∨
      failure.kind ≠ .calendar ∧
        ∃ cause, (run installation newId clock arguments).value = .error cause := by
  cases hsetup : (installation.deskSetup newId).value.1 with
  | ok setup =>
    obtain ⟨⟨calendar, hcalendar⟩, -⟩ := (Installation.exists_deskSetup_iff _).mp ⟨setup, hsetup⟩
    cases h.symm.trans hcalendar
  | error cause =>
    have hkind := Installation.kind_of_deskSetup hsetup
    rw [run_of_failure hsetup]
    by_cases hblamed : failure.kind = .calendar
    · exact .inl ⟨hblamed, if_pos (hkind.mpr ⟨failure, h, hblamed⟩)⟩
    · refine .inr ⟨hblamed, cause, if_neg fun hcause => ?_⟩
      obtain ⟨other, hother, hotherKind⟩ := hkind.mp hcause
      obtain rfl := Except.error.inj (h.symm.trans hother)
      exact hblamed hotherKind

theorem run_of_no_keys (hcalendar : installation.calendar.value.1 = .ok calendar)
    (hkeys : ¬∃ keys, installation.keyRegistry.value = .ok keys) :
    ∃ failure, (run installation newId clock arguments).value = .error failure := by
  cases hsetup : (installation.deskSetup newId).value.1 with
  | ok setup => exact absurd ((Installation.exists_deskSetup_iff _).mp ⟨setup, hsetup⟩).2 hkeys
  | error failure =>
    refine ⟨failure, ?_⟩
    rw [run_of_failure hsetup, if_neg]
    rintro hkind
    obtain ⟨cause, hcause, -⟩ := (Installation.kind_of_deskSetup hsetup).mp hkind
    cases hcause.symm.trans hcalendar

theorem run_of_setup (h : (installation.deskSetup newId).value = (.ok setup, kept)) :
    (run installation newId clock arguments).value =
      Exit.ofResponse <$> ((kept.desk clock).answer setup arguments.request).value.1 := by
  unfold run
  rw [Logged.value_bind, h]
  rfl

omit [Platform] in
theorem Arguments.request_eq_keys_iff :
    arguments.request = .keys ↔ arguments.choice = some .keys := by
  unfold Arguments.request
  split <;> simp_all

omit [Platform] in
theorem Exit.code_ofResponse_ne_two (response : Response) : (ofResponse response).code ≠ 2 := by
  simp only [ofResponse]
  split <;> simp

/-- Whatever a run answers can be printed and read again. -/
theorem isPlain_of_run {response : Response}
    (h : (installation.deskSetup newId).value = (.ok setup, kept))
    (hanswer : ((kept.desk clock).answer setup arguments.request).value.1 = .ok response) :
    response.body.IsPlain := by
  obtain ⟨hnote, hkeys⟩ := Installation.isPlain_of_deskSetup (congrArg Prod.fst h)
  rw [Desk.value_answer] at hanswer
  exact Service.isPlain_of_answer (Desk.isTruthful_service _ setup) hnote hkeys hanswer

/-- What is put together answers, unless keys are asked for that cannot be written. -/
theorem exists_exit_of_setup_iff (h : (installation.deskSetup newId).value = (.ok setup, kept)) :
    (∃ exit, (run installation newId clock arguments).value = .ok exit) ↔
      (arguments.choice = some .keys → ∃ document, setup.keys.toJson = .ok document) := by
  rw [run_of_setup h, ← Arguments.request_eq_keys_iff,
    ← (kept.desk clock).exists_answer_iff setup arguments.request]
  constructor
  · rintro ⟨exit, hexit⟩
    obtain ⟨response, hresponse, -⟩ := map_eq_ok_iff.mp hexit
    exact ⟨response, hresponse⟩
  · rintro ⟨response, hresponse⟩
    exact ⟨_, map_eq_ok_iff.mpr ⟨response, hresponse, rfl⟩⟩

/-- The exit shows the answer, and its code is never that of a missing calendar. -/
theorem exit_of_setup {exit : Exit} (h : (installation.deskSetup newId).value = (.ok setup, kept))
    (hexit : (run installation newId clock arguments).value = .ok exit) :
    exit.code ≠ 2 ∧ ∃ response,
      ((kept.desk clock).answer setup arguments.request).value.1 = .ok response ∧
      exit.output = response.body.indented ++ "\n" ∧
      Json.read exit.output = .ok response.body ∧
      exit.code = if response.code = 200 then 0 else 1 := by
  rw [run_of_setup h] at hexit
  obtain ⟨response, hresponse, rfl⟩ := map_eq_ok_iff.mp hexit
  exact ⟨Exit.code_ofResponse_ne_two response, response, hresponse, rfl,
    Json.read_indented (isPlain_of_run h hresponse), rfl⟩

/-- Whatever ends with an exit has left a line in the journal. -/
theorem log_run_ne_nil {exit : Exit} (hfresh : installation.calendar? = none)
    (h : (run installation newId clock arguments).value = .ok exit) :
    (run installation newId clock arguments).log ≠ [] := by
  cases hsetup : (installation.deskSetup newId).value.1 with
  | ok setup =>
    obtain ⟨⟨calendar, hcalendar⟩, -⟩ := (Installation.exists_deskSetup_iff newId).mp ⟨setup, hsetup⟩
    unfold run
    rw [Logged.log_bind]
    exact List.append_ne_nil_of_left_ne_nil
      (Installation.log_deskSetup_ne_nil hfresh hcalendar newId) _
  | error failure =>
    rw [run_of_failure hsetup] at h
    split at h
    · next hkind =>
      rcases hfound : (installation.deskSetup newId).value with ⟨result, kept⟩
      obtain rfl : result = .error failure := by rw [← hsetup, hfound]
      unfold run
      rw [Logged.log_bind, hfound]
      simp only [hkind, beq_self_eq_true, if_true]
      exact List.append_ne_nil_of_right_ne_nil _ (List.cons_ne_nil _ _)
    · cases h

/-- Without a level, no run ends with an exit, since it would have something to report. -/
theorem runAt_of_no_level (hfresh : installation.calendar? = none) (exit : Exit) :
    (runAt (.error failure) installation newId clock arguments).value ≠ .ok exit := by
  intro h
  have hrun : (run installation newId clock arguments).value = .ok exit := Logged.value_of_heard h
  rw [runAt, Logged.heard_of_no_level (log_run_ne_nil hfresh hrun)] at h
  cases h

theorem runAt_ok (level : LogLevel) : runAt (.ok level) installation newId clock arguments =
    run installation newId clock arguments := rfl

end CommandLine

end

namespace CommandLine

/-- An installation with a market, and with a document of published keys that is no text. -/
def withUnreadableKeys : Installation where
  settings := {
    variablesPath := Settings.defaultVariablesPath
    secret := none
    publicKey := none
    keyId := Settings.defaultKeyId
    validFrom := Settings.defaultValidFrom
    validUntil := none
    home := "/" }
  files := ⟨[], [
    (["config", "markets.json"], .file (Text.Utf8.encode ("\x7b\"XTST\":\x7b\"name\":\"Test\"," ++
      "\"timezone\":\"UTC\",\"sessions_hours\":\x7b\"regular\":" ++
      "\x7b\"open\":\"09:00\",\"close\":\"16:00\"\x7d\x7d\x7d\x7d"))),
    (["config", "keys.json"], .file [0xff])]⟩
  zones := .standard
  scheme := .ed25519
  calendar? := none

/-- The installation without that document. -/
def withoutKeys : Installation :=
  { withUnreadableKeys with files := withUnreadableKeys.files.remove "/config/keys.json" }

end CommandLine

end TradingStatus
