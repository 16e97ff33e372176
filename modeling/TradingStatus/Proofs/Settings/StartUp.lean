import TradingStatus.Proofs.Settings.Published
import TradingStatus.Proofs.Settings.Refusals

/-! What it takes to start. Of all that a service is put together from, only the calendar and the
published keys can be in the way, and which of them it was is told by the kind of the failure. -/

namespace TradingStatus

/-- Whatever a computation fails with, it is not the calendar. -/
abbrev SparesCalendar {α : Type} (x : Except Failure α) : Prop :=
  FailsOnlyWith (fun failure => (failure.kind == .calendar) = false) x

theorem sparesCalendar_showing [Platform] {α : Type} {value : Json} {failure : Failure}
    (h : (failure.kind == .calendar) = false) :
    SparesCalendar (.error (.showing value failure) : Except Failure α) := by
  rcases Failure.showing_eq_or value failure with heq | ⟨error, heq⟩
  · rw [heq]
    exact .error h
  · rw [heq]
    cases error <;> exact .error rfl

/-! Keys -/

namespace PublishedKey

theorem sparesCalendar_read [Platform] (bound : Bound) (field : String) :
    SparesCalendar (bound.read field) := by
  unfold Bound.read
  split
  · exact .ok _
  · exact .ok _
  · split
    · exact .error rfl
    · split
      · exact .ok _
      · exact .error rfl
      · exact .error rfl
  · exact sparesCalendar_showing rfl

theorem sparesCalendar_checkWindow (start finish : Option Timestamp) :
    SparesCalendar (checkWindow start finish) := by
  unfold checkWindow
  split
  · exact .ok _
  · exact .error rfl
  · refine FailsOnlyWith.bind ?_ fun isBefore _ => ?_
    · unfold Timestamp.isBefore
      split
      · exact .ok _
      · exact .ok _
      · exact .error rfl
    · split
      · exact .ok _
      · exact .error rfl

theorem sparesCalendar_ofBounds [Platform] (id publicKey : Json) (start finish : Bound) :
    SparesCalendar (ofBounds id publicKey start finish) := by
  unfold ofBounds
  refine (sparesCalendar_read start _).bind fun validFrom _ => ?_
  split
  · refine (sparesCalendar_read finish _).bind fun validUntil _ => ?_
    unfold ofParts
    split
    · split
      · exact .error rfl
      · split
        · exact (sparesCalendar_checkWindow _ _).bind fun _ _ => .ok _
        · exact .error rfl
    · exact .error rfl
  · exact .error rfl

theorem sparesCalendar_ofJson [Platform] (entry : Json) : SparesCalendar (ofJson entry) := by
  unfold ofJson
  split
  · exact sparesCalendar_ofBounds _ _ _ _
  · exact sparesCalendar_showing rfl

end PublishedKey

theorem KeyRegistry.sparesCalendar_go {found keys : List PublishedKey}
    (nodup : (found.map PublishedKey.id).Nodup) : SparesCalendar (ofKeys.go found nodup keys) := by
  induction keys generalizing found with
  | nil => exact .ok _
  | cons key rest ih =>
    unfold ofKeys.go
    split
    · exact .error rfl
    · exact ih _

theorem Files.sparesCalendar_load [Platform] (files : Files) (path : Option String) :
    SparesCalendar (files.load path).value := by
  have htrouble {failure : Failure} (h : Trouble failure) : (failure.kind == .calendar) = false := by
    cases h with
    | document error => cases error <;> rfl
    | _ => rfl
  unfold load
  split
  · exact .ok _
  · split
    · exact .ok _
    · split
      · exact .ok _
      · split
        · exact .ok _
        · next failure hfailure =>
          split
          · exact .ok _
          · exact .error (htrouble (files.trouble_of_loadStrict _ failure hfailure))

namespace Installation

variable {installation : Installation} {newId : Nat → Json} {failure : Failure}

theorem sparesCalendar_signer (installation : Installation) :
    SparesCalendar installation.signer := by
  simp only [signer, Signer.ofParts]
  split
  · exact .error rfl
  · exact .ok _

section

variable [Platform]

theorem sparesCalendar_published (installation : Installation) (publicKey : String) :
    SparesCalendar ((installation.published publicKey).map some) :=
  (PublishedKey.sparesCalendar_ofBounds _ _ _ _).map some

theorem sparesCalendar_activeKey (installation : Installation) :
    SparesCalendar installation.activeKey.value := by
  unfold activeKey
  split
  · split
    · next failure hfailure => exact .error (installation.sparesCalendar_signer failure hfailure)
    · split
      · exact installation.sparesCalendar_published _
      · exact .ok _
  · split
    · next failure hfailure => exact .error (installation.sparesCalendar_signer failure hfailure)
    · split
      · exact installation.sparesCalendar_published _
      · exact .ok _
  · exact installation.sparesCalendar_published _

theorem sparesCalendar_listedKeys (path : String) (active : Option PublishedKey)
    (document : Json) : SparesCalendar (listedKeys path active document) := by
  unfold listedKeys
  split
  · exact .ok _
  · split
    · exact .mapM fun entry _ => PublishedKey.sparesCalendar_ofJson entry
    · exact .error rfl

theorem sparesCalendar_otherKeys (installation : Installation) (active : Option PublishedKey) :
    SparesCalendar (installation.otherKeys active).value := by
  simp only [otherKeys]
  split
  · exact .ok _
  · exact (installation.files.sparesCalendar_load _).bind fun document _ =>
      sparesCalendar_listedKeys _ active document

theorem sparesCalendar_keyRegistry (installation : Installation) :
    SparesCalendar installation.keyRegistry.value := by
  unfold keyRegistry
  rw [Logged.value_bind]
  have hactive := installation.sparesCalendar_activeKey
  cases hvalue : installation.activeKey.value with
  | error failure => exact .error (hactive failure hvalue)
  | ok active =>
    exact (installation.sparesCalendar_otherKeys active).bind fun others _ =>
      KeyRegistry.sparesCalendar_go _

end

theorem sparesCalendar_setup (installation : Installation) (newId : Nat → Json)
    (calendar : Calendar) : SparesCalendar (installation.setup newId calendar) := by
  obtain ⟨lifetime, hlifetime⟩ := exists_lifetime
  unfold setup
  refine FailsOnlyWith.bind (.ok _) fun schedule _ => ?_
  refine installation.sparesCalendar_signer.bind fun signer _ => ?_
  rw [hlifetime]
  exact .ok _

/-- Whether it was the calendar that kept a service from being set up is told by the kind of the
failure. -/
theorem kind_of_deskSetup [Platform] (h : (installation.deskSetup newId).value.1 = .error failure) :
    failure.kind = .calendar ↔
      ∃ cause, installation.calendar.value.1 = .error cause ∧ cause.kind = .calendar := by
  unfold deskSetup at h
  rw [Logged.value_bind] at h
  obtain ⟨calendar?, hkept⟩ := installation.exists_calendar_eq
  rcases hcalendar : installation.calendar.value with ⟨cause | calendar, kept⟩
  · rw [hcalendar] at h
    obtain rfl := Except.error.inj h
    simp
  · rw [hcalendar] at h hkept
    obtain rfl : kept = { installation with calendar? } := hkept
    refine iff_of_false ?_ (by simp)
    simp only at h
    split at h
    · next cause hcause =>
      obtain rfl := Except.error.inj h
      exact beq_eq_false_iff_ne.mp (sparesCalendar_setup _ _ _ cause hcause)
    · next wired _ =>
      simp only [Logged.value_bind, Logged.value_pure] at h
      exact beq_eq_false_iff_ne.mp ((installation.sparesCalendar_keyRegistry.map wired) failure h)

end Installation

end TradingStatus
