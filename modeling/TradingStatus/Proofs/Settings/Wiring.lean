import TradingStatus.Proofs.Signing.Signatures
import TradingStatus.Settings.Installation

/-! What an installation is put together to: the signer of its service and the key that is published
for it, both from the settings, each in a way of its own. -/

namespace TradingStatus

namespace Installation

variable {installation : Installation} {newId : Nat → Json} {setup : DeskSetup}
  {registry : KeyRegistry} {seed : List UInt8}

/-- Reading the calendar changes nothing but the calendar that is kept. -/
theorem exists_calendar_eq [Platform] (installation : Installation) :
    ∃ calendar?, installation.calendar.value.2 = { installation with calendar? } := by
  unfold calendar
  cases hkept : installation.calendar? with
  | some calendar => exact ⟨some calendar, by simp [← hkept]⟩
  | none =>
    simp only [Logged.value_bind]
    cases (Calendar.load installation.zones installation.files _).value with
    | ok calendar => exact ⟨some calendar, rfl⟩
    | error failure => exact ⟨none, by simp [← hkept]⟩

/-- What a service is set up with: a calendar that can be read, with the parts of the settings that
can be put together, and the keys that can be published. -/
theorem deskSetup_eq_ok_iff [Platform] : (installation.deskSetup newId).value.1 = .ok setup ↔
    ∃ calendar wired keys, installation.calendar.value.1 = .ok calendar ∧
      installation.setup newId calendar = .ok wired ∧ installation.keyRegistry.value = .ok keys ∧
      wired keys = setup := by
  unfold deskSetup
  rw [Logged.value_bind]
  obtain ⟨calendar?, hkept⟩ := installation.exists_calendar_eq
  rcases hcalendar : installation.calendar.value with ⟨calendar, kept⟩
  rw [hcalendar] at hkept
  obtain rfl : kept = { installation with calendar? } := hkept
  simp only
  split
  · next failure hfailure =>
    refine iff_of_false (fun h => by cases h) ?_
    rintro ⟨read, wired, keys, rfl, hwired, -, -⟩
    cases hfailure.symm.trans hwired
  · next wired hwired =>
    simp only [Logged.value_bind, Logged.value_pure]
    obtain ⟨read, rfl, hwired⟩ := bind_eq_ok_iff.mp hwired
    constructor
    · intro h
      obtain ⟨keys, hkeys, rfl⟩ := map_eq_ok_iff.mp h
      exact ⟨read, wired, keys, rfl, hwired, hkeys, rfl⟩
    · rintro ⟨_, wired', keys, hread, hwired', hkeys, rfl⟩
      obtain rfl := Except.ok.inj hread
      obtain rfl := Except.ok.inj (hwired.symm.trans hwired')
      exact map_eq_ok_iff.mpr ⟨keys, hkeys, rfl⟩

theorem signer_eq_ok (hid : Text.isBlankText installation.settings.keyId = false) :
    installation.signer =
      .ok ⟨installation.settings.secret, Text.trim installation.settings.keyId⟩ :=
  Signer.ofParts_eq_ok_iff.mpr ⟨hid, rfl⟩

theorem exists_lifetime : ∃ lifetime, lifetimeOf defaultLifetimeSeconds = .ok lifetime := by
  have hlifetime : (lifetimeOf defaultLifetimeSeconds).toOption.isSome = true := by decide +kernel
  obtain ⟨lifetime, hlifetime⟩ := Option.isSome_iff_exists.mp hlifetime
  exact ⟨lifetime, toOption_eq_some_iff.mp hlifetime⟩

/-- The parts of a service that are wired together, whatever the keys. -/
theorem setup_eq_ok_iff {calendar : Calendar} {wired : KeyRegistry → DeskSetup} :
    installation.setup newId calendar = .ok wired ↔
      ∃ signer lifetime, installation.signer = .ok signer ∧
        lifetimeOf defaultLifetimeSeconds = .ok lifetime ∧
        wired = fun keys => {
          schedule := ⟨calendar, Schedule.defaultLookahead, by decide⟩
          scheme := installation.scheme, signer, newId, signFailures := []
          schemaVersion := Issuer.defaultSchemaVersion, lifetime, keys, accepts? := none
          note := Service.defaultNote } := by
  have hschedule : Schedule.ofParts (some calendar) Schedule.defaultLookahead =
      .ok ⟨calendar, Schedule.defaultLookahead, by decide⟩ := rfl
  simp only [Installation.setup, hschedule, bind_eq_ok_iff, pure_eq_ok_iff, Except.ok.injEq,
    exists_eq_left', eq_comm (a := wired), exists_and_left]

variable [Platform]

/-- A service signs with the signer and answers with the keys of its installation. -/
theorem exists_parts_of_deskSetup (h : (installation.deskSetup newId).value.1 = .ok setup) :
    installation.signer = .ok setup.signer ∧ installation.keyRegistry.value = .ok setup.keys ∧
      setup.scheme = installation.scheme := by
  obtain ⟨calendar, wired, keys, -, hwired, hkeys, rfl⟩ := deskSetup_eq_ok_iff.mp h
  obtain ⟨signer, lifetime, hsigner, -, rfl⟩ := setup_eq_ok_iff.mp hwired
  exact ⟨hsigner, hkeys, rfl⟩

/-- The schedules of any two installations that break say the same. -/
theorem scheduleFault_eq_of_deskSetup {another : Installation} {other : DeskSetup}
    (h : (installation.deskSetup newId).value.1 = .ok setup)
    (hother : (another.deskSetup newId).value.1 = .ok other) :
    setup.scheduleFault = other.scheduleFault := by
  obtain ⟨_, _, _, -, hwired, -, rfl⟩ := deskSetup_eq_ok_iff.mp h
  obtain ⟨_, _, -, -, rfl⟩ := setup_eq_ok_iff.mp hwired
  obtain ⟨_, _, _, -, hwired, -, rfl⟩ := deskSetup_eq_ok_iff.mp hother
  obtain ⟨_, _, -, -, rfl⟩ := setup_eq_ok_iff.mp hwired
  rfl

/-- A registry is made of the active key, if there is one, and the other keys in the file. -/
theorem keyRegistry_eq_ok_iff : installation.keyRegistry.value = .ok registry ↔
    ∃ active others, installation.activeKey.value = .ok active ∧
      (installation.otherKeys active).value = .ok others ∧
      KeyRegistry.ofKeys (active.toList ++ others) = .ok registry := by
  unfold keyRegistry
  rw [Logged.value_bind]
  cases installation.activeKey.value with
  | error failure => simp
  | ok active =>
    simp only [Logged.value_bind, Except.ok.injEq, exists_and_left, exists_eq_left']
    exact bind_eq_ok_iff

theorem exists_keys_of_keyRegistry (h : installation.keyRegistry.value = .ok registry) :
    ∃ active others, installation.activeKey.value = .ok active ∧
      registry.keys = active.toList ++ others := by
  obtain ⟨active, others, hactive, -, hkeys⟩ := keyRegistry_eq_ok_iff.mp h
  exact ⟨active, others, hactive, KeyRegistry.keys_of_ofKeys hkeys⟩

/-- A key that is published has the identifier of the settings, and the public key without the
blanks at its ends. -/
theorem eq_of_published {publicKey : String} {active : Option PublishedKey}
    (h : (installation.published publicKey).map some = .ok active) :
    ∃ key, active = some key ∧ key.id = installation.settings.keyId ∧
      key.publicKey = Text.trim publicKey := by
  obtain ⟨key, hkey, rfl⟩ := map_eq_ok_iff.mp h
  obtain ⟨hid, hpublicKey⟩ := PublishedKey.eq_of_ofBounds hkey
  exact ⟨key, rfl, hid, hpublicKey⟩

/-- Without a public key in the settings, it takes the secret to publish one. -/
theorem activeKey_of_unset
    (hunset : installation.settings.publicKey = none ∨ installation.settings.publicKey = some "") :
    installation.activeKey =
      match installation.signer with
      | .error failure => pure (.error failure)
      | .ok signer =>
        match signer.publicKeyHex installation.scheme with
        | .ok publicKey => return (installation.published publicKey).map some
        | .error failure => do
          Logged.write .warning ("Active signing key cannot be published: " ++ failure.message)
          return .ok none := by
  unfold activeKey
  generalize installation.settings.publicKey = unset at hunset
  rcases hunset with rfl | rfl
  · rfl
  · rfl

/-- Without a public key in the settings, the one of the secret is published. -/
theorem derived_of_activeKey {active : Option PublishedKey}
    (hseed : Secret.seed installation.scheme installation.settings.secret = .ok seed)
    (hunset : installation.settings.publicKey = none ∨ installation.settings.publicKey = some "")
    (h : installation.activeKey.value = .ok active) :
    ∃ key, active = some key ∧ key.id = installation.settings.keyId ∧
      key.publicKey = Text.Hex.encode (installation.scheme.publicKey seed) := by
  rw [← Text.Hex.trim_encode]
  rw [activeKey_of_unset hunset] at h
  split at h
  · cases h
  · next signer hsigner =>
    obtain ⟨-, rfl⟩ := Signer.ofParts_eq_ok_iff.mp hsigner
    rw [Signer.publicKeyHex, hseed] at h
    exact eq_of_published h

theorem activeKey_of_given {publicKey : String}
    (hgiven : installation.settings.publicKey = some publicKey) (hfilled : publicKey ≠ "") :
    installation.activeKey = return (installation.published publicKey).map some := by
  unfold activeKey
  split
  · next hnone => cases hgiven.symm.trans hnone
  · next hempty => exact absurd (Option.some.inj (hgiven.symm.trans hempty)) hfilled
  · next given _ hsome =>
    obtain rfl := Option.some.inj (hgiven.symm.trans hsome)
    rfl

theorem given_of_activeKey {active : Option PublishedKey} {publicKey : String}
    (hgiven : installation.settings.publicKey = some publicKey) (hfilled : publicKey ≠ "")
    (h : installation.activeKey.value = .ok active) :
    ∃ key, active = some key ∧ key.id = installation.settings.keyId ∧
      key.publicKey = Text.trim publicKey := by
  rw [activeKey_of_given hgiven hfilled] at h
  exact eq_of_published h

end Installation

end TradingStatus
