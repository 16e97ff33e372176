import TradingStatus.Proofs.Service.Answers
import TradingStatus.Proofs.Service.Earned
import TradingStatus.Proofs.Settings.Published

/-! What a secret is needed for. An installation is put together without reading it; where it cannot
be read, no key is published for it and nothing is signed, and whatever is answered without a
signature is answered as with any other secret. -/

namespace TradingStatus

namespace Issuer

variable {issuer : Issuer} {mic : String} {clock : Option Timestamp} {tiers : List Tier}
  {tally later : Tally} {outcome : Outcome}

/-- Where nothing is signed, every search ends unsigned. -/
theorem Settles.unsigned (hsign : ∀ number members signature,
      issuer.sign number members ≠ .ok signature)
    (h : issuer.Settles mic clock tiers tally outcome later) : outcome = .unsigned := by
  induction h with
  | exhausted => rfl
  | found tries =>
    cases tries with
    | signed _ signs _ =>
      obtain ⟨members, signature, -, hsigned, -⟩ := signs.signature
      exact absurd hsigned (hsign _ members signature)
  | passed _ _ ih => exact ih

end Issuer

namespace Service

variable {service : Service} {clock : Option Timestamp} {tally : Tally}

theorem demo_of_unsigned (hsign : ∀ number members signature,
      service.issuer.sign number members ≠ .ok signature) {mic : Option String}
    (hmic : Mic.orDefault mic Mic.default ∈ service.issuer.calendar.supported) :
    (service.demo mic clock tally).value.1 = .ok offline := by
  unfold demo receiptFor
  rw [Logged.value_bind, Issuer.value_issue_of_supported hmic,
    (service.issuer.settles_issueFor _ clock tally).unsigned hsign]
  rfl

theorem health_of_unsigned (hsign : ∀ number members signature,
      service.issuer.sign number members ≠ .ok signature) :
    (service.health clock tally).value.1 = .ok offline := by
  have hunsigned :=
    (service.issuer.settles_issueLiveness Issuer.livenessMic clock tally).unsigned hsign
  unfold health
  rw [Logged.value_bind]
  simp only [hunsigned]
  rfl

end Service

namespace Desk

variable {setup other : DeskSetup} [Platform]

/-- Without a seed, nothing is signed. -/
theorem sign_ne_ok {failure : Failure}
    (hsecret : Secret.seed setup.scheme setup.signer.secret = .error failure)
    (desk : Desk) (number : Nat) (members : List (String × Json)) (signature : String) :
    (desk.issuer setup).sign number members ≠ .ok signature := by
  intro h
  obtain ⟨_, seed, _, -, hseed, -⟩ := Signer.sign_eq_ok_iff.mp (sign_of_signNumbered h)
  cases hsecret.symm.trans hseed

theorem exchanges_eq_of_schedule (desk : Desk) (hschedule : setup.schedule = other.schedule) :
    desk.answer setup .exchanges = desk.answer other .exchanges := by
  simp only [answer, Service.exchanges, service, issuer, hschedule]

/-- A schedule is answered from what a setup says of sessions alone. -/
theorem schedule_eq_of_schedule (desk : Desk) (mic : Option String)
    (hschedule : setup.schedule = other.schedule)
    (hfault : setup.scheduleFault = other.scheduleFault) (hnote : setup.note = other.note) :
    desk.answer setup (.schedule mic) = desk.answer other (.schedule mic) := by
  simp only [answer, Service.schedule, Service.prospects, service, issuer, hschedule, hfault, hnote]

end Desk

namespace Installation

variable {installation : Installation} {newId : Nat → Json} {calendar : Calendar}
  {entries : List Json} {keys : List PublishedKey} {active : Option PublishedKey}

/-- The installation with another secret, or none. -/
def withSecret (installation : Installation) (secret : Option String) : Installation :=
  { installation with settings := { installation.settings with secret } }

section

variable [Platform]

theorem calendar_withSecret (installation : Installation) (secret : Option String) :
    (installation.withSecret secret).calendar.value.1 = installation.calendar.value.1 := by
  have hpath : (installation.withSecret secret).settings.marketsPath =
    installation.settings.marketsPath := rfl
  unfold Installation.calendar
  rw [hpath]
  cases hkept : installation.calendar? with
  | some calendar => simp [withSecret, hkept]
  | none =>
    simp only [withSecret, hkept, Logged.value_bind]
    cases (Calendar.load installation.zones installation.files
        (some installation.settings.marketsPath)).value with
    | ok calendar => rfl
    | error failure => rfl

/-- The active key and a document of keys under different identifiers are published together. -/
theorem exists_keyRegistry (hactive : installation.activeKey.value = .ok active)
    (hlisted : (installation.files.load (some installation.settings.keysPath)).value =
      .ok (.arr entries))
    (hkeys : entries.mapM PublishedKey.ofJson = .ok keys)
    (hdistinct : (keys.map PublishedKey.id).Nodup) :
    ∃ registry, installation.keyRegistry.value = .ok registry ∧
      registry.keys = active.toList ++
        keys.filter fun key => !active.any fun own => key.id == own.id :=
  exists_keyRegistry_of_listedKeys hactive hlisted
    (listedKeys_eq_ok installation.settings.keysPath active hkeys)
    (hdistinct.sublist (List.filter_sublist.map PublishedKey.id))

/-- A secret that cannot be read is a failure to sign and nothing else. Let an installation name its
key and the window in which it is in use, without giving its public key, and let the calendar be
readable and the document of published keys list keys under different identifiers. Then a service is
set up with every secret and with none, and exchanges and schedules are answered alike with all of
them. If the secret cannot be read, the published keys are the listed ones, and whatever is forced
or broken around the desk, every receipt for a market of the calendar and every one about the
service itself is answered by the report that nothing can be signed. -/
theorem bad_secret_only_fails_to_sign
    (hunset : installation.settings.publicKey = none ∨ installation.settings.publicKey = some "")
    (hid : Text.isBlankText installation.settings.keyId = false)
    (hwindow : installation.settings.HasWindow)
    (hcalendar : installation.calendar.value.1 = .ok calendar)
    (hlisted : (installation.files.load (some installation.settings.keysPath)).value =
      .ok (.arr entries))
    (hkeys : entries.mapM PublishedKey.ofJson = .ok keys)
    (hdistinct : (keys.map PublishedKey.id).Nodup) (newId : Nat → Json) (secret : Option String) :
    ∃ setup, ((installation.withSecret secret).deskSetup newId).value.1 = .ok setup ∧
      (∀ another other, ((installation.withSecret another).deskSetup newId).value.1 = .ok other →
        ∀ desk : Desk, desk.answer setup .exchanges = desk.answer other .exchanges ∧
          ∀ mic, desk.answer setup (.schedule mic) = desk.answer other (.schedule mic)) ∧
      ∀ failure, Secret.seed installation.scheme secret = .error failure →
        setup.keys.keys = keys ∧
        ∀ desk : Desk,
          (∀ mic, Mic.orDefault mic Mic.default ∈ calendar.supported →
            (desk.answer setup (.demo mic)).value.1 = .ok Service.offline) ∧
          (desk.answer setup .health).value.1 = .ok Service.offline := by
  -- With any secret, a service is set up on one and the same schedule.
  have hbuilds : ∀ secret, ∃ active setup,
      ((installation.withSecret secret).deskSetup newId).value.1 = .ok setup ∧
      setup.schedule = ⟨calendar, Schedule.defaultLookahead, by decide⟩ ∧
      setup.note = Service.defaultNote ∧ setup.signer.secret = secret ∧
      (∀ failure, Secret.seed installation.scheme secret = .error failure → active = none) ∧
      setup.keys.keys = active.toList ++
        keys.filter fun key => !active.any fun own => key.id == own.id := by
    intro secret
    have hpublishes : ∃ active, (installation.withSecret secret).activeKey.value = .ok active :=
      exists_activeKey_iff.mpr ⟨hid, .inr hwindow⟩
    obtain ⟨active, hactive⟩ := hpublishes
    have hnone (failure : Failure) (hsecret : Secret.seed installation.scheme secret =
        .error failure) : active = none := by
      have hlacks : (installation.withSecret secret).LacksKey := ⟨hunset, failure, hsecret⟩
      exact Except.ok.inj (hactive.symm.trans (activeKey_of_lacksKey hid hlacks))
    obtain ⟨registry, hregistry, hpublished⟩ := exists_keyRegistry hactive hlisted hkeys hdistinct
    obtain ⟨setup, hsetup, hschedule, hnote, hsecret, rfl⟩ := exists_deskSetup newId
      ((installation.calendar_withSecret secret).trans hcalendar) hid hregistry
    exact ⟨active, setup, hsetup, hschedule, hnote, hsecret, hnone, hpublished⟩
  obtain ⟨active, setup, hsetup, hschedule, hnote, hsecret, hnone, hpublished⟩ := hbuilds secret
  refine ⟨setup, hsetup, ?_, ?_⟩
  · intro another other hother desk
    obtain ⟨-, built, hbuilt, hschedule', hnote', -⟩ := hbuilds another
    obtain rfl := Except.ok.inj (hbuilt.symm.trans hother)
    have hsame := hschedule.trans hschedule'.symm
    exact ⟨desk.exchanges_eq_of_schedule hsame,
      fun mic => desk.schedule_eq_of_schedule mic hsame
        (scheduleFault_eq_of_deskSetup hsetup hother) (hnote.trans hnote'.symm)⟩
  · intro failure hfailure
    have hseed : Secret.seed setup.scheme setup.signer.secret = .error failure := by
      obtain ⟨-, -, hscheme⟩ := exists_parts_of_deskSetup hsetup
      rw [hscheme, hsecret]
      exact hfailure
    have hsign := Desk.sign_ne_ok hseed
    have hcalendar : setup.schedule.calendar = calendar := by rw [hschedule]
    refine ⟨?_, fun desk => ⟨fun mic hmic => ?_, ?_⟩⟩
    · rw [hpublished, hnone failure hfailure]
      simp
    · rw [Desk.value_answer]
      refine Service.demo_of_unsigned (hsign desk) ?_
      show _ ∈ setup.schedule.calendar.supported
      rw [hcalendar]
      exact hmic
    · rw [Desk.value_answer]
      exact Service.health_of_unsigned (hsign desk)

end

/-- An installation whose secret is no key, with a document that lists the key of last year. -/
def withListedKey : Installation where
  settings := {
    variablesPath := Settings.defaultVariablesPath
    secret := some "-----BEGIN"
    publicKey := none
    keyId := Settings.defaultKeyId
    validFrom := Settings.defaultValidFrom
    validUntil := some "2027-01-01T00:00:00Z"
    home := "/" }
  files := ⟨[], [(["config", "keys.json"], .file (Text.Utf8.encode
    "[\x7b\"key_id\":\"key_2025\",\"public_key\":\"00\",\"valid_from\":\"2025-01-01\"\x7d]"))]⟩
  zones := ⟨fun _ => none, []⟩
  scheme := .ed25519
  calendar? := some Schedule.spring.calendar

/-- The identifiers of the keys that a document lists. -/
def listedIds? [Platform] : Json → Option (List String)
  | .arr entries => (entries.mapM PublishedKey.ofJson).toOption.map (·.map PublishedKey.id)
  | _ => none

theorem bad_secret_withListedKey : ∃ setup,
    (withListedKey.deskSetup fun _ => .str "id").value.1 = .ok setup ∧
      setup.keys.keys.map PublishedKey.id = ["key_2025"] ∧
      (Desk.start.answer setup (.demo (some "xlon"))).value.1 = .ok Service.offline ∧
      (Desk.start.answer setup .health).value.1 = .ok Service.offline := by
  have hread : (withListedKey.files.load (some withListedKey.settings.keysPath)).value.toOption.bind
      listedIds? = some ["key_2025"] := by decide +kernel
  obtain ⟨document, hdocument, hread⟩ := Option.bind_eq_some_iff.mp hread
  have hwindow : withListedKey.settings.HasWindow :=
    ⟨.utc ⟨1767225600000000, by decide, by decide⟩,
      some (.utc ⟨1798761600000000, by decide, by decide⟩),
      toOption_eq_some_iff.mp (by decide +kernel), toOption_eq_some_iff.mp (by decide +kernel),
      toOption_eq_some_iff.mp (by decide +kernel)⟩
  have hsecret : (Secret.seed withListedKey.scheme (some "-----BEGIN")).toOption = none := by
    decide +kernel
  cases hseed : Secret.seed withListedKey.scheme (some "-----BEGIN") with
  | ok seed =>
    rw [hseed] at hsecret
    cases hsecret
  | error failure =>
    cases document with
    | arr entries =>
      obtain ⟨keys, hkeys, hids⟩ := Option.map_eq_some_iff.mp hread
      have hdocument := toOption_eq_some_iff.mp hdocument
      have hdistinct : (keys.map PublishedKey.id).Nodup := by
        rw [hids]
        decide
      obtain ⟨setup, hsetup, -, hunsigned⟩ := bad_secret_only_fails_to_sign (.inl rfl)
        (by decide +kernel) hwindow rfl hdocument (toOption_eq_some_iff.mp hkeys) hdistinct
        (fun _ => .str "id") (some "-----BEGIN")
      obtain ⟨rfl, hanswers⟩ := hunsigned failure hseed
      obtain ⟨hdemo, hhealth⟩ := hanswers .start
      exact ⟨setup, hsetup, hids, hdemo (some "xlon") (by decide +kernel), hhealth⟩
    | _ => cases hread

end Installation

end TradingStatus
