import TradingStatus.Proofs.Override.Entries
import TradingStatus.Proofs.Settings.Wiring

/-! Keys that are published: the active one, under the identifier and with the window of the
settings, and beside it those that a document lists under other identifiers. -/

namespace TradingStatus

namespace Settings

/-- The settings give a window in which the key is in use. -/
def HasWindow [Platform] (settings : Settings) : Prop :=
  ∃ validFrom validUntil,
    (PublishedKey.Bound.value (.str settings.validFrom)).read "valid_from" = .ok (some validFrom) ∧
      (PublishedKey.Bound.value (.ofText? settings.validUntil)).read "valid_until" =
        .ok validUntil ∧
      PublishedKey.checkWindow (some validFrom) validUntil = .ok ()

end Settings

namespace Installation

/-- There is no key to publish: no public key is given, and the secret is none to make it from. -/
def LacksKey (installation : Installation) : Prop :=
  (installation.settings.publicKey = none ∨ installation.settings.publicKey = some "") ∧
    ∃ failure, Secret.seed installation.scheme installation.settings.secret = .error failure

variable {installation : Installation} {entries : List Json} {keys others : List PublishedKey}
  {active : Option PublishedKey} {registry : KeyRegistry} {document : Json} {calendar : Calendar}
  [Platform]

/-! The active key -/

theorem exists_published_iff (publicKey : String) :
    (∃ active, (installation.published publicKey).map some = .ok active) ↔
      Text.isBlankText installation.settings.keyId = false ∧ installation.settings.HasWindow := by
  constructor
  · rintro ⟨active, h⟩
    obtain ⟨key, hkey, -⟩ := map_eq_ok_iff.mp h
    obtain ⟨name, text, validFrom, validUntil, hname, hid, -, hstart, hfinish, hwindow, -⟩ :=
      PublishedKey.ofBounds_eq_ok_iff.mp hkey
    rw [Json.str.inj hname]
    exact ⟨hid, validFrom, validUntil, hstart, hfinish, hwindow⟩
  · rintro ⟨hid, validFrom, validUntil, hstart, hfinish, hwindow⟩
    obtain ⟨key, hkey⟩ :=
      PublishedKey.exists_ofBounds (Text.trim publicKey) hid hstart hfinish hwindow
    exact ⟨some key, map_eq_ok_iff.mpr ⟨key, hkey, rfl⟩⟩

/-- An identifier that is blank is in the way of publishing a key, or of finding out that there is
none. -/
theorem isBlankText_of_activeKey (h : installation.activeKey.value = .ok active) :
    Text.isBlankText installation.settings.keyId = false := by
  by_cases hunset :
      installation.settings.publicKey = none ∨ installation.settings.publicKey = some ""
  · rw [activeKey_of_unset hunset] at h
    split at h
    · cases h
    · next signer hsigner => exact (Signer.ofParts_eq_ok_iff.mp hsigner).1
  · obtain ⟨publicKey, hgiven⟩ := Option.ne_none_iff_exists'.mp fun hnone => hunset (.inl hnone)
    rw [activeKey_of_given hgiven fun hempty => hunset (.inr (by rw [hgiven, hempty]))] at h
    exact ((exists_published_iff publicKey).mp ⟨active, h⟩).1

theorem activeKey_of_lacksKey (hid : Text.isBlankText installation.settings.keyId = false)
    (h : installation.LacksKey) : installation.activeKey.value = .ok none := by
  obtain ⟨hunset, failure, hseed⟩ := h
  rw [activeKey_of_unset hunset, signer_eq_ok hid]
  simp only [Signer.publicKeyHex, hseed]
  rfl

theorem activeKey_of_not_lacksKey (hid : Text.isBlankText installation.settings.keyId = false)
    (h : ¬installation.LacksKey) :
    ∃ publicKey, installation.activeKey.value = (installation.published publicKey).map some := by
  by_cases hunset :
      installation.settings.publicKey = none ∨ installation.settings.publicKey = some ""
  · rw [activeKey_of_unset hunset, signer_eq_ok hid]
    simp only [Signer.publicKeyHex]
    cases hseed : Secret.seed installation.scheme installation.settings.secret with
    | error failure => exact absurd ⟨hunset, failure, hseed⟩ h
    | ok seed => exact ⟨_, rfl⟩
  · obtain ⟨publicKey, hgiven⟩ := Option.ne_none_iff_exists'.mp fun hnone => hunset (.inl hnone)
    exact ⟨publicKey, congrArg Logged.value
      (activeKey_of_given hgiven fun hempty => hunset (.inr (by rw [hgiven, hempty])))⟩

/-- A key is published, or there is none, unless the identifier is blank or the window is none. -/
theorem exists_activeKey_iff : (∃ active, installation.activeKey.value = .ok active) ↔
    Text.isBlankText installation.settings.keyId = false ∧
      (installation.LacksKey ∨ installation.settings.HasWindow) := by
  constructor
  · rintro ⟨active, h⟩
    have hid := isBlankText_of_activeKey h
    by_cases hlacks : installation.LacksKey
    · exact ⟨hid, .inl hlacks⟩
    · obtain ⟨publicKey, hpublished⟩ := activeKey_of_not_lacksKey hid hlacks
      exact ⟨hid, .inr ((exists_published_iff publicKey).mp ⟨active, hpublished ▸ h⟩).2⟩
  · rintro ⟨hid, hlacks | hwindow⟩
    · exact ⟨none, activeKey_of_lacksKey hid hlacks⟩
    · by_cases hlacks : installation.LacksKey
      · exact ⟨none, activeKey_of_lacksKey hid hlacks⟩
      · obtain ⟨publicKey, hpublished⟩ := activeKey_of_not_lacksKey hid hlacks
        rw [hpublished]
        exact (exists_published_iff publicKey).mpr ⟨hid, hwindow⟩

/-! The other keys -/

/-- The entries that a document of keys lists, if it is one; a vacant document lists none. -/
def keyEntries? (document : Json) : Option (List Json) :=
  if document.isVacant then some []
  else
    match document with
    | .arr entries => some entries
    | _ => none

theorem listedKeys_eq_ok_iff {path : String} : listedKeys path active document = .ok others ↔
    ∃ entries, keyEntries? document = some entries ∧
      (entries.filter fun entry => !isOf active entry).mapM PublishedKey.ofJson = .ok others := by
  unfold listedKeys keyEntries?
  split
  · constructor
    · intro h
      exact ⟨[], rfl, h⟩
    · rintro ⟨entries, hentries, h⟩
      obtain rfl := Option.some.inj hentries
      exact h
  · cases document <;> simp

/-- An entry of a key goes by the identifier of the active key if the key does. -/
theorem isOf_eq {entry : Json} {key : PublishedKey} (h : PublishedKey.ofJson entry = .ok key) :
    isOf active entry = active.any fun own => key.id == own.id := by
  obtain ⟨members, rfl, hid⟩ := PublishedKey.member_of_ofJson h
  cases active with
  | none => rfl
  | some own =>
    simp only [isOf, hid, Json.text?, Option.any_some]
    rfl

/-- Which keys of a document count beside the active one: those under other identifiers. -/
theorem listedKeys_eq_ok (path : String) (active : Option PublishedKey)
    (hkeys : entries.mapM PublishedKey.ofJson = .ok keys) :
    listedKeys path active (.arr entries) =
      .ok (keys.filter fun key => !active.any fun own => key.id == own.id) := by
  refine listedKeys_eq_ok_iff.mpr ⟨entries, ?_, mapM_filter_eq_ok hkeys fun entry key hkey => ?_⟩
  · cases entries <;> rfl
  · rw [isOf_eq hkey]

/-- The other keys are listed by the document in the file, whether there is one or not. -/
theorem otherKeys_eq_ok_iff : (installation.otherKeys active).value = .ok others ↔
    ∃ document, (installation.files.load (some installation.settings.keysPath)).value =
        .ok document ∧ listedKeys installation.settings.keysPath active document = .ok others := by
  simp only [otherKeys]
  split
  · next hpath =>
    rw [Files.value_load_of_not_hasPath (by simpa using hpath)]
    simp only [Except.ok.injEq, exists_eq_left']
    rfl
  · exact bind_eq_ok_iff

/-- The keys that count beside the active one go by other identifiers. -/
theorem nodup_of_listedKeys {path : String} (h : listedKeys path active document = .ok others) :
    ((active.toList ++ others).map PublishedKey.id).Nodup ↔
      (others.map PublishedKey.id).Nodup := by
  cases active with
  | none => rfl
  | some own =>
    obtain ⟨entries, -, hkeys⟩ := listedKeys_eq_ok_iff.mp h
    have hfresh : own.id ∉ others.map PublishedKey.id := by
      intro hmem
      obtain ⟨key, hkey, hsame⟩ := List.mem_map.mp hmem
      obtain ⟨entry, hentry, hread⟩ := (mem_iff_of_mapM hkeys).mp hkey
      simpa [isOf_eq hread, hsame] using (List.mem_filter.mp hentry).2
    simpa using fun _ => hfresh

theorem exists_keyRegistry_of_listedKeys (hactive : installation.activeKey.value = .ok active)
    (hdocument : (installation.files.load (some installation.settings.keysPath)).value =
      .ok document)
    (hothers : listedKeys installation.settings.keysPath active document = .ok others)
    (hdistinct : (others.map PublishedKey.id).Nodup) :
    ∃ registry, installation.keyRegistry.value = .ok registry ∧
      registry.keys = active.toList ++ others := by
  obtain ⟨registry, hregistry⟩ :=
    KeyRegistry.exists_ofKeys ((nodup_of_listedKeys hothers).mpr hdistinct)
  refine ⟨registry, keyRegistry_eq_ok_iff.mpr ⟨active, others, hactive, ?_, hregistry⟩,
    KeyRegistry.keys_of_ofKeys hregistry⟩
  exact otherKeys_eq_ok_iff.mpr ⟨document, hdocument, hothers⟩

/-- All keys that are published were read from a document or made of the settings. -/
theorem exists_ofBounds_of_mem {key : PublishedKey}
    (h : installation.keyRegistry.value = .ok registry) (hmem : key ∈ registry.keys) :
    ∃ id publicKey start finish, PublishedKey.ofBounds id publicKey start finish = .ok key := by
  obtain ⟨active, others, hactive, hothers, hkeys⟩ := keyRegistry_eq_ok_iff.mp h
  rw [KeyRegistry.keys_of_ofKeys hkeys] at hmem
  rcases List.mem_append.mp hmem with hown | hother
  · obtain rfl := Option.mem_toList.mp hown
    have hid := isBlankText_of_activeKey hactive
    by_cases hlacks : installation.LacksKey
    · cases hactive.symm.trans (activeKey_of_lacksKey hid hlacks)
    · obtain ⟨publicKey, hpublished⟩ := activeKey_of_not_lacksKey hid hlacks
      obtain ⟨_, hkey, hsame⟩ := map_eq_ok_iff.mp (hpublished.symm.trans hactive)
      obtain rfl := Option.some.inj hsame
      exact ⟨_, _, _, _, hkey⟩
  · obtain ⟨document, -, hlisted⟩ := otherKeys_eq_ok_iff.mp hothers
    obtain ⟨entries, -, hread⟩ := listedKeys_eq_ok_iff.mp hlisted
    obtain ⟨entry, -, hentry⟩ := (mem_iff_of_mapM hread).mp hother
    obtain ⟨members, -, hkey⟩ := PublishedKey.exists_members_of_ofJson hentry
    exact ⟨_, _, _, _, hkey⟩

/-- What it takes to publish keys. The identifier in the settings is not blank, and there is a
window for the active key unless there is no such key; and the document, if there is one, lists keys
under different identifiers, besides entries for the active key, which are left out. -/
theorem exists_keyRegistry_iff : (∃ registry, installation.keyRegistry.value = .ok registry) ↔
    Text.isBlankText installation.settings.keyId = false ∧
      (installation.LacksKey ∨ installation.settings.HasWindow) ∧
      ∀ active, installation.activeKey.value = .ok active →
        ∃ document entries others,
          (installation.files.load (some installation.settings.keysPath)).value = .ok document ∧
          keyEntries? document = some entries ∧
          (entries.filter fun entry => !isOf active entry).mapM PublishedKey.ofJson = .ok others ∧
          (others.map PublishedKey.id).Nodup := by
  constructor
  · rintro ⟨registry, hregistry⟩
    obtain ⟨active, others, hactive, hothers, hkeys⟩ := keyRegistry_eq_ok_iff.mp hregistry
    obtain ⟨hid, hpublishes⟩ := exists_activeKey_iff.mp ⟨active, hactive⟩
    refine ⟨hid, hpublishes, fun _ hagain => ?_⟩
    obtain rfl := Except.ok.inj (hactive.symm.trans hagain)
    obtain ⟨document, hdocument, hlisted⟩ := otherKeys_eq_ok_iff.mp hothers
    obtain ⟨entries, hentries, hread⟩ := listedKeys_eq_ok_iff.mp hlisted
    refine ⟨document, entries, others, hdocument, hentries, hread, ?_⟩
    rw [← nodup_of_listedKeys hlisted, ← KeyRegistry.keys_of_ofKeys hkeys]
    exact registry.nodup
  · rintro ⟨hid, hpublishes, hlists⟩
    obtain ⟨active, hactive⟩ := exists_activeKey_iff.mpr ⟨hid, hpublishes⟩
    obtain ⟨document, entries, others, hdocument, hentries, hread, hdistinct⟩ :=
      hlists active hactive
    obtain ⟨registry, hregistry, -⟩ := exists_keyRegistry_of_listedKeys hactive hdocument
      (listedKeys_eq_ok_iff.mpr ⟨entries, hentries, hread⟩) hdistinct
    exact ⟨registry, hregistry⟩

/-! The service -/

/-- A calendar, an identifier and the published keys are enough to set up a service. -/
theorem exists_deskSetup (newId : Nat → Json)
    (hcalendar : installation.calendar.value.1 = .ok calendar)
    (hid : Text.isBlankText installation.settings.keyId = false)
    (hkeys : installation.keyRegistry.value = .ok registry) :
    ∃ setup, (installation.deskSetup newId).value.1 = .ok setup ∧
      setup.schedule = ⟨calendar, Schedule.defaultLookahead, by decide⟩ ∧
      setup.note = Service.defaultNote ∧ setup.signer.secret = installation.settings.secret ∧
      setup.keys = registry := by
  obtain ⟨lifetime, hlifetime⟩ := exists_lifetime
  exact ⟨_, deskSetup_eq_ok_iff.mpr ⟨calendar, _, registry, hcalendar, setup_eq_ok_iff.mpr
    ⟨_, lifetime, signer_eq_ok hid, hlifetime, rfl⟩, hkeys, rfl⟩, rfl, rfl, rfl, rfl⟩

end Installation

end TradingStatus
