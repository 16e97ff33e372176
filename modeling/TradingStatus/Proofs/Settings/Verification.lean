import TradingStatus.Platform.Standard
import TradingStatus.Proofs.Schedule.Agreement
import TradingStatus.Proofs.Service.Answers
import TradingStatus.Proofs.Settings.Wiring

/-! When those who look up the key of a receipt among the published ones can verify it. The signer
and the published key take their parts of the settings by different ways: the identifier of the
signer is trimmed, that of the published key is not, and a public key that holds nothing but blanks
is published as one without digits. Where neither makes a difference, every receipt verifies; where
one does, none verifies, unless a document lists a key that fits. -/

namespace TradingStatus

namespace DeskSetup

/-- The signature of a receipt is one of its other members under a published key. -/
def VerifiesUnder (setup : DeskSetup) (members : List (String × Json)) (key : PublishedKey) :
    Prop :=
  setup.scheme.verifyFields (members.filter fun member => member.1 != "signature")
    (Json.member members "signature") (.str key.publicKey) = true

/-- A receipt verifies under the key that is published under the identifier that it names. -/
def Verifies (setup : DeskSetup) (members : List (String × Json)) : Prop :=
  ∃ id key, Json.member members "signing_key_id" = .str id ∧ setup.keys.find? id = some key ∧
    setup.VerifiesUnder members key

variable {setup : DeskSetup} {members : List (String × Json)} {key : PublishedKey} {id : String}

theorem verifies_iff_of_named (hnamed : Json.member members "signing_key_id" = .str id) :
    setup.Verifies members ↔
      ∃ key, setup.keys.find? id = some key ∧ setup.VerifiesUnder members key := by
  constructor
  · rintro ⟨named, key, hid, hfind, hverifies⟩
    obtain rfl := Json.str.inj (hid.symm.trans hnamed)
    exact ⟨key, hfind, hverifies⟩
  · rintro ⟨key, hfind, hverifies⟩
    exact ⟨id, key, hnamed, hfind, hverifies⟩

theorem verifiesUnder_of_signed {seed : List UInt8} {signature : String}
    (hsound : setup.scheme.Sound) (hseed : Secret.seed setup.scheme setup.signer.secret = .ok seed)
    (hcarried : Json.member members "signature" = .str signature)
    (hsign : setup.signer.sign setup.scheme (members.filter fun member => member.1 != "signature") =
      .ok signature)
    (hkey : key.publicKey = Text.Hex.encode (setup.scheme.publicKey seed)) :
    setup.VerifiesUnder members key := by
  unfold VerifiesUnder
  rw [hcarried, hkey]
  exact Signer.verifyFields_of_sign hsound hseed hsign

theorem not_verifiesUnder_of_empty (hrefuses : setup.scheme.RefusesNoKey)
    (hkey : key.publicKey = "") : ¬setup.VerifiesUnder members key := by
  unfold VerifiesUnder
  rw [hkey, SignatureScheme.verifyFields_empty hrefuses]
  exact Bool.false_ne_true

end DeskSetup

namespace Installation

variable {installation : Installation} {newId : Nat → Json} {setup : DeskSetup}
  {seed : List UInt8} {members : List (String × Json)}

/-- Without a public key in the settings, the one of the secret is found under their identifier. -/
theorem find?_of_unset [Platform] (hsetup : (installation.deskSetup newId).value.1 = .ok setup)
    (hseed : Secret.seed installation.scheme installation.settings.secret = .ok seed)
    (hunset : installation.settings.publicKey = none ∨ installation.settings.publicKey = some "") :
    ∃ key, setup.keys.find? installation.settings.keyId = some key ∧
      key.publicKey = Text.Hex.encode (installation.scheme.publicKey seed) := by
  obtain ⟨-, hkeys, -⟩ := exists_parts_of_deskSetup hsetup
  obtain ⟨active, others, hactive, hlisted⟩ := exists_keys_of_keyRegistry hkeys
  obtain ⟨key, rfl, hid, hpublicKey⟩ := derived_of_activeKey hseed hunset hactive
  exact ⟨key, KeyRegistry.find?_eq_some_iff.mpr ⟨hlisted ▸ List.mem_cons_self, hid⟩, hpublicKey⟩

/-- A blank public key in the settings is found under their identifier, without digits. -/
theorem find?_of_blank [Platform] (hsetup : (installation.deskSetup newId).value.1 = .ok setup)
    (hblank : ∀ publicKey ∈ installation.settings.publicKey, Text.isBlankText publicKey = true)
    (hset : ¬(installation.settings.publicKey = none ∨ installation.settings.publicKey = some "")) :
    ∃ key, setup.keys.find? installation.settings.keyId = some key ∧ key.publicKey = "" := by
  obtain ⟨-, hkeys, -⟩ := exists_parts_of_deskSetup hsetup
  obtain ⟨active, others, hactive, hlisted⟩ := exists_keys_of_keyRegistry hkeys
  cases hgiven : installation.settings.publicKey with
  | none => exact absurd (.inl hgiven) hset
  | some publicKey =>
    have hfilled : publicKey ≠ "" := fun hempty => hset (.inr (hempty ▸ hgiven))
    obtain ⟨key, rfl, hid, hpublicKey⟩ := given_of_activeKey hgiven hfilled hactive
    rw [Text.trim_of_isBlankText (hblank publicKey hgiven)] at hpublicKey
    exact ⟨key, KeyRegistry.find?_eq_some_iff.mpr ⟨hlisted ▸ List.mem_cons_self, hid⟩, hpublicKey⟩

/-- Let the secret of an installation be readable, and let its settings give no public key, or a
blank one. A receipt that its service answers with verifies under the published key exactly when the
identifier of the settings has no blanks at its ends and the public key is left out or empty, or
else when the identifier does have such blanks and a document lists, under the identifier without
them, a key that the receipt verifies under. -/
theorem receipt_verifies_iff [Platform] {accepts? : Option (String → Bool)} {desk : Desk}
    {request : Request} {mic : String} {tiers : List Tier}
    (hsetup : (installation.deskSetup newId).value.1 = .ok setup)
    (hseed : Secret.seed installation.scheme installation.settings.secret = .ok seed)
    (hblank : ∀ publicKey ∈ installation.settings.publicKey, Text.isBlankText publicKey = true)
    (hsound : installation.scheme.Sound) (hrefuses : installation.scheme.RefusesNoKey)
    (hsearch : request.search? = some (mic, tiers))
    (hanswer : (desk.answer { setup with accepts? } request).value.1 = .ok ⟨200, .obj members⟩) :
    setup.Verifies members ↔
      (Text.trim installation.settings.keyId = installation.settings.keyId ∧
        (installation.settings.publicKey = none ∨ installation.settings.publicKey = some "")) ∨
      (Text.trim installation.settings.keyId ≠ installation.settings.keyId ∧
        ∃ key ∈ setup.keys.keys, key.id = Text.trim installation.settings.keyId ∧
          setup.VerifiesUnder members key) := by
  obtain ⟨hsigner, -, hscheme⟩ := exists_parts_of_deskSetup hsetup
  obtain ⟨-, hparts⟩ := Signer.ofParts_eq_ok_iff.mp hsigner
  obtain ⟨hnamed, signature, hcarried, hsign⟩ := Desk.exists_signature_of_answer hsearch hanswer
  simp only [hparts] at hnamed
  rw [DeskSetup.verifies_iff_of_named hnamed]
  by_cases htrim : Text.trim installation.settings.keyId = installation.settings.keyId
  · rw [htrim]
    by_cases hunset : installation.settings.publicKey = none ∨
        installation.settings.publicKey = some ""
    · obtain ⟨key, hfind, hkey⟩ := find?_of_unset hsetup hseed hunset
      have hsecret : Secret.seed setup.scheme setup.signer.secret = .ok seed := by
        rw [hscheme, hparts]
        exact hseed
      rw [← hscheme] at hsound hkey
      refine iff_of_true ⟨key, hfind, ?_⟩ (.inl ⟨rfl, hunset⟩)
      exact DeskSetup.verifiesUnder_of_signed hsound hsecret hcarried hsign hkey
    · obtain ⟨key, hfind, hkey⟩ := find?_of_blank hsetup hblank hunset
      rw [← hscheme] at hrefuses
      refine iff_of_false ?_ (fun h => h.elim (fun h => hunset h.2) (fun h => h.1 rfl))
      rintro ⟨found, hfound, hverifies⟩
      obtain rfl := Option.some.inj (hfind.symm.trans hfound)
      exact DeskSetup.not_verifiesUnder_of_empty hrefuses hkey hverifies
  · -- The active key is published under another identifier, so only a listed one can be found.
    simp only [KeyRegistry.find?_eq_some_iff, htrim, false_and, false_or, ne_eq, not_false_eq_true,
      true_and, and_assoc]

end Installation

/-- Ed25519 as far as one signer goes: nobody else signs, and only what that one signs verifies. -/
def SignatureScheme.ed25519Of (owner : List UInt8) : SignatureScheme where
  publicKey := Ed25519.publicKey
  sign seed message :=
    if seed = owner then .ok (Ed25519.sign seed message) else .error "not the signer"
  verify publicKey signature message :=
    publicKey == Ed25519.publicKey owner && signature == Ed25519.sign owner message
  readPem := PrivateKey.ofPem?
  readDer := PrivateKey.ofDer?

theorem SignatureScheme.sound_ed25519Of (owner : List UInt8) : (ed25519Of owner).Sound := by
  intro seed message signature h
  simp only [ed25519Of] at h
  split at h
  · next howner =>
    obtain rfl := Except.ok.inj h
    simp [ed25519Of, howner]
  · cases h

theorem SignatureScheme.refusesNoKey_ed25519Of (owner : List UInt8) :
    (ed25519Of owner).RefusesNoKey := by
  intro signature message
  have hlength : (Ed25519.publicKey owner).length = 32 := by
    simp [Ed25519.publicKey, Ed25519.Point.encode, length_toBytesLE]
  have hne : [] ≠ Ed25519.publicKey owner := by
    intro h
    rw [← h] at hlength
    cases hlength
  simp only [ed25519Of, beq_false_of_ne hne, Bool.false_and]

namespace Installation

/-- The bytes of the secret below. -/
def sampleSeed : List UInt8 :=
  [0x9d, 0x61, 0xb1, 0x9d, 0xef, 0xfd, 0x5a, 0x60, 0xba, 0x84, 0x4a, 0xf4, 0x92, 0xec, 0x2c, 0xc4,
    0x44, 0x49, 0xc5, 0x69, 0x7b, 0x32, 0x69, 0x19, 0x70, 0x3b, 0xac, 0x03, 0x1c, 0xae, 0x7f, 0x60]

/-- An installation with a secret, an identifier for its key and a public key that may be left out.
-/
def sample (keyId : String) (publicKey : Option String) : Installation where
  settings := {
    variablesPath := Settings.defaultVariablesPath
    secret := some "9d61b19deffd5a60ba844af492ec2cc44449c5697b326919703bac031cae7f60"
    publicKey, keyId
    validFrom := Settings.defaultValidFrom
    validUntil := none
    home := "/" }
  files := ⟨[], []⟩
  zones := ⟨fun _ => none, []⟩
  scheme := .ed25519Of sampleSeed
  calendar? := some Schedule.spring.calendar

/-- The desk of an installation at 12:00 UTC on Friday, 27 March 2026. -/
def deskAtNoon (installation : Installation) : Desk :=
  installation.desk (some (.utc ⟨1774612800000000, by decide, by decide⟩))

/-- With blanks around the identifier of its key, the service of an installation answers with a
receipt that does not verify. -/
theorem not_verifies_of_blanks_around_id : ∃ setup members,
    ((sample " key1 " none).deskSetup fun _ => .str "id").value.1 = .ok setup ∧
    ((sample " key1 " none).deskAtNoon.answer setup .health).value.1 = .ok ⟨200, .obj members⟩ ∧
    ¬setup.Verifies members := by
  have hseed : Secret.seed (sample " key1 " none).scheme (sample " key1 " none).settings.secret =
      .ok sampleSeed := toOption_eq_some_iff.mp (by decide +kernel)
  have htrim : Text.trim " key1 " = "key1" := by decide +kernel
  have hrun : (((sample " key1 " none).deskSetup fun _ => .str "id").value.1.toOption.bind
      fun setup => (Response.success?
        ((sample " key1 " none).deskAtNoon.answer setup .health).value.1).map
          fun _ => setup.keys.keys.map PublishedKey.id) = some [" key1 "] := by decide +kernel
  obtain ⟨setup, hsetup, hanswered⟩ := Option.bind_eq_some_iff.mp hrun
  obtain ⟨members, hmembers, hids⟩ := Option.map_eq_some_iff.mp hanswered
  have hanswer := Response.success?_eq_some_iff.mp hmembers
  have hsetup := toOption_eq_some_iff.mp hsetup
  refine ⟨setup, members, hsetup, hanswer, ?_⟩
  rw [receipt_verifies_iff hsetup hseed (by intro _ h; cases h)
    (SignatureScheme.sound_ed25519Of _) (SignatureScheme.refusesNoKey_ed25519Of _) rfl hanswer]
  rintro (⟨hsame, -⟩ | ⟨-, key, hmem, hid, -⟩)
  · exact absurd (htrim.symm.trans hsame) (by decide)
  · have hlisted := List.mem_map_of_mem (f := PublishedKey.id) hmem
    rw [hids, List.mem_singleton, hid] at hlisted
    exact absurd (htrim.symm.trans hlisted) (by decide)

/-- With a public key of nothing but blanks, the service of an installation answers with a receipt
that does not verify either. -/
theorem not_verifies_of_blank_public_key : ∃ setup members,
    ((sample "key1" (some " ")).deskSetup fun _ => .str "id").value.1 = .ok setup ∧
    ((sample "key1" (some " ")).deskAtNoon.answer setup .health).value.1 = .ok ⟨200, .obj members⟩ ∧
    ¬setup.Verifies members := by
  have htrim : Text.trim "key1" = "key1" := by decide +kernel
  have hrun : (((sample "key1" (some " ")).deskSetup fun _ => .str "id").value.1.toOption.bind
      fun setup => (Response.success?
        ((sample "key1" (some " ")).deskAtNoon.answer setup .health).value.1).map
          fun _ => ()) = some () := by decide +kernel
  obtain ⟨setup, hsetup, hanswered⟩ := Option.bind_eq_some_iff.mp hrun
  obtain ⟨members, hmembers, -⟩ := Option.map_eq_some_iff.mp hanswered
  have hanswer := Response.success?_eq_some_iff.mp hmembers
  have hsetup := toOption_eq_some_iff.mp hsetup
  refine ⟨setup, members, hsetup, hanswer, ?_⟩
  obtain ⟨hsigner, -, hscheme⟩ := exists_parts_of_deskSetup hsetup
  obtain ⟨-, hparts⟩ := Signer.ofParts_eq_ok_iff.mp hsigner
  obtain ⟨hnamed, -⟩ := Desk.exists_signature_of_answer rfl hanswer
  have hblank : ∀ publicKey ∈ (sample "key1" (some " ")).settings.publicKey,
      Text.isBlankText publicKey = true := by
    rintro _ ⟨⟩
    decide +kernel
  have hset : ¬((sample "key1" (some " ")).settings.publicKey = none ∨
      (sample "key1" (some " ")).settings.publicKey = some "") := by decide
  obtain ⟨key, hfind, hkey⟩ := find?_of_blank hsetup hblank hset
  rw [hparts] at hnamed
  rw [DeskSetup.verifies_iff_of_named (hnamed.trans (congrArg Json.str htrim))]
  rintro ⟨found, hfound, hverifies⟩
  obtain rfl := Option.some.inj (hfind.symm.trans hfound)
  have hrefuses := SignatureScheme.refusesNoKey_ed25519Of sampleSeed
  exact DeskSetup.not_verifiesUnder_of_empty (hscheme ▸ hrefuses) hkey hverifies

end Installation

end TradingStatus
