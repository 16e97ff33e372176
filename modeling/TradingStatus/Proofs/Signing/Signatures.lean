import TradingStatus.Proofs.Results
import TradingStatus.Proofs.Text.Hex
import TradingStatus.Signing.KeyRegistry
import TradingStatus.Signing.Signer

/-! Signatures and the keys that they verify under. A signer signs under the identifier that is left
when blanks are trimmed; a published key is found under exactly the identifier that it is published
under. -/

namespace TradingStatus

namespace SignatureScheme

/-- Nothing verifies under a key without bytes. -/
def RefusesNoKey (scheme : SignatureScheme) : Prop :=
  ∀ signature message, scheme.verify [] signature message = false

theorem refusesNoKey_ed25519 : ed25519.RefusesNoKey := by
  intro signature message
  simp [ed25519, Ed25519.verify]

end SignatureScheme

namespace Signer

variable {secret : Option String} {keyId signature : String} {signer : Signer}
  {scheme : SignatureScheme} {members : List (String × Json)} {seed : List UInt8}

/-- A signer goes by what is left of an identifier when its blanks are trimmed. -/
theorem ofParts_eq_ok_iff : ofParts secret (.str keyId) = .ok signer ↔
    Text.isBlankText keyId = false ∧ signer = ⟨secret, Text.trim keyId⟩ := by
  cases hblank : Text.isBlankText keyId <;> simp [ofParts, hblank, eq_comm (a := signer)]

theorem sign_eq_ok_iff : signer.sign scheme members = .ok signature ↔ ∃ fields seed bytes,
    SignedFields.ofMembers members = .ok fields ∧ Secret.seed scheme signer.secret = .ok seed ∧
      scheme.sign seed fields.payloadBytes = .ok bytes ∧ Text.Hex.encode bytes = signature := by
  simp only [sign, bind_eq_ok_iff]
  constructor
  · rintro ⟨fields, hfields, seed, hseed, hsign⟩
    cases hbytes : scheme.sign seed fields.payloadBytes with
    | error reason =>
      rw [hbytes] at hsign
      cases hsign
    | ok bytes =>
      rw [hbytes] at hsign
      exact ⟨fields, seed, bytes, hfields, hseed, hbytes, Except.ok.inj hsign⟩
  · rintro ⟨fields, seed, bytes, hfields, hseed, hbytes, rfl⟩
    refine ⟨fields, hfields, seed, hseed, ?_⟩
    rw [hbytes]
    rfl

/-- A signature verifies under the public key of the secret that made it. -/
theorem verifyFields_of_sign (hsound : scheme.Sound)
    (hseed : Secret.seed scheme signer.secret = .ok seed)
    (h : signer.sign scheme members = .ok signature) :
    scheme.verifyFields members (.str signature)
      (.str (Text.Hex.encode (scheme.publicKey seed))) = true := by
  obtain ⟨fields, seed', bytes, hfields, hseed', hbytes, rfl⟩ := sign_eq_ok_iff.mp h
  obtain rfl := Except.ok.inj (hseed.symm.trans hseed')
  simp only [SignatureScheme.verifyFields, hfields, Text.Hex.decode?_encode]
  exact hsound seed _ bytes hbytes

/-- A signature verifies under the public key of the signer that made it, which has one. -/
theorem exists_publicKey_of_sign (hsound : scheme.Sound)
    (h : signer.sign scheme members = .ok signature) :
    ∃ publicKey, signer.publicKeyHex scheme = .ok publicKey ∧
      scheme.verifyFields members (.str signature) (.str publicKey) = true := by
  obtain ⟨_, seed, _, -, hseed, -⟩ := sign_eq_ok_iff.mp h
  refine ⟨Text.Hex.encode (scheme.publicKey seed), ?_, verifyFields_of_sign hsound hseed h⟩
  rw [publicKeyHex, hseed]
  rfl

end Signer

theorem SignatureScheme.verifyFields_empty {scheme : SignatureScheme}
    (hrefuses : scheme.RefusesNoKey) (members : List (String × Json)) (signature : Json) :
    scheme.verifyFields members signature (.str "") = false := by
  have hdecode : Text.Hex.decode? "" = some [] := rfl
  unfold verifyFields
  cases SignedFields.ofMembers members with
  | error failure => cases signature <;> rfl
  | ok fields =>
    cases signature with
    | str signature =>
      simp only [hdecode]
      cases Text.Hex.decode? signature with
      | none => rfl
      | some bytes => exact hrefuses bytes _
    | _ => rfl

namespace PublishedKey

variable {id publicKey : String} {start finish : Bound} {key : PublishedKey} [Platform]

/-- A key takes an identifier that is not blank, a public key, and a window that has a start and ends
after it. -/
theorem ofBounds_eq_ok_iff {id publicKey : Json} :
    ofBounds id publicKey start finish = .ok key ↔
    ∃ name text validFrom validUntil, id = .str name ∧ Text.isBlankText name = false ∧
      publicKey = .str text ∧ start.read "valid_from" = .ok (some validFrom) ∧
      finish.read "valid_until" = .ok validUntil ∧
      checkWindow (some validFrom) validUntil = .ok () ∧
      key = ⟨name, text, some validFrom, validUntil, defaultAlgorithm, defaultFormat⟩ := by
  constructor
  · intro h
    obtain ⟨start?, hstart, h⟩ := bind_eq_ok_iff.mp h
    cases start? with
    | none => cases h
    | some validFrom =>
      obtain ⟨validUntil, hfinish, h⟩ := bind_eq_ok_iff.mp h
      cases id with
      | str name =>
        simp only [ofParts] at h
        split at h
        · cases h
        · next hname =>
          cases publicKey with
          | str text =>
            obtain ⟨_, hwindow, h⟩ := bind_eq_ok_iff.mp h
            obtain rfl := pure_eq_ok_iff.mp h
            exact ⟨name, text, validFrom, validUntil, rfl, by simpa using hname, rfl, hstart,
              hfinish, hwindow, rfl⟩
          | _ => cases h
      | _ => cases h
  · rintro ⟨name, text, validFrom, validUntil, rfl, hname, rfl, hstart, hfinish, hwindow, rfl⟩
    simp [ofBounds, ofParts, bind_eq_ok_iff, hstart, hfinish, hname, hwindow]

/-- A published key has the identifier and the public key that it is made of. -/
theorem eq_of_ofBounds (h : ofBounds (.str id) (.str publicKey) start finish = .ok key) :
    key.id = id ∧ key.publicKey = publicKey := by
  obtain ⟨name, text, validFrom, validUntil, hid, -, hpublicKey, -, -, -, rfl⟩ :=
    ofBounds_eq_ok_iff.mp h
  exact ⟨(Json.str.inj hid).symm, (Json.str.inj hpublicKey).symm⟩

/-- A window that can be read and ends after its start is all that a key needs besides texts. -/
theorem exists_ofBounds {validFrom : Timestamp} {validUntil : Option Timestamp}
    (publicKey : String)
    (hid : Text.isBlankText id = false) (hstart : start.read "valid_from" = .ok (some validFrom))
    (hfinish : finish.read "valid_until" = .ok validUntil)
    (hwindow : checkWindow (some validFrom) validUntil = .ok ()) :
    ∃ key, ofBounds (.str id) (.str publicKey) start finish = .ok key :=
  ⟨_, ofBounds_eq_ok_iff.mpr ⟨id, publicKey, validFrom, validUntil, rfl, hid, rfl, hstart, hfinish,
    hwindow, rfl⟩⟩

/-- No key tells of itself anything but what all of them do. -/
theorem defaults_of_ofBounds {id publicKey : Json}
    (h : ofBounds id publicKey start finish = .ok key) :
    key.algorithm = defaultAlgorithm ∧ key.format = defaultFormat := by
  obtain ⟨name, text, validFrom, validUntil, -, -, -, -, -, -, rfl⟩ := ofBounds_eq_ok_iff.mp h
  exact ⟨rfl, rfl⟩

theorem exists_members_of_ofJson {entry : Json} (h : ofJson entry = .ok key) :
    ∃ members, entry = .obj members ∧
      ofBounds (Json.member members "key_id") (Json.member members "public_key")
        (.value (Json.member members "valid_from")) (.value (Json.member members "valid_until")) =
        .ok key := by
  unfold ofJson at h
  split at h
  · exact ⟨_, rfl, h⟩
  · cases h

/-- The key of an entry goes by the identifier that the entry gives. -/
theorem member_of_ofJson {entry : Json} (h : ofJson entry = .ok key) :
    ∃ members, entry = .obj members ∧ Json.member members "key_id" = .str key.id := by
  obtain ⟨members, rfl, h⟩ := exists_members_of_ofJson h
  obtain ⟨name, text, validFrom, validUntil, hid, -, -, -, -, -, rfl⟩ := ofBounds_eq_ok_iff.mp h
  exact ⟨members, rfl, hid⟩

end PublishedKey

namespace KeyRegistry

variable {registry : KeyRegistry} {id : String} {key : PublishedKey}

theorem exists_go {found keys : List PublishedKey} (nodup : (found.map PublishedKey.id).Nodup)
    (h : ((found.reverse ++ keys).map PublishedKey.id).Nodup) :
    ∃ registry, ofKeys.go found nodup keys = .ok registry := by
  induction keys generalizing found with
  | nil => exact ⟨_, rfl⟩
  | cons key rest ih =>
    unfold ofKeys.go
    split
    · next hmem =>
      rw [List.map_append] at h
      refine absurd rfl ((List.nodup_append.mp h).2.2 key.id ?_ key.id List.mem_cons_self)
      rwa [List.map_reverse, List.mem_reverse]
    · refine ih _ ?_
      rwa [List.reverse_cons, List.append_assoc]

/-- Keys under different identifiers make a registry. -/
theorem exists_ofKeys {keys : List PublishedKey} (h : (keys.map PublishedKey.id).Nodup) :
    ∃ registry, ofKeys keys = .ok registry := exists_go _ h

/-- The key under an identifier is the one that is published under exactly that identifier. -/
theorem find?_eq_some_iff : registry.find? id = some key ↔ key ∈ registry.keys ∧ key.id = id :=
  find?_eq_some_iff_of_nodup registry.nodup

end KeyRegistry

end TradingStatus
