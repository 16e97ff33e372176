import TradingStatus.Proofs.Results
import TradingStatus.Receipt.Issuer

/-! One attempt at a signed receipt. It asks for an identifier, and for a signature if the receipt
can be written. It succeeds exactly when the clock shows an instant, the receipt ends at an instant,
both can be written in UTC, and the signature is made. -/

namespace TradingStatus

namespace Receipt

variable {receipt : Receipt}

theorem signedMembers_eq_ok_iff {members : List (String × Json)} :
    receipt.signedMembers = .ok members ↔
      ∃ issuedAt expiresAt, Timestamp.isoUtc receipt.issuedAt = .ok issuedAt ∧
        Timestamp.isoUtc receipt.expiresAt = .ok expiresAt ∧
        members = [("receipt_id", receipt.id), ("issued_at", .str issuedAt),
          ("expires_at", .str expiresAt), ("mic", receipt.mic),
          ("status", .str receipt.status.name), ("source", .str receipt.source.name),
          ("schema_version", receipt.schemaVersion), ("signing_key_id", receipt.keyId)] ++
            receipt.reasonMember := by
  simp only [signedMembers, bind_eq_ok_iff, pure_eq_ok_iff, eq_comm (a := members)]
  constructor
  · rintro ⟨issuedAt, hissued, expiresAt, hexpires, h⟩
    exact ⟨issuedAt, expiresAt, hissued, hexpires, h⟩
  · rintro ⟨issuedAt, expiresAt, hissued, hexpires, h⟩
    exact ⟨issuedAt, hissued, expiresAt, hexpires, h⟩

end Receipt

namespace Issuer

variable {issuer : Issuer} {clock : Option Timestamp} {content : Content} {tally later : Tally}
  {receipt : Receipt} {id : Json}

/-- A receipt can be written at what a clock shows: its beginning and its end can. -/
def Writes (issuer : Issuer) (clock : Option Timestamp) : Prop :=
  ∃ now expires, clock = some now ∧ now.addMicros issuer.clockRule issuer.lifetime = .ok expires ∧
    (∃ text, Timestamp.isoUtc (some now) = .ok text) ∧
    ∃ text, Timestamp.isoUtc (some expires) = .ok text

/-- What an attempt leaves behind: one more identifier and, where the receipt can be written, one
more signature has been asked for. -/
inductive Spends (issuer : Issuer) (clock : Option Timestamp) (tally : Tally) : Tally → Prop
  | written (h : issuer.Writes clock) : Spends issuer clock tally ⟨tally.ids + 1, tally.signs + 1⟩
  | unwritten (h : ¬issuer.Writes clock) : Spends issuer clock tally ⟨tally.ids + 1, tally.signs⟩

/-- A receipt comes about: it says what it is to say from what the clock shows on, for as long as
receipts live, and carries the identifier and the signature whose turn it is. -/
structure Signs (issuer : Issuer) (clock : Option Timestamp) (content : Content) (tally : Tally)
    (receipt : Receipt) : Prop where
  id : receipt.id = issuer.newId (tally.ids + 1)
  lifetime : ∃ now expires, clock = some now ∧
    now.addMicros issuer.clockRule issuer.lifetime = .ok expires ∧
    receipt.issuedAt = some now ∧ receipt.expiresAt = some expires
  mic : receipt.mic = .str content.mic
  status : receipt.status = content.status
  source : receipt.source = content.source
  schemaVersion : receipt.schemaVersion = issuer.schemaVersion
  keyId : receipt.keyId = .str issuer.keyId
  reason : receipt.reason = .ofText? content.reason
  signature : ∃ members signature, receipt.signedMembers = .ok members ∧
    issuer.sign (tally.signs + 1) members = .ok signature ∧ receipt.signature = .str signature

theorem draft_eq_ok_iff : issuer.draft clock content id = .ok receipt ↔
    ∃ now expires, clock = some now ∧ now.addMicros issuer.clockRule issuer.lifetime = .ok expires ∧
      receipt = {
        id, issuedAt := some now, expiresAt := some expires, mic := .str content.mic
        status := content.status, source := content.source, schemaVersion := issuer.schemaVersion
        keyId := .str issuer.keyId, reason := .ofText? content.reason, signature := .null } := by
  unfold draft
  cases clock with
  | none => simp
  | some now => simp [map_eq_ok_iff, eq_comm (a := receipt)]

/-- Whether a receipt can be written does not depend on what it is to say. -/
theorem writes_iff (issuer : Issuer) (clock : Option Timestamp) (content : Content) (id : Json) :
    issuer.Writes clock ↔ ∃ receipt members, issuer.draft clock content id = .ok receipt ∧
      receipt.signedMembers = .ok members := by
  constructor
  · rintro ⟨now, expires, hclock, hexpires, ⟨start, hstart⟩, finish, hfinish⟩
    exact ⟨_, _, draft_eq_ok_iff.mpr ⟨now, expires, hclock, hexpires, rfl⟩,
      Receipt.signedMembers_eq_ok_iff.mpr ⟨start, finish, hstart, hfinish, rfl⟩⟩
  · rintro ⟨receipt, members, hdraft, hmembers⟩
    obtain ⟨now, expires, hclock, hexpires, rfl⟩ := draft_eq_ok_iff.mp hdraft
    obtain ⟨start, finish, hstart, hfinish, -⟩ := Receipt.signedMembers_eq_ok_iff.mp hmembers
    exact ⟨now, expires, hclock, hexpires, ⟨start, hstart⟩, finish, hfinish⟩

theorem spends_issueSigned (issuer : Issuer) (clock : Option Timestamp) (content : Content)
    (tally : Tally) : issuer.Spends clock tally (issuer.issueSigned clock content tally).2 := by
  unfold issueSigned
  have hwrites := issuer.writes_iff clock content (issuer.newId (tally.ids + 1))
  simp only
  split
  · next failure hdraft =>
    refine .unwritten fun h => ?_
    obtain ⟨receipt, members, hreceipt, -⟩ := hwrites.mp h
    cases hdraft.symm.trans hreceipt
  · next receipt hdraft =>
    split
    · next failure hmembers =>
      refine .unwritten fun h => ?_
      obtain ⟨receipt', members, hreceipt, hok⟩ := hwrites.mp h
      obtain rfl := Except.ok.inj (hdraft.symm.trans hreceipt)
      cases hmembers.symm.trans hok
    · next members hmembers =>
      have h := hwrites.mpr ⟨receipt, members, hdraft, hmembers⟩
      split
      · exact .written h
      · exact .written h

theorem issueSigned_eq_ok_iff_steps : (issuer.issueSigned clock content tally).1 = .ok receipt ↔
    ∃ unsigned members signature,
      issuer.draft clock content (issuer.newId (tally.ids + 1)) = .ok unsigned ∧
      unsigned.signedMembers = .ok members ∧
      issuer.sign (tally.signs + 1) members = .ok signature ∧
      receipt = { unsigned with signature := .str signature } := by
  unfold issueSigned
  simp only
  split
  · next failure hdraft => simp [hdraft]
  · next unsigned hdraft =>
    split
    · next failure hmembers => simp [hdraft, hmembers]
    · next members hmembers =>
      split
      · next failure hsign => simp [hdraft, hmembers, hsign]
      · next signature hsign => simp [hdraft, hmembers, hsign, eq_comm (a := receipt)]

/-- An attempt succeeds with the receipt that comes about. -/
theorem issueSigned_eq_ok_iff : (issuer.issueSigned clock content tally).1 = .ok receipt ↔
    issuer.Signs clock content tally receipt := by
  rw [issueSigned_eq_ok_iff_steps]
  constructor
  · rintro ⟨unsigned, members, signature, hdraft, hmembers, hsign, rfl⟩
    obtain ⟨now, expires, hclock, hexpires, rfl⟩ := draft_eq_ok_iff.mp hdraft
    exact {
      id := rfl, lifetime := ⟨now, expires, hclock, hexpires, rfl, rfl⟩, mic := rfl, status := rfl
      source := rfl, schemaVersion := rfl, keyId := rfl, reason := rfl
      signature := ⟨members, signature, hmembers, hsign, rfl⟩ }
  · intro h
    obtain ⟨now, expires, hclock, hexpires, hissued, hends⟩ := h.lifetime
    obtain ⟨members, signature, hmembers, hsign, hsigned⟩ := h.signature
    refine ⟨{ receipt with signature := .null }, members, signature, ?_, hmembers, hsign, ?_⟩
    · refine draft_eq_ok_iff.mpr ⟨now, expires, hclock, hexpires, ?_⟩
      rw [← h.id, ← hissued, ← hends, ← h.mic, ← h.status, ← h.source, ← h.schemaVersion, ← h.keyId,
        ← h.reason]
    · rw [← hsigned]

theorem Spends.unique {first second : Tally} (h : issuer.Spends clock tally first)
    (h' : issuer.Spends clock tally second) : first = second := by
  cases h with
  | written h =>
    cases h' with
    | written => rfl
    | unwritten hnot => exact absurd h hnot
  | unwritten hnot =>
    cases h' with
    | written h => exact absurd h hnot
    | unwritten => rfl

theorem Signs.unique {first second : Receipt} (h : issuer.Signs clock content tally first)
    (h' : issuer.Signs clock content tally second) : first = second := by
  rw [← issueSigned_eq_ok_iff] at h h'
  exact Except.ok.inj (h.symm.trans h')

/-- What comes of an attempt, the line that is written where it fails apart. -/
theorem value_trySigned (heading : String) : (issuer.trySigned heading clock content tally).value =
    ((issuer.issueSigned clock content tally).1.toOption,
      (issuer.issueSigned clock content tally).2) := by
  unfold trySigned
  rcases issuer.issueSigned clock content tally with ⟨failure | receipt, spent⟩
  · rfl
  · rfl

theorem toOption_issueSigned_eq_some_iff :
    (issuer.issueSigned clock content tally).1.toOption = some receipt ↔
      issuer.Signs clock content tally receipt := by
  rw [toOption_eq_some_iff, issueSigned_eq_ok_iff]

end Issuer

end TradingStatus
