import TradingStatus.Proofs.Json.Layouts
import TradingStatus.Proofs.Service.Answers
import TradingStatus.Proofs.Signing.Payload
import TradingStatus.Proofs.Signing.Signatures

/-! Receipts as they are shown. A receipt is signed before its signature is put among its members,
from one line of them in the order of their names; it is shown with the signature, in another order
and on many lines. Those who read it and take the signature out are left with the bytes that were
signed. -/

namespace TradingStatus

namespace Receipt

variable {receipt : Receipt} {scheme : SignatureScheme} {signer : Signer}
  {members : List (String × Json)}

/-- Members show a receipt: without the signature they are fields with the bytes that were signed
for the receipt, and the signature among them verifies for these fields. -/
structure IsShownBy (receipt : Receipt) (scheme : SignatureScheme) (signer : Signer)
    (members : List (String × Json)) : Prop where
  payload : ∃ signed fields shown, receipt.signedMembers = .ok signed ∧
    SignedFields.ofMembers signed = .ok fields ∧
    SignedFields.ofMembers (members.filter fun member => member.1 != "signature") = .ok shown ∧
    shown.payloadBytes = fields.payloadBytes
  verifies : ∃ publicKey, signer.publicKeyHex scheme = .ok publicKey ∧
    scheme.verifyFields (members.filter fun member => member.1 != "signature")
      (Json.member members "signature") (.str publicKey) = true

/-- All members of a receipt that has been signed are texts under different names. -/
theorem exists_texts_of_signed {signed : List (String × Json)} {signature : String}
    (hjson : receipt.toJson = .ok (.obj members)) (hsigned : receipt.signedMembers = .ok signed)
    (hsign : signer.sign scheme signed = .ok signature)
    (hcarried : receipt.signature = .str signature) :
    ∃ fields, members = Json.texts fields ∧ (fields.map Prod.fst).Nodup := by
  -- A value that is no text, of the identifier for one, would have kept the receipt from being signed.
  obtain ⟨fields, -, -, hfields, -⟩ := Signer.sign_eq_ok_iff.mp hsign
  obtain ⟨signed', hsigned', hbody⟩ := toJson_eq_ok_iff.mp hjson
  obtain rfl := Except.ok.inj (hsigned.symm.trans hsigned')
  have htexts : members = Json.texts (fields ++ [("signature", signature)]) := by
    rw [Json.obj.inj hbody, SignedFields.ofMembers_eq_ok_iff.mp hfields, hcarried, Json.texts,
      Json.texts, List.map_append]
    rfl
  refine ⟨_, htexts, ?_⟩
  have hnodup := nodup_of_toJson hjson
  rw [htexts, Json.texts, List.map_map] at hnodup
  exact hnodup

theorem isShownBy_of_signed {signed : List (String × Json)} {signature : String}
    (hsound : scheme.Sound) (hjson : receipt.toJson = .ok (.obj members))
    (hsigned : receipt.signedMembers = .ok signed)
    (hsign : signer.sign scheme signed = .ok signature)
    (hcarried : receipt.signature = .str signature) : receipt.IsShownBy scheme signer members := by
  obtain ⟨hrest, hmember⟩ := signed_of_toJson hjson
  obtain rfl := Except.ok.inj (hsigned.symm.trans hrest)
  obtain ⟨fields, -, -, hfields, -⟩ := Signer.sign_eq_ok_iff.mp hsign
  refine ⟨⟨_, fields, fields, hsigned, hfields, hfields, rfl⟩, ?_⟩
  rw [hmember, hcarried]
  exact Signer.exists_publicKey_of_sign hsound hsign

end Receipt

namespace Service

variable {issuer : Issuer} {scheme : SignatureScheme} {signer : Signer} {mic : String}
  {clock : Option Timestamp} {tiers : List Tier} {body : Json}

theorem AnswersReceipt.isPlain (htruthful : ∀ n members signature,
      issuer.sign n members = .ok signature → signer.sign scheme members = .ok signature)
    (h : AnswersReceipt issuer mic clock tiers body) : body.IsPlain := by
  obtain ⟨tier, content, tally, receipt, -, -, hsigns, hjson⟩ := h
  obtain ⟨signed, signature, hsigned, hsign, hcarried⟩ := hsigns.signature
  obtain ⟨_, -, rfl⟩ := Receipt.toJson_eq_ok_iff.mp hjson
  obtain ⟨fields, htexts, hnodup⟩ :=
    Receipt.exists_texts_of_signed hjson hsigned (htruthful _ _ _ hsign) hcarried
  rw [htexts]
  exact Json.isPlain_texts hnodup

/-- The document of a receipt shows it, as it is and as it is read back from either of the ways in
which it is written. -/
theorem AnswersReceipt.exists_shown (hsound : scheme.Sound)
    (htruthful : ∀ n members signature, issuer.sign n members = .ok signature →
      signer.sign scheme members = .ok signature)
    (h : AnswersReceipt issuer mic clock tiers body) :
    ∃ content tally receipt members, issuer.Signs clock content tally receipt ∧
      body = .obj members ∧ receipt.IsShownBy scheme signer members ∧
      Json.read body.render = .ok body ∧ Json.read (body.indented ++ "\n") = .ok body := by
  have hplain := h.isPlain htruthful
  obtain ⟨tier, content, tally, receipt, -, -, hsigns, hjson⟩ := h
  obtain ⟨signed, signature, hsigned, hsign, hcarried⟩ := hsigns.signature
  obtain ⟨_, -, rfl⟩ := Receipt.toJson_eq_ok_iff.mp hjson
  exact ⟨content, tally, receipt, _, hsigns, rfl,
    Receipt.isShownBy_of_signed hsound hjson hsigned (htruthful _ _ _ hsign) hcarried,
    Json.read_render hplain, Json.read_indented hplain⟩

end Service

end TradingStatus
