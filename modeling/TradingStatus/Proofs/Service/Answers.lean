import TradingStatus.Proofs.Receipt.Cascade
import TradingStatus.Service.Desk

/-! The receipts that a service answers with. A request for a receipt that is answered by one is
answered by what some tier had to say at that moment, signed. -/

namespace TradingStatus

namespace Receipt

variable {receipt : Receipt} {body : Json}

theorem toJson_eq_ok_iff : receipt.toJson = .ok body ↔ ∃ members,
    receipt.signedMembers = .ok members ∧
      body = .obj (members ++ [("signature", receipt.signature)]) := by
  simp only [toJson, bind_eq_ok_iff, pure_eq_ok_iff, eq_comm (a := body)]

/-- The state of a receipt and where it comes from are found under their names. -/
theorem member_of_toJson {members : List (String × Json)}
    (h : receipt.toJson = .ok (.obj members)) :
    Json.member members "status" = .str receipt.status.name ∧
      Json.member members "source" = .str receipt.source.name ∧
      Json.member members "signing_key_id" = receipt.keyId := by
  obtain ⟨signed, hsigned, hbody⟩ := toJson_eq_ok_iff.mp h
  obtain ⟨issuedAt, expiresAt, -, -, rfl⟩ := signedMembers_eq_ok_iff.mp hsigned
  obtain rfl := Json.obj.inj hbody
  exact ⟨rfl, rfl, rfl⟩

theorem reasonMember_cases (receipt : Receipt) :
    receipt.reasonMember = [] ∨ receipt.reasonMember = [("reason", receipt.reason)] := by
  unfold reasonMember
  split
  · exact .inl rfl
  · exact .inr rfl
  · exact .inl rfl

/-- No two members of a receipt have the same name. -/
theorem nodup_of_toJson {members : List (String × Json)}
    (h : receipt.toJson = .ok (.obj members)) : (members.map Prod.fst).Nodup := by
  obtain ⟨signed, hsigned, hbody⟩ := toJson_eq_ok_iff.mp h
  obtain ⟨issuedAt, expiresAt, -, -, rfl⟩ := signedMembers_eq_ok_iff.mp hsigned
  obtain rfl := Json.obj.inj hbody
  rcases receipt.reasonMember_cases with hreason | hreason
  · rw [hreason]
    simp
  · rw [hreason]
    simp

/-- Of the members of a receipt, the signature is over all others. -/
theorem signed_of_toJson {members : List (String × Json)}
    (h : receipt.toJson = .ok (.obj members)) :
    receipt.signedMembers = .ok (members.filter fun member => member.1 != "signature") ∧
      Json.member members "signature" = receipt.signature := by
  obtain ⟨signed, hsigned, hbody⟩ := toJson_eq_ok_iff.mp h
  obtain ⟨issuedAt, expiresAt, -, -, hmembers⟩ := signedMembers_eq_ok_iff.mp hsigned
  obtain rfl := Json.obj.inj hbody
  rw [hsigned, hmembers]
  rcases receipt.reasonMember_cases with hreason | hreason
  · rw [hreason]
    exact ⟨rfl, rfl⟩
  · rw [hreason]
    exact ⟨rfl, rfl⟩

end Receipt

namespace Issuer

variable {issuer : Issuer} {mic : String} {clock : Option Timestamp} {tally later : Tally}
  {tiers : List Tier} {tier : Tier} {receipt : Receipt}

/-- A search that comes to a receipt has found a tier that had it to say. -/
theorem Settles.exists_signs
    (h : issuer.Settles mic clock tiers tally (.signed tier receipt) later) :
    tier ∈ tiers ∧ ∃ content spent, issuer.Says mic clock tier content ∧
      issuer.Signs clock content spent receipt := by
  generalize houtcome : Outcome.signed tier receipt = outcome at h
  induction h with
  | exhausted => cases houtcome
  | found tries =>
    cases houtcome
    cases tries with
    | signed said signs spends => exact ⟨List.mem_cons_self, _, _, said, signs⟩
  | passed tries rest ih =>
    obtain ⟨hmem, hsigns⟩ := ih houtcome
    exact ⟨List.mem_cons_of_mem _ hmem, hsigns⟩

end Issuer

/-- The members of the document that a request is answered with as a success. -/
def Response.success? : Except Failure Response → Option (List (String × Json))
  | .ok ⟨200, .obj members⟩ => some members
  | _ => none

theorem Response.success?_eq_some_iff {result : Except Failure Response}
    {members : List (String × Json)} :
    success? result = some members ↔ result = .ok ⟨200, .obj members⟩ := by
  unfold success?
  constructor
  · intro h
    split at h
    · obtain rfl := Option.some.inj h
      rfl
    · cases h
  · rintro rfl
    rfl

/-- What a request for a receipt is about and the tiers that are tried for it; other requests are
for no receipt. -/
def Request.search? : Request → Option (String × List Tier)
  | .demo mic => some (Mic.orDefault mic Mic.default, Issuer.marketTiers)
  | .status mic _ => some (Mic.orDefault mic Mic.default, Issuer.marketTiers)
  | .health => some (Issuer.livenessMic, [.liveness])
  | _ => none

/-- What a service answers a request with. -/
def Service.answer (service : Service) (request : Request) (clock : Option Timestamp)
    (tally : Tally) : Except Failure Response :=
  match request with
  | .demo mic => (service.demo mic clock tally).value.1
  | .status mic key => (service.status mic key clock tally).value.1
  | .schedule mic => (service.schedule mic clock).value
  | .exchanges => .ok service.exchanges
  | .keys => service.keyList
  | .health => (service.health clock tally).value.1

namespace Service

variable {service : Service} {request : Request} {mic : String} {clock : Option Timestamp}
  {tally later : Tally} {tiers : List Tier} {response : Response}

/-- The answer of a receipt: a tier has signed what it had to say about a market. -/
def AnswersReceipt (issuer : Issuer) (mic : String) (clock : Option Timestamp) (tiers : List Tier)
    (body : Json) : Prop :=
  ∃ tier content tally receipt, tier ∈ tiers ∧ issuer.Says mic clock tier content ∧
    issuer.Signs clock content tally receipt ∧ receipt.toJson = .ok body

theorem answersReceipt_of_respond {issuer : Issuer} {outcome : Outcome}
    (hsettles : issuer.Settles mic clock tiers tally outcome later)
    (h : respond outcome = .ok response) (hcode : response.code = 200) :
    AnswersReceipt issuer mic clock tiers response.body := by
  cases outcome with
  | unsigned =>
    cases h
    cases hcode
  | signed tier receipt =>
    obtain ⟨hmem, content, spent, hsaid, hsigns⟩ := hsettles.exists_signs
    simp only [respond, bind_eq_ok_iff, pure_eq_ok_iff] at h
    obtain ⟨body, hbody, rfl⟩ := h
    exact ⟨tier, content, spent, receipt, hmem, hsaid, hsigns, hbody⟩

theorem answersReceipt_of_receiptFor
    (h : (service.receiptFor mic clock tally).value.1 = .ok response)
    (hcode : response.code = 200) :
    AnswersReceipt service.issuer mic clock Issuer.marketTiers response.body := by
  unfold receiptFor at h
  rw [Logged.value_bind] at h
  by_cases hmic : mic ∈ service.issuer.calendar.supported
  · rw [Issuer.value_issue_of_supported hmic] at h
    exact answersReceipt_of_respond (service.issuer.settles_issueFor mic clock tally) h hcode
  · rw [Issuer.issue_of_not_supported hmic] at h
    cases h
    cases hcode

theorem answersReceipt_of_health (h : (service.health clock tally).value.1 = .ok response)
    (hcode : response.code = 200) :
    AnswersReceipt service.issuer Issuer.livenessMic clock [.liveness] response.body := by
  have hsettles := service.issuer.settles_issueLiveness Issuer.livenessMic clock tally
  exact answersReceipt_of_respond hsettles h hcode

theorem refusal?_cases {key : Option String} (h : service.refusal? key = some response) :
    response = refusal?.required ∨ response = refusal?.invalid := by
  unfold refusal? at h
  split at h
  · exact .inl (Option.some.inj h).symm
  · split at h
    · exact .inl (Option.some.inj h).symm
    · split at h
      · exact .inr (Option.some.inj h).symm
      · split at h
        · cases h
        · exact .inr (Option.some.inj h).symm

/-- Those without an accepted access key are answered with no success. -/
theorem code_of_refusal {key : Option String} (h : service.refusal? key = some response) :
    response.code ≠ 200 := by
  rcases refusal?_cases h with rfl | rfl
  · decide
  · decide

/-- A request for a receipt that is answered as a success is answered by a receipt. -/
theorem answersReceipt_of_answer (hsearch : request.search? = some (mic, tiers))
    (h : service.answer request clock tally = .ok response) (hcode : response.code = 200) :
    AnswersReceipt service.issuer mic clock tiers response.body := by
  cases request with
  | demo mic =>
    cases hsearch
    exact answersReceipt_of_receiptFor h hcode
  | status mic key =>
    cases hsearch
    simp only [answer, status] at h
    split at h
    · next refused hrefused =>
      obtain rfl := Except.ok.inj h
      exact absurd hcode (code_of_refusal hrefused)
    · exact answersReceipt_of_receiptFor h hcode
  | health =>
    cases hsearch
    exact answersReceipt_of_health h hcode
  | schedule mic => cases hsearch
  | exchanges => cases hsearch
  | keys => cases hsearch

/-- A receipt that is answered names the key of the issuer and carries a signature of its other
members. -/
theorem AnswersReceipt.exists_signature {issuer : Issuer} {members : List (String × Json)}
    (h : AnswersReceipt issuer mic clock tiers (.obj members)) :
    Json.member members "signing_key_id" = .str issuer.keyId ∧
      ∃ n signature, Json.member members "signature" = .str signature ∧
        issuer.sign n (members.filter fun member => member.1 != "signature") = .ok signature := by
  obtain ⟨tier, content, spent, receipt, -, -, hsigns, hjson⟩ := h
  obtain ⟨hsigned, hcarried⟩ := Receipt.signed_of_toJson hjson
  obtain ⟨signed, signature, hmembers, hsign, hsignature⟩ := hsigns.signature
  obtain rfl := Except.ok.inj (hsigned.symm.trans hmembers)
  exact ⟨(Receipt.member_of_toJson hjson).2.2.trans hsigns.keyId, spent.signs + 1, signature,
    hcarried.trans hsignature, hsign⟩

end Service

namespace Desk

variable {desk : Desk} {setup : DeskSetup} {request : Request} {mic : String} {tiers : List Tier}
  {response : Response}

theorem value_answer [Platform] : (desk.answer setup request).value.1 =
    (desk.service setup).answer request desk.clock desk.tally := by
  cases request <;> rfl

theorem answersReceipt_of_answer [Platform] (hsearch : request.search? = some (mic, tiers))
    (h : (desk.answer setup request).value.1 = .ok response) (hcode : response.code = 200) :
    Service.AnswersReceipt (desk.issuer setup) mic desk.clock tiers response.body := by
  rw [value_answer] at h
  exact Service.answersReceipt_of_answer hsearch h hcode

/-- What is signed at all is signed by the signer. -/
theorem sign_of_signNumbered {n : Nat} {members : List (String × Json)} {signature : String}
    (h : signNumbered setup n members = .ok signature) :
    setup.signer.sign setup.scheme members = .ok signature := by
  unfold signNumbered at h
  split at h
  · cases h
  · exact h

/-- A receipt that is answered names the key of the signer and carries its signature. -/
theorem exists_signature_of_answer [Platform] {members : List (String × Json)}
    (hsearch : request.search? = some (mic, tiers))
    (h : (desk.answer setup request).value.1 = .ok ⟨200, .obj members⟩) :
    Json.member members "signing_key_id" = .str setup.signer.keyId ∧
      ∃ signature, Json.member members "signature" = .str signature ∧
        setup.signer.sign setup.scheme (members.filter fun member => member.1 != "signature") =
          .ok signature := by
  obtain ⟨hkeyId, n, signature, hcarried, hsign⟩ :=
    (answersReceipt_of_answer hsearch h rfl).exists_signature
  exact ⟨hkeyId, signature, hcarried, sign_of_signNumbered hsign⟩

end Desk

end TradingStatus
