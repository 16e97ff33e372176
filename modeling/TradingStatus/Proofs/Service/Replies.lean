import TradingStatus.Proofs.Schedule.Walk
import TradingStatus.Proofs.Service.Earned
import TradingStatus.Proofs.Service.Prospects
import TradingStatus.Proofs.Settings.Verification

/-! What a service can answer at all. Its parts may fail in any way, as long as what they do answer
is true; then a request is answered by a signed receipt, by a report without a signature that says
nothing of any market, or, if it asks for a schedule, by that schedule. -/

namespace TradingStatus

namespace Service

/-- What the parts of a service answer, if they answer, is what a schedule says and what a signer
signs. -/
structure IsTruthful (service : Service) (schedule : Schedule) (scheme : SignatureScheme)
    (signer : Signer) : Prop where
  verdict : ∀ mic clock verdict, (service.issuer.verdict mic clock).value = .ok verdict →
    schedule.verdict mic clock = .ok verdict
  outlook : ∀ mic clock outlook, (service.outlook mic clock).value = .ok outlook →
    schedule.outlook mic clock = .ok outlook
  sign : ∀ n members signature, service.issuer.sign n members = .ok signature →
    signer.sign scheme members = .ok signature

end Service

theorem Json.member_of_lookup_eq_none {members : List (String × Json)} {name : String}
    (h : members.lookup name = none) : member members name = .null := by
  rw [member, h]
  rfl

/-- The members of a report: no signature, and no state but that nothing is known. -/
def IsReport (members : List (String × Json)) : Prop :=
  members.lookup "signature" = none ∧
    (members.lookup "status" = none ∨ members.lookup "status" = some (.str "UNKNOWN"))

namespace Desk

/-- The service of a desk tells the truth, whatever is broken and whichever signatures fail. -/
theorem isTruthful_service [Platform] (desk : Desk) (setup : DeskSetup) :
    (desk.service setup).IsTruthful setup.schedule setup.scheme setup.signer where
  verdict mic clock verdict h := by
    simp only [service, issuer] at h
    split at h
    · cases h
    · exact h
  outlook mic clock outlook h := by
    simp only [service] at h
    split at h
    · cases h
    · exact h
  sign n members signature h := sign_of_signNumbered h

end Desk

namespace Service

variable {service : Service} {schedule : Schedule} {scheme : SignatureScheme} {signer : Signer}
  {request : Request} {mic : String} {clock : Option Timestamp} {tally later : Tally}
  {tiers : List Tier}

/-- The replies to a request: a receipt of one of the tiers that are tried for it, a report, or a
schedule. -/
inductive Replies (service : Service) (clock : Option Timestamp) : Request → Response → Prop
  | receipt {request : Request} {mic : String} {tiers : List Tier} {members : List (String × Json)}
      (hsearch : request.search? = some (mic, tiers))
      (h : AnswersReceipt service.issuer mic clock tiers (.obj members)) :
      Replies service clock request ⟨200, .obj members⟩
  | report {request : Request} {code : Nat} {members : List (String × Json)}
      (hcode : code ∈ [400, 401, 403, 500]) (h : IsReport members) :
      Replies service clock request ⟨code, .obj members⟩
  | schedule {mic : Option String} {members : List (String × Json)}
      (hsignature : members.lookup "signature" = none) (hstatus : members.lookup "status" = none) :
      Replies service clock (.schedule mic) ⟨200, .obj members⟩

theorem replies_offline : service.Replies clock request offline :=
  .report (by decide) ⟨rfl, .inr rfl⟩

theorem replies_unknownMarket (mic : String) (supported : List String) :
    service.Replies clock request (unknownMarket mic supported) :=
  .report (by decide) ⟨rfl, .inl rfl⟩

theorem replies_refusal {key : Option String} {response : Response}
    (h : service.refusal? key = some response) : service.Replies clock request response := by
  rcases refusal?_cases h with rfl | rfl
  · exact .report (by decide) ⟨rfl, .inl rfl⟩
  · exact .report (by decide) ⟨rfl, .inl rfl⟩

/-- What issuing comes to can always be answered: a receipt that has been signed can be written. -/
theorem exists_reply_of_settles {outcome : Outcome} (hsearch : request.search? = some (mic, tiers))
    (hsettles : service.issuer.Settles mic clock tiers tally outcome later) :
    ∃ response, respond outcome = .ok response ∧ service.Replies clock request response := by
  cases outcome with
  | unsigned => exact ⟨offline, rfl, replies_offline⟩
  | signed tier receipt =>
    obtain ⟨-, _, _, -, hsigns⟩ := hsettles.exists_signs
    obtain ⟨members, -, hmembers, -, -⟩ := hsigns.signature
    have hjson := Receipt.toJson_eq_ok_iff.mpr ⟨members, hmembers, rfl⟩
    have hrespond : respond (.signed tier receipt) =
        .ok ⟨200, .obj (members ++ [("signature", receipt.signature)])⟩ := by
      simp only [respond, hjson]
      rfl
    exact ⟨_, hrespond, .receipt hsearch (answersReceipt_of_respond hsettles hrespond rfl)⟩

theorem exists_reply_of_receiptFor (tally : Tally)
    (hsearch : request.search? = some (mic, Issuer.marketTiers)) :
    ∃ response, (service.receiptFor mic clock tally).value.1 = .ok response ∧
      service.Replies clock request response := by
  unfold receiptFor
  rw [Logged.value_bind]
  by_cases hmic : mic ∈ service.issuer.calendar.supported
  · rw [Issuer.value_issue_of_supported hmic]
    exact exists_reply_of_settles hsearch (service.issuer.settles_issueFor mic clock tally)
  · rw [Issuer.issue_of_not_supported hmic]
    exact ⟨_, rfl, replies_unknownMarket mic _⟩

theorem exists_reply_of_status (mic key : Option String) (tally : Tally) :
    ∃ response, (service.status mic key clock tally).value.1 = .ok response ∧
      service.Replies clock (.status mic key) response := by
  unfold status
  split
  · next response hrefused => exact ⟨response, rfl, replies_refusal hrefused⟩
  · exact exists_reply_of_receiptFor tally rfl

theorem exists_reply_of_schedule (htruthful : service.IsTruthful schedule scheme signer)
    (mic : Option String) :
    ∃ response, (service.schedule mic clock).value = .ok response ∧
      service.Replies clock (.schedule mic) response := by
  cases hmarket : service.issuer.calendar.find? (Mic.orDefault mic Mic.default) with
  | none => exact ⟨_, value_schedule_of_not_listed hmarket, replies_unknownMarket _ _⟩
  | some market =>
    cases hprospects : (service.prospects (Mic.orDefault mic Mic.default) clock).value with
    | error failure =>
      exact ⟨_, value_schedule_of_failure hmarket hprospects, replies_offline⟩
    | ok prospects =>
      -- What is known can be written: the clock shows an instant that the zone of the market could
      -- be read at, and the bounds of a session have been found as such instants.
      obtain ⟨verdict, outlook⟩ := prospects
      obtain ⟨hverdict, houtlook⟩ := value_prospects_eq_ok_iff.mp hprospects
      obtain ⟨now, hnow⟩ := schedule.exists_isoUtc_of_verdict (htruthful.verdict _ _ _ hverdict)
      obtain ⟨opens, closes, hbody, -⟩ := exists_scheduleJson market service.note verdict hnow
        (schedule.isReadable_of_outlook (htruthful.outlook _ _ _ houtlook))
      have hresponse := value_schedule_of_prospects hmarket hprospects
      rw [hbody] at hresponse
      exact ⟨_, hresponse, .schedule rfl rfl⟩

theorem exists_reply (htruthful : service.IsTruthful schedule scheme signer)
    (hexchanges : request ≠ .exchanges) (hkeys : request ≠ .keys) (clock : Option Timestamp)
    (tally : Tally) :
    ∃ response, service.answer request clock tally = .ok response ∧
      service.Replies clock request response := by
  cases request with
  | demo mic => exact exists_reply_of_receiptFor tally rfl
  | status mic key => exact exists_reply_of_status mic key tally
  | schedule mic => exact exists_reply_of_schedule htruthful mic
  | health =>
    exact exists_reply_of_settles rfl
      (service.issuer.settles_issueLiveness Issuer.livenessMic clock tally)
  | exchanges => exact absurd rfl hexchanges
  | keys => exact absurd rfl hkeys

end Service

/-- What is said of a market is never the state of the service itself: no override forces it, and no
schedule says it. -/
theorem Issuer.Says.status_ne_ok {issuer : Issuer} {mic : String} {clock : Option Timestamp}
    {tier : Tier} {content : Content} (h : issuer.Says mic clock tier content)
    (htier : tier ∈ marketTiers) : content.status ≠ .ok := by
  cases tier with
  | override =>
    obtain ⟨override, -, rfl⟩ := h
    intro hok
    have hforced := override.overridable
    simp only at hok
    rw [hok] at hforced
    cases hforced
  | schedule =>
    obtain ⟨verdict, -, rfl⟩ := h
    cases verdict <;> simp [Verdict.status]
  | safetyNet =>
    cases h
    simp
  | liveness => exact absurd htier (by decide)

namespace Service

variable {service : Service} {schedule : Schedule} {scheme : SignatureScheme} {signer : Signer}
  {request : Request} {mic : String} {clock : Option Timestamp} {tally : Tally} {tiers : List Tier}
  {members : List (String × Json)}

theorem AnswersReceipt.request_eq_health (hsearch : request.search? = some (mic, tiers))
    (h : AnswersReceipt service.issuer mic clock tiers (.obj members))
    (hok : Json.member members "status" = .str "OK") : request = .health := by
  obtain ⟨tier, content, spent, receipt, hmem, hsaid, hsigns, hjson⟩ := h
  have hname := Json.str.inj ((Receipt.member_of_toJson hjson).1.symm.trans hok)
  have hstatus : content.status = .ok := by
    rw [← hsigns.status]
    exact Option.some.inj ((MarketStatus.ofName?_name _).symm.trans (congrArg _ hname))
  cases request with
  | health => rfl
  | demo mic =>
    cases hsearch
    exact absurd hstatus (hsaid.status_ne_ok hmem)
  | status mic key =>
    cases hsearch
    exact absurd hstatus (hsaid.status_ne_ok hmem)
  | schedule mic => cases hsearch
  | exchanges => cases hsearch
  | keys => cases hsearch

/-- Every answer can be told for what it is. Whatever a service is made of and whatever fails in it,
each request for a receipt or a schedule is answered, by one of five codes. For a receipt it is 200
exactly if the document has a signature; and wherever there is a signature, the signer has a public
key under which it verifies, over all other members. A document without one has no signature at all,
and no state but that nothing is known; schedules never have one; and that the service is well is
said only to those who ask for that. -/
theorem every_answer_is_unmistakable (htruthful : service.IsTruthful schedule scheme signer)
    (hsound : scheme.Sound) (hexchanges : request ≠ .exchanges) (hkeys : request ≠ .keys)
    (clock : Option Timestamp) (tally : Tally) :
    ∃ code members, service.answer request clock tally = .ok ⟨code, .obj members⟩ ∧
      code ∈ [200, 400, 401, 403, 500] ∧
      (request.search?.isSome = true → (code = 200 ↔ Json.member members "signature" ≠ .null)) ∧
      (Json.member members "signature" ≠ .null →
        ∃ publicKey, signer.publicKeyHex scheme = .ok publicKey ∧
          scheme.verifyFields (members.filter fun member => member.1 != "signature")
            (Json.member members "signature") (.str publicKey) = true) ∧
      (Json.member members "signature" = .null → members.lookup "signature" = none ∧
        (members.lookup "status" = none ∨ members.lookup "status" = some (.str "UNKNOWN"))) ∧
      (∀ mic, request = .schedule mic → members.lookup "signature" = none) ∧
      (Json.member members "status" = .str "OK" → request = .health) := by
  obtain ⟨response, hanswer, hreply⟩ := exists_reply htruthful hexchanges hkeys clock tally
  cases hreply with
  | @receipt _ mic tiers members hsearch hreceipt =>
    -- Only here there is a signature; what it is over are the members without it.
    obtain ⟨-, n, signature, hcarried, hsign⟩ := hreceipt.exists_signature
    have hnull : Json.member members "signature" ≠ .null := by
      rw [hcarried]
      simp
    refine ⟨200, members, hanswer, by decide, fun _ => iff_of_true rfl hnull, fun _ => ?_,
      fun h => absurd h hnull, ?_, hreceipt.request_eq_health hsearch⟩
    · rw [hcarried]
      exact Signer.exists_publicKey_of_sign hsound (htruthful.sign _ _ _ hsign)
    · rintro mic rfl
      cases hsearch
  | @report _ code members hcode hreport =>
    have hnull := Json.member_of_lookup_eq_none hreport.1
    refine ⟨code, members, hanswer, List.mem_cons_of_mem _ hcode, fun _ => ?_,
      fun h => absurd hnull h, fun _ => hreport, fun _ _ => hreport.1, fun hok => ?_⟩
    · refine iff_of_false (fun h => ?_) (not_not_intro hnull)
      subst h
      exact absurd hcode (by decide)
    · rcases hreport.2 with hstatus | hstatus
      · cases hok.symm.trans (Json.member_of_lookup_eq_none hstatus)
      · rw [Json.member, hstatus] at hok
        exact absurd (Json.str.inj hok) (by decide)
  | @schedule mic members hsignature hstatus =>
    have hnull := Json.member_of_lookup_eq_none hsignature
    refine ⟨200, members, hanswer, by decide, ?_, fun h => absurd hnull h,
      fun _ => ⟨hsignature, .inl hstatus⟩, fun _ _ => hsignature, fun hok => ?_⟩
    · intro hsearch
      cases hsearch
    · cases hok.symm.trans (Json.member_of_lookup_eq_none hstatus)

/-- With a schedule that answers no question, a receipt is still signed, and it verifies. -/
theorem verified_with_broken_schedule :
    let desk := { Desk.start with
      verdictBroken := true
      clock := some (.utc ⟨1774630800000000, by decide, by decide⟩) }
    let setup := { Desk.setupOfSpring with scheme := .ed25519Of Installation.sampleSeed }
    ∃ members publicKey,
      (desk.answer setup (.demo (some "xlon"))).value.1 = .ok ⟨200, .obj members⟩ ∧
      setup.signer.publicKeyHex setup.scheme = .ok publicKey ∧
      setup.scheme.verifyFields (members.filter fun member => member.1 != "signature")
        (Json.member members "signature") (.str publicKey) = true := by
  intro desk setup
  have hrun : (Response.success?
      (desk.answer setup (.demo (some "xlon"))).value.1).isSome = true := by decide +kernel
  obtain ⟨found, hfound⟩ := Option.isSome_iff_exists.mp hrun
  have hanswer := Response.success?_eq_some_iff.mp hfound
  have hexchanges : Request.demo (some "xlon") ≠ .exchanges := by simp
  obtain ⟨code, members, hreply, -, hcode, hverifies, -⟩ := every_answer_is_unmistakable
    (desk.isTruthful_service setup) (SignatureScheme.sound_ed25519Of Installation.sampleSeed)
    hexchanges (by simp) desk.clock desk.tally
  rw [← Desk.value_answer, hanswer] at hreply
  obtain ⟨hfirst, hsecond⟩ := Response.mk.inj (Except.ok.inj hreply)
  obtain rfl := Json.obj.inj hsecond
  obtain ⟨publicKey, hpublicKey, hverified⟩ := hverifies ((hcode rfl).mp hfirst.symm)
  exact ⟨found, publicKey, hanswer, hpublicKey, hverified⟩

end Service

end TradingStatus
