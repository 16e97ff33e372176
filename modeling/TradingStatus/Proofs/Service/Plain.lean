import TradingStatus.Proofs.Service.Replies
import TradingStatus.Proofs.Service.Shown

/-! Answers as documents. Whatever a service answers, receipts and reports alike, is made of names
and texts alone, so it is read back from any of the ways in which it is written. -/

namespace TradingStatus

/-! Keys -/

theorem PublishedKey.isPlain_of_toJson {key : PublishedKey} {document : Json}
    (hplain : key.algorithm.IsPlain ∧ key.format.IsPlain) (h : key.toJson = .ok document) :
    document.IsPlain := by
  obtain ⟨validFrom, -, h⟩ := bind_eq_ok_iff.mp h
  cases huntil : key.validUntil with
  | none =>
    rw [huntil] at h
    obtain rfl := pure_eq_ok_iff.mp h
    simp [hplain]
  | some finish =>
    rw [huntil] at h
    obtain ⟨validUntil, -, h⟩ := bind_eq_ok_iff.mp h
    obtain rfl := pure_eq_ok_iff.mp h
    simp [hplain]

theorem KeyRegistry.isPlain_of_toJson {registry : KeyRegistry} {document : Json}
    (hkeys : ∀ key ∈ registry.keys, key.algorithm.IsPlain ∧ key.format.IsPlain)
    (h : registry.toJson = .ok document) : document.IsPlain := by
  obtain ⟨entries, hentries, h⟩ := bind_eq_ok_iff.mp h
  obtain rfl := pure_eq_ok_iff.mp h
  have hplain : ∀ entry ∈ entries, entry.IsPlain := by
    intro entry hmem
    obtain ⟨key, hkey, hentry⟩ := (mem_iff_of_mapM hentries).mp hmem
    exact PublishedKey.isPlain_of_toJson (hkeys key hkey) hentry
  simpa [payloadRules] using hplain

namespace Service

variable {service : Service} {schedule : Schedule} {scheme : SignatureScheme} {signer : Signer}
  {request : Request} {mic : String} {clock : Option Timestamp} {tally later : Tally}
  {tiers : List Tier} {response : Response}

/-! Reports -/

theorem isPlain_offline : offline.body.IsPlain := by
  simp [offline, failureReport]

theorem isPlain_unknownMarket (mic : String) (supported : List String) :
    (unknownMarket mic supported).body.IsPlain := by
  simp [unknownMarket]

theorem isPlain_of_refusal {key : Option String} (h : service.refusal? key = some response) :
    response.body.IsPlain := by
  rcases refusal?_cases h with rfl | rfl <;> simp [refusal?.required, refusal?.invalid]

/-! Receipts -/

theorem isPlain_of_respond (htruthful : service.IsTruthful schedule scheme signer)
    {outcome : Outcome} (hsettles : service.issuer.Settles mic clock tiers tally outcome later)
    (h : respond outcome = .ok response) : response.body.IsPlain := by
  cases outcome with
  | unsigned =>
    cases h
    exact isPlain_offline
  | signed tier receipt =>
    obtain ⟨body, -, hresponse⟩ := bind_eq_ok_iff.mp h
    obtain rfl := pure_eq_ok_iff.mp hresponse
    exact (answersReceipt_of_respond hsettles h rfl).isPlain htruthful.sign

theorem isPlain_of_receiptFor (htruthful : service.IsTruthful schedule scheme signer)
    (h : (service.receiptFor mic clock tally).value.1 = .ok response) : response.body.IsPlain := by
  unfold receiptFor at h
  rw [Logged.value_bind] at h
  by_cases hmic : mic ∈ service.issuer.calendar.supported
  · rw [Issuer.value_issue_of_supported hmic] at h
    exact isPlain_of_respond htruthful (service.issuer.settles_issueFor mic clock tally) h
  · rw [Issuer.issue_of_not_supported hmic] at h
    cases h
    exact isPlain_unknownMarket mic _

/-! Schedules -/

theorem isPlain_lunchJson (lunch : Option Hours) : (lunchJson lunch).IsPlain := by
  cases lunch <;> simp [lunchJson]

theorem isPlain_of_scheduleJson {market : Market} {note body : Json} {verdict : Verdict}
    {outlook : Outlook} (hnote : note.IsPlain)
    (h : scheduleJson market note clock verdict outlook = .ok body) : body.IsPlain := by
  have hlunch := isPlain_lunchJson market.lunch
  obtain ⟨now, opens, closes, rfl, ⟨rfl, rfl⟩ | ⟨first, last, rfl, rfl⟩⟩ := members_of_scheduleJson h
  · simp [hlunch, hnote]
  · simp [hlunch, hnote]

theorem isPlain_of_schedule (hnote : service.note.IsPlain) {mic : Option String}
    (h : (service.schedule mic clock).value = .ok response) : response.body.IsPlain := by
  cases hmarket : service.issuer.calendar.find? (Mic.orDefault mic Mic.default) with
  | none =>
    rw [value_schedule_of_not_listed hmarket] at h
    cases h
    exact isPlain_unknownMarket _ _
  | some market =>
    cases hprospects : (service.prospects (Mic.orDefault mic Mic.default) clock).value with
    | error failure =>
      rw [value_schedule_of_failure hmarket hprospects] at h
      cases h
      exact isPlain_offline
    | ok prospects =>
      obtain ⟨verdict, outlook⟩ := prospects
      rw [value_schedule_of_prospects hmarket hprospects] at h
      obtain ⟨body, hbody, rfl⟩ := map_eq_ok_iff.mp h
      exact isPlain_of_scheduleJson hnote hbody

theorem isPlain_exchanges (service : Service) : service.exchanges.body.IsPlain := by
  simp [exchanges, Calendar.directory, Market.directoryEntry]

/-- Every answer is plain, if the note and what the keys tell of themselves are. -/
theorem isPlain_of_answer (htruthful : service.IsTruthful schedule scheme signer)
    (hnote : service.note.IsPlain)
    (hkeys : ∀ key ∈ service.keys.keys, key.algorithm.IsPlain ∧ key.format.IsPlain)
    (h : service.answer request clock tally = .ok response) : response.body.IsPlain := by
  cases request with
  | demo mic => exact isPlain_of_receiptFor htruthful h
  | status mic key =>
    simp only [answer, status] at h
    split at h
    · next refused hrefused =>
      obtain rfl := Except.ok.inj h
      exact isPlain_of_refusal hrefused
    · exact isPlain_of_receiptFor htruthful h
  | schedule mic => exact isPlain_of_schedule hnote h
  | exchanges =>
    obtain rfl := Except.ok.inj h
    exact service.isPlain_exchanges
  | keys =>
    obtain ⟨document, hdocument, h⟩ := bind_eq_ok_iff.mp h
    obtain rfl := pure_eq_ok_iff.mp h
    exact KeyRegistry.isPlain_of_toJson hkeys hdocument
  | health =>
    exact isPlain_of_respond htruthful
      (service.issuer.settles_issueLiveness Issuer.livenessMic clock tally) h

end Service

end TradingStatus
