import TradingStatus.Proofs.Market.Loaded
import TradingStatus.Proofs.Service.Replies

/-! From the document of a calendar to the answers of a service. The names of the members are trimmed
and raised to upper case when the calendar is loaded, and so is what is asked for when it is looked
up; so a market is found under every spelling of its name, and nothing else is. -/

namespace TradingStatus

/-- An answer tells that a market is not known. -/
def Response.TellsUnknownMarket (response : Response) : Prop :=
  ∃ members, response.body = .obj members ∧ Json.member members "error" = .str "UNKNOWN_MIC"

/-- An entry of a listing is about a market: it gives its identifier, its name, and its time zone. -/
def Market.IsListedBy (market : Market) (entry : Json) : Prop :=
  ∃ members, entry = .obj members ∧ Json.member members "mic" = .str market.mic ∧
    Json.member members "name" = .str market.name ∧
    Json.member members "timezone" = .str market.timezone

theorem Market.isListedBy_directoryEntry (market : Market) :
    market.IsListedBy market.directoryEntry := ⟨_, rfl, rfl, rfl, rfl⟩

namespace Service

variable {service : Service} {mic : Option String} {clock : Option Timestamp} {tally : Tally}
  {response : Response}

theorem tellsUnknownMarket_unknownMarket (mic : String) (supported : List String) :
    (unknownMarket mic supported).TellsUnknownMarket := ⟨_, rfl, rfl⟩

theorem not_tellsUnknownMarket {code : Nat} {members : List (String × Json)}
    (h : Json.member members "error" ≠ .str "UNKNOWN_MIC") :
    ¬(Response.mk code (.obj members)).TellsUnknownMarket := by
  rintro ⟨_, ⟨⟩, herror⟩
  exact h herror

theorem not_tellsUnknownMarket_of_respond {outcome : Outcome}
    (h : respond outcome = .ok response) : ¬response.TellsUnknownMarket := by
  cases outcome with
  | unsigned =>
    obtain rfl := Except.ok.inj h
    exact not_tellsUnknownMarket (by simp [Json.member])
  | signed tier receipt =>
    obtain ⟨body, hbody, h⟩ := bind_eq_ok_iff.mp h
    obtain rfl := pure_eq_ok_iff.mp h
    obtain ⟨members, hmembers, rfl⟩ := Receipt.toJson_eq_ok_iff.mp hbody
    obtain ⟨issuedAt, expiresAt, -, -, rfl⟩ := Receipt.signedMembers_eq_ok_iff.mp hmembers
    refine not_tellsUnknownMarket ?_
    rcases receipt.reasonMember_cases with hreason | hreason <;> rw [hreason]
    · simp [Json.member, List.lookup_cons]
    · simp [Json.member, List.lookup_cons]

theorem not_tellsUnknownMarket_of_scheduleJson {market : Market} {note body : Json}
    {verdict : Verdict} {outlook : Outlook}
    (h : scheduleJson market note clock verdict outlook = .ok body) :
    ¬(Response.mk 200 body).TellsUnknownMarket := by
  obtain ⟨now, opens, closes, rfl, -⟩ := members_of_scheduleJson h
  exact not_tellsUnknownMarket (by simp [Json.member, List.lookup_cons])

theorem demo_of_supported
    (hmic : Mic.orDefault mic Mic.default ∈ service.issuer.calendar.supported)
    (h : (service.demo mic clock tally).value.1 = .ok response) :
    ¬response.TellsUnknownMarket := by
  rw [demo, receiptFor, Logged.value_bind, Issuer.value_issue_of_supported hmic] at h
  exact not_tellsUnknownMarket_of_respond h

theorem demo_of_not_supported
    (hmic : Mic.orDefault mic Mic.default ∉ service.issuer.calendar.supported)
    (clock : Option Timestamp) (tally : Tally) :
    (service.demo mic clock tally).value.1 =
      .ok (unknownMarket (Mic.orDefault mic Mic.default) service.issuer.calendar.supported) := by
  rw [demo, receiptFor, Issuer.issue_of_not_supported hmic]
  rfl

theorem schedule_of_supported
    (hmic : Mic.orDefault mic Mic.default ∈ service.issuer.calendar.supported)
    (h : (service.schedule mic clock).value = .ok response) : ¬response.TellsUnknownMarket := by
  obtain ⟨market, hmarket⟩ := Option.isSome_iff_exists.mp (Calendar.find?_isSome.mpr hmic)
  cases hprospects : (service.prospects (Mic.orDefault mic Mic.default) clock).value with
  | error failure =>
    rw [value_schedule_of_failure hmarket hprospects] at h
    obtain rfl := Except.ok.inj h
    exact not_tellsUnknownMarket (by simp [Json.member])
  | ok prospects =>
    obtain ⟨verdict, outlook⟩ := prospects
    rw [value_schedule_of_prospects hmarket hprospects] at h
    obtain ⟨body, hbody, rfl⟩ := map_eq_ok_iff.mp h
    exact not_tellsUnknownMarket_of_scheduleJson hbody

theorem schedule_of_not_supported
    (hmic : Mic.orDefault mic Mic.default ∉ service.issuer.calendar.supported)
    (clock : Option Timestamp) :
    (service.schedule mic clock).value =
      .ok (unknownMarket (Mic.orDefault mic Mic.default) service.issuer.calendar.supported) := by
  rw [← Calendar.find?_isSome, Option.not_isSome_iff_eq_none] at hmic
  exact value_schedule_of_not_listed hmic

end Service

namespace Desk

variable {desk : Desk} {setup : DeskSetup} {mic : Option String} {request : Request}

/-- A market of the calendar is asked for: there is an answer, and it is about that market. -/
theorem exists_answer_of_supported [Platform]
    (hmic : Mic.orDefault mic Mic.default ∈ setup.schedule.calendar.supported)
    (hrequest : request = .demo mic ∨ request = .schedule mic) :
    ∃ response, (desk.answer setup request).value.1 = .ok response ∧
      ¬response.TellsUnknownMarket := by
  have hexchanges : request ≠ .exchanges := by rcases hrequest with rfl | rfl <;> simp
  have hkeys : request ≠ .keys := by rcases hrequest with rfl | rfl <;> simp
  obtain ⟨response, hresponse, -⟩ := Service.exists_reply (desk.isTruthful_service setup)
    hexchanges hkeys desk.clock desk.tally
  refine ⟨response, value_answer.trans hresponse, ?_⟩
  rcases hrequest with rfl | rfl
  · exact Service.demo_of_supported hmic hresponse
  · exact Service.schedule_of_supported hmic hresponse

theorem answer_of_not_supported [Platform]
    (hmic : Mic.orDefault mic Mic.default ∉ setup.schedule.calendar.supported)
    (hrequest : request = .demo mic ∨ request = .schedule mic) :
    (desk.answer setup request).value.1 = .ok (Service.unknownMarket
      (Mic.orDefault mic Mic.default) setup.schedule.calendar.supported) := by
  rw [value_answer]
  rcases hrequest with rfl | rfl
  · exact Service.demo_of_not_supported hmic desk.clock desk.tally
  · exact Service.schedule_of_not_supported hmic desk.clock

end Desk

namespace Calendar

variable {zones : ZoneDatabase} {calendar : Calendar} {document : Json} {s : String}

/-- The listing has one entry about every market, in their order. -/
theorem exists_entries_of_directory (calendar : Calendar) :
    ∃ entries, calendar.directory = .arr entries ∧
      List.Forall₂ Market.IsListedBy calendar.markets entries := by
  refine ⟨_, rfl, List.forall₂_map_right_iff.mpr ?_⟩
  exact List.forall₂_same.mpr fun market _ => market.isListedBy_directoryEntry

/-- What means a market of the calendar is not blank. -/
theorem orDefault_of_supported [Platform] (h : ofJson zones document = .ok calendar)
    (hs : Mic.normalize s ∈ calendar.supported) (default : String) :
    Mic.orDefault (some s) default = Mic.normalize s := by
  refine Mic.orDefault_of_not_isBlankText (Bool.eq_false_iff.mpr fun hblank => ?_) default
  have hempty := (normalize_of_mem_supported h hs).2
  rw [Mic.normalize_of_isBlankText hblank] at hempty
  cases hempty

end Calendar

end TradingStatus
