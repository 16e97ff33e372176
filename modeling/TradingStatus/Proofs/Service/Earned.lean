import TradingStatus.Platform.Standard
import TradingStatus.Proofs.Override.Entries
import TradingStatus.Proofs.Schedule.Agreement
import TradingStatus.Proofs.Service.Answers
import TradingStatus.Proofs.Service.Runs
import TradingStatus.Proofs.Time.Readings

/-! Open is never said without a reason. Whatever happens around a service and whatever fails in it,
an answer that a market is open rests on an override that an operator has put in place and that has
not ended, or on the trading hours of the market at that moment. -/

namespace TradingStatus

theorem MarketStatus.name_eq_open_iff {status : MarketStatus} :
    status.name = "OPEN" ↔ status = .opened := by
  cases status <;> decide

/-- An override of a market is in place at an instant that forces it open. -/
def Desk.ForcesOpen [Platform] (desk : Desk) (mic : String) (t : Instant) : Prop :=
  ∃ entry override finish, desk.store.Holds desk.files mic entry ∧
    Override.ofEntry entry = .ok override ∧ override.status = .opened ∧
    override.expires.instant? = some finish ∧ t < finish

/-- The wall clock of a market shows at an instant that it is open. -/
def Schedule.KeepsOpen (schedule : Schedule) (mic : String) (t : Instant) : Prop :=
  ∃ market w, schedule.calendar.get mic = .ok market ∧ market.zone.wallClock t = .ok w ∧
    market.KeepsOpen w

namespace Desk

variable {desk : Desk} {setup : DeskSetup} {mic : String} {t : Instant} {now : Timestamp}
  {content : Issuer.Content}

theorem SameAround.forcesOpen [Platform] {other : Desk} (h : desk.SameAround other)
    (hforces : desk.ForcesOpen mic t) : other.ForcesOpen mic t := by
  obtain ⟨tally, rfl⟩ := h
  exact hforces

theorem SameAround.clock_eq {other : Desk} (h : desk.SameAround other) :
    desk.clock = other.clock := by
  obtain ⟨tally, rfl⟩ := h
  rfl

section

variable [Platform]

/-- An override that is found active and forces a market open does so at the instant of the clock.
-/
theorem forcesOpen_of_findsActive {override : Override}
    (h : (desk.issuer setup).FindsActive mic desk.clock override)
    (hopened : override.status = .opened) :
    ∃ now t, desk.clock = some now ∧ now.instant? = some t ∧ desk.ForcesOpen mic t := by
  obtain ⟨lookup, now, hlookup, hfound, hclock, hprecedes⟩ := h
  obtain ⟨entry, hholds, hentry⟩ := OverrideStore.exists_entry_of_lookup hlookup hfound
  obtain ⟨finish, hfinish⟩ := Override.exists_end_of_ofEntry hentry
  cases hprecedes with
  | instants hnow hend hlt =>
    exact ⟨now, _, hclock, hnow, entry, override, _, hholds, hentry, hopened, hend, hlt⟩
  | readings hnow hend hlt => cases hfinish.symm.trans hend

/-- A schedule that says that a market is open does so by what its wall clock shows. -/
theorem keepsOpen_of_verdict {clock : Option Timestamp}
    (h : ((desk.issuer setup).verdict mic clock).value = .ok .opened) :
    ∃ now t, clock = some now ∧ now.instant? = some t ∧ setup.schedule.KeepsOpen mic t := by
  have hverdict : setup.schedule.verdict mic clock = .ok .opened := by
    simp only [issuer] at h
    split at h
    · cases h
    · exact h
  simp only [Schedule.verdict, Market.verdict, bind_eq_ok_iff, pure_eq_ok_iff] at hverdict
  obtain ⟨market, hmarket, t, ht, w, hw, hopened⟩ := hverdict
  obtain ⟨now, hclock, hnow⟩ := Timestamp.instant_eq_ok_iff.mp ht
  exact ⟨now, t, hclock, hnow, market, w, hmarket, hw,
    Market.verdictOn_eq_opened_iff_keepsOpen.mp hopened⟩

/-- A tier that says that a market is open is an override that forces it, or the schedule. -/
theorem earned_of_said {tier : Tier}
    (hsaid : (desk.issuer setup).Says mic desk.clock tier content)
    (hopened : content.status = .opened) :
    ∃ now t, desk.clock = some now ∧ now.instant? = some t ∧
      (content.source = .override ∧ desk.ForcesOpen mic t ∨
        content.source = .schedule ∧ setup.schedule.KeepsOpen mic t) := by
  cases tier with
  | override =>
    obtain ⟨override, hactive, rfl⟩ := hsaid
    obtain ⟨now, t, hclock, hnow, hforces⟩ := forcesOpen_of_findsActive hactive hopened
    exact ⟨now, t, hclock, hnow, .inl ⟨rfl, hforces⟩⟩
  | schedule =>
    obtain ⟨verdict, hverdict, rfl⟩ := hsaid
    cases verdict with
    | opened =>
      obtain ⟨now, t, hclock, hnow, hkeeps⟩ := keepsOpen_of_verdict hverdict
      exact ⟨now, t, hclock, hnow, .inr ⟨rfl, hkeeps⟩⟩
    | unverified year => cases hopened
    | closed => cases hopened
  | safetyNet =>
    cases hsaid
    cases hopened
  | liveness =>
    cases hsaid
    cases hopened

/-- After every run, an answer that a market is open is earned at that moment. Either the store holds
an entry of the market that means an override to open, not ended yet, and the answer names the
override as its source; or it names the schedule, and the market's own wall clock shows a minute of a
trading day within its trading hours. -/
theorem opened_is_earned {steps : List DeskStep} {request : Request} {mic : Option String}
    {members : List (String × Json)}
    (hrequest : request = .demo mic ∨ ∃ key, request = .status mic key)
    (hanswer : ((desk.run setup steps).answer setup request).value.1 = .ok ⟨200, .obj members⟩)
    (hopened : Json.member members "status" = .str "OPEN") :
    ∃ now t, (desk.afterEvents steps).clock = some now ∧ now.instant? = some t ∧
      (Json.member members "source" = .str "OVERRIDE" ∧
          (desk.afterEvents steps).ForcesOpen (Mic.orDefault mic Mic.default) t ∨
        Json.member members "source" = .str "SCHEDULE" ∧
          setup.schedule.KeepsOpen (Mic.orDefault mic Mic.default) t) := by
  have hsame := desk.sameAround_run setup steps
  have hsearch : request.search? = some (Mic.orDefault mic Mic.default, Issuer.marketTiers) := by
    rcases hrequest with rfl | ⟨key, rfl⟩
    · rfl
    · rfl
  obtain ⟨tier, content, tally, receipt, -, hsaid, hsigns, hjson⟩ :=
    answersReceipt_of_answer hsearch hanswer rfl
  obtain ⟨hstatus, hsource, -⟩ := Receipt.member_of_toJson hjson
  have hname := Json.str.inj (hstatus.symm.trans hopened)
  rw [MarketStatus.name_eq_open_iff, hsigns.status] at hname
  obtain ⟨now, t, hclock, hnow, hearned⟩ := earned_of_said hsaid hname
  refine ⟨now, t, hsame.clock_eq.symm.trans hclock, hnow, ?_⟩
  rw [hsource, hsigns.source]
  rcases hearned with ⟨hoverride, hforces⟩ | ⟨hschedule, hkeeps⟩
  · exact .inl ⟨by rw [hoverride]; rfl, hsame.forcesOpen hforces⟩
  · exact .inr ⟨by rw [hschedule]; rfl, hkeeps⟩

end

/-- A desk with a table of overrides, at which nothing has happened. -/
def start : Desk where
  clock := none
  files := ⟨[], []⟩
  store := .table ⟨[]⟩
  verdictBroken := false
  outlookBroken := false
  tally := ⟨0, 0⟩

/-- An operator forces a market open up to 13:00 UTC, at 12:00 UTC on Saturday, 28 March 2026. -/
def saturday : List DeskStep :=
  [.event (.now (some (.utc ⟨1774699200000000, by decide, by decide⟩))),
    .event (.put "xlon" (.obj [("status", .str "open"), ("reason", .str "drill"),
      ("expires", .str "2026-03-28T13:00:00Z")]))]

/-- A set-up whose signatures are empty. -/
def setupOfSpring : DeskSetup where
  schedule := .spring
  scheme := ⟨id, fun _ _ => .ok [], fun _ _ _ => true, PrivateKey.ofPem?, PrivateKey.ofDer?⟩
  signer := ⟨some "9d61b19deffd5a60ba844af492ec2cc44449c5697b326919703bac031cae7f60", "key1"⟩
  newId _ := .str "id"
  signFailures := []
  schemaVersion := Issuer.defaultSchemaVersion
  lifetime := 60000000
  keys := ⟨[], by simp⟩
  accepts? := none
  note := Service.defaultNote

/-- On that Saturday the market is answered to be open, and it is the operator who has it open. -/
theorem forcesOpen_on_saturday : ∃ members t,
    ((start.run setupOfSpring saturday).answer setupOfSpring (.demo (some " xlon "))).value.1 =
      .ok ⟨200, .obj members⟩ ∧
    Json.member members "status" = .str "OPEN" ∧ (start.afterEvents saturday).ForcesOpen "XLON" t := by
  have hrun : (Response.success? ((start.run setupOfSpring saturday).answer setupOfSpring
        (.demo (some " xlon "))).value.1).map (fun members =>
      ((Json.member members "status").text?, (Json.member members "source").text?)) =
      some (some "OPEN", some "OVERRIDE") := by decide +kernel
  obtain ⟨members, hmembers, hnames⟩ := Option.map_eq_some_iff.mp hrun
  rw [Prod.mk.injEq, Json.text?_eq_some_iff, Json.text?_eq_some_iff] at hnames
  have hanswer := Response.success?_eq_some_iff.mp hmembers
  have hmic : Mic.orDefault (some " xlon ") Mic.default = "XLON" := by decide +kernel
  obtain ⟨now, t, -, -, ⟨-, hforces⟩ | ⟨hschedule, -⟩⟩ :=
    opened_is_earned (.inl rfl) hanswer hnames.1
  · exact ⟨members, t, hanswer, hnames.1, hmic ▸ hforces⟩
  · exact absurd (Json.str.inj (hschedule.symm.trans hnames.2)) (by decide)

end Desk

end TradingStatus
