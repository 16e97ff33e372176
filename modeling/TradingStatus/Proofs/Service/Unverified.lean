import TradingStatus.Proofs.Schedule.Coverage
import TradingStatus.Proofs.Service.Earned
import TradingStatus.Proofs.Service.Prospects

/-! A service in a year whose holidays have not been looked at. All that it says of the present and of
sessions to come is taken from one schedule, and where that schedule cannot vouch for an answer, no
part of the service makes up for it: nothing is known, no session is announced, and a receipt that is
signed says so. -/

namespace TradingStatus

namespace Issuer

variable {issuer : Issuer} {mic : String} {clock : Option Timestamp} {tally : Tally}

theorem issue_of_no_override (verdict : Verdict) {receipt : Receipt}
    (hmic : mic ∈ issuer.calendar.supported)
    (hnone : ∀ override, ¬issuer.FindsActive mic clock override)
    (hverdict : (issuer.verdict mic clock).value = .ok verdict)
    (hsigns : issuer.Signs clock ⟨mic, verdict.status, verdict.source, none⟩ tally receipt) :
    (issuer.issue mic clock tally).value.1 = .ok (.signed .schedule receipt) := by
  -- The first tier is silent and asks for nothing, so the second one signs with what the search began
  -- with, and a search settles in one way only.
  have hoverride : issuer.Tries mic clock .override tally none tally := by
    refine .silent ?_
    rintro content ⟨override, hactive, -⟩
    exact hnone override hactive
  have hschedule : issuer.Tries mic clock .schedule tally (some receipt) _ :=
    .signed ⟨verdict, hverdict, rfl⟩ hsigns (issuer.spends_issueSigned clock
      ⟨mic, verdict.status, verdict.source, none⟩ tally)
  have hsettles := (issuer.settles_issueFor mic clock tally).unique
    (.passed hoverride (.found hschedule))
  rw [value_issue_of_supported hmic, hsettles.1]

end Issuer

namespace Service

variable {service : Service} {schedule : Schedule} {mic : String} {market : Market}
  {clock : Timestamp} {now : Instant} {today : WallClock}

/-- A service says what a schedule says, of the markets of that schedule. -/
structure Follows (service : Service) (schedule : Schedule) : Prop where
  calendar : service.issuer.calendar = schedule.calendar
  verdict : service.issuer.verdict = schedule.reportVerdict
  outlook : service.outlook = schedule.reportOutlook

theorem follows_of_unbroken [Platform] (desk : Desk) (setup : DeskSetup)
    (hverdict : desk.verdictBroken = false) (houtlook : desk.outlookBroken = false) :
    (desk.service setup).Follows setup.schedule where
  calendar := rfl
  verdict := by
    funext mic clock
    simp [Desk.service, Desk.issuer, hverdict]
  outlook := by
    funext mic clock
    simp [Desk.service, houtlook]

namespace Follows

theorem find?_eq (hfollows : service.Follows schedule)
    (hmarket : schedule.calendar.get mic = .ok market) :
    service.issuer.calendar.find? mic = some market := by
  rw [hfollows.calendar]
  exact Calendar.get_eq_ok_iff.mp hmarket

theorem value_verdict (hfollows : service.Follows schedule)
    (hmarket : schedule.calendar.get mic = .ok market) (hclock : clock.instant? = some now) :
    (service.issuer.verdict mic (some clock)).value = market.verdict now := by
  rw [hfollows.verdict, ← Schedule.verdict_eq hmarket hclock]
  rfl

theorem value_outlook (hfollows : service.Follows schedule)
    (hmarket : schedule.calendar.get mic = .ok market) (hclock : clock.instant? = some now) :
    (service.outlook mic (some clock)).value = market.outlook schedule.lookahead now := by
  rw [hfollows.outlook, ← Schedule.outlook_eq hmarket hclock]
  rfl

end Follows

theorem schedule_of_not_covers {request : Option String} (hfollows : service.Follows schedule)
    (hmarket : schedule.calendar.get mic = .ok market)
    (hrequest : Mic.orDefault request Mic.default = mic) (hclock : clock.instant? = some now)
    (hnow : now.IsReadable) (htoday : market.zone.wallClock now = .ok today)
    (hcovers : market.covers today.date.year = false) :
    ∃ members, (service.schedule request (some clock)).value = .ok ⟨200, .obj members⟩ ∧
      members.lookup "current_status" = some (.str "UNKNOWN") ∧
      members.lookup "next_open" = some .null ∧ members.lookup "next_close" = some .null := by
  subst hrequest
  have hverdict : market.verdict now = .ok (.unverified today.date.year) := by
    rw [Market.verdict, htoday, ← Market.verdictOn_of_not_covers hcovers]
    rfl
  have houtlook := Market.outlook_of_not_covers schedule.lookahead_pos htoday hcovers
  rw [← hfollows.value_verdict hmarket hclock] at hverdict
  rw [← hfollows.value_outlook hmarket hclock] at houtlook
  obtain ⟨text, htext⟩ := Timestamp.exists_isoUtc hclock hnow
  have hnone : ∀ session, (Outlook.unverified today.date.year).session? = some session →
      session.opens.IsReadable ∧ session.closes.IsReadable := by
    intro session h
    cases h
  obtain ⟨opens, closes, hbody, hnull⟩ := exists_scheduleJson market service.note
    (.unverified today.date.year) htext hnone
  obtain ⟨rfl, rfl⟩ := hnull rfl
  have hresponse := value_schedule_of_prospects (hfollows.find?_eq hmarket)
    (value_prospects_eq_ok_iff.mpr ⟨hverdict, houtlook⟩)
  rw [hbody] at hresponse
  exact ⟨_, hresponse, rfl, rfl, rfl⟩

/-- In a year whose holidays have not been looked at, nothing is said but that nothing is known.
Whatever a market's trading hours and holidays, at every instant that clocks less than a day from UTC
can show, in the years 2 to 9998 for one: the state of the market is unknown exactly if the year on
its own wall clock has not been looked at, and otherwise the schedule says that it is open or closed.
In such a year no session is announced, the schedule is answered without one, and a receipt that is
not forced by an override says that nothing is known. And every day from the present one up to a
session that is announced lies in a year that has been looked at. -/
theorem unverified_year_fails_closed (hfollows : service.Follows schedule)
    (hmarket : schedule.calendar.get mic = .ok market)
    (hoffset : ∀ s, -86400 < market.zone.offsetAt s ∧ market.zone.offsetAt s < 86400)
    (hclock : clock.instant? = some now) (hnow : now.IsShownEverywhere) :
    ∃ today verdict, market.zone.wallClock now = .ok today ∧
      schedule.verdict mic (some clock) = .ok verdict ∧
      (verdict.status = .unknown ∧ verdict.source = .system ↔
        market.covers today.date.year = false) ∧
      (market.covers today.date.year = true →
        verdict.source = .schedule ∧ (verdict.status = .opened ∨ verdict.status = .closed)) ∧
      (market.covers today.date.year = false →
        (∃ outlook, schedule.outlook mic (some clock) = .ok outlook ∧ outlook.session? = none) ∧
        (∀ request, Mic.orDefault request Mic.default = mic →
          ∃ members, (service.schedule request (some clock)).value = .ok ⟨200, .obj members⟩ ∧
            members.lookup "current_status" = some (.str "UNKNOWN") ∧
            members.lookup "next_open" = some .null ∧ members.lookup "next_close" = some .null) ∧
        ∀ tally receipt, (∀ override, ¬service.issuer.FindsActive mic (some clock) override) →
          service.issuer.Signs (some clock) ⟨mic, .unknown, .system, none⟩ tally receipt →
          (service.issuer.issue mic (some clock) tally).value.1 = .ok (.signed .schedule receipt) ∧
            receipt.status = .unknown ∧ receipt.source = .system) ∧
      ∀ outlook session, schedule.outlook mic (some clock) = .ok outlook →
        outlook.session? = some session →
        ∃ day, today.date ≤ day ∧ market.tradesOn day = true ∧
          market.sessionOn day now = .ok (some session) ∧
          ∀ d, today.date ≤ d → d ≤ day → market.covers d.year = true := by
  obtain ⟨today, htoday⟩ := Zone.exists_wallClock hoffset hnow
  have hverdict : market.verdict now = .ok (market.verdictOn today) := by
    rw [Market.verdict, htoday]
    rfl
  refine ⟨today, market.verdictOn today, htoday, ?_, Market.unknown_of_verdictOn_iff, ?_, ?_, ?_⟩
  · rw [Schedule.verdict_eq hmarket hclock, hverdict]
  · intro hcovers
    rcases Market.verdictOn_of_covers hcovers with h | h
    · rw [h]
      exact ⟨rfl, .inl rfl⟩
    · rw [h]
      exact ⟨rfl, .inr rfl⟩
  · intro hcovers
    refine ⟨⟨.unverified today.date.year, ?_, rfl⟩, ?_, ?_⟩
    · rw [Schedule.outlook_eq hmarket hclock]
      exact Market.outlook_of_not_covers schedule.lookahead_pos htoday hcovers
    · intro request hrequest
      exact schedule_of_not_covers hfollows hmarket hrequest hclock hnow.isReadable htoday hcovers
    · intro tally receipt hnone hsigns
      refine ⟨Issuer.issue_of_no_override (.unverified today.date.year) ?_ hnone ?_ hsigns,
        hsigns.status, hsigns.source⟩
      · rw [← Calendar.find?_isSome, hfollows.find?_eq hmarket]
        rfl
      · rw [hfollows.value_verdict hmarket hclock, hverdict, Market.verdictOn_of_not_covers hcovers]
  · intro outlook session houtlook hsession
    obtain rfl := Outlook.session?_eq_some_iff.mp hsession
    rw [Schedule.outlook_eq hmarket hclock, Market.outlook, htoday] at houtlook
    exact Market.covers_of_finds (Market.finds_of_sessionWithin houtlook)

/-- Half past eleven in the evening of the last day of 2026, on a UTC clock. -/
def newYearsEve : Timestamp := .utc ⟨1798759800000000, by decide, by decide⟩

/-- In London, where the clocks of this schedule stay put forward, the new year has begun, and nothing
has been looked at of it. -/
theorem unknown_on_newYearsEve : ∃ today members receipt,
    Market.withLunch.zone.wallClock ⟨1798759800000000⟩ = .ok today ∧ today.date.year = 2027 ∧
      ((Desk.start.service Desk.setupOfSpring).schedule (some "xlon") (some newYearsEve)).value =
        .ok ⟨200, .obj members⟩ ∧ members.lookup "next_open" = some .null ∧
      ((Desk.start.issuer Desk.setupOfSpring).issue "XLON" (some newYearsEve) ⟨0, 0⟩).value.1 =
        .ok (.signed .schedule receipt) ∧ receipt.status = .unknown := by
  have hoffset (s : Int) : -86400 < Market.withLunch.zone.offsetAt s ∧
      Market.withLunch.zone.offsetAt s < 86400 := by
    show -86400 < Zone.springForward.offsetAt s ∧ Zone.springForward.offsetAt s < 86400
    unfold Zone.springForward
    simp only
    split <;> omega
  have hnow : Instant.IsShownEverywhere ⟨1798759800000000⟩ :=
    Timestamp.isShownEverywhere_of_year (show newYearsEve.instant? = _ from rfl)
      (fun offset h => by cases h; decide) (by decide +kernel) (by decide +kernel)
  obtain ⟨today, verdict, htoday, -, -, -, hunknown, -⟩ := unverified_year_fails_closed
    (follows_of_unbroken .start Desk.setupOfSpring rfl rfl)
    (show Schedule.spring.calendar.get "XLON" = .ok Market.withLunch from rfl) hoffset
    (show newYearsEve.instant? = some ⟨1798759800000000⟩ from rfl) hnow
  have hshown : Market.withLunch.zone.wallClock ⟨1798759800000000⟩ =
      .ok ⟨⟨20819, by decide, by decide⟩, 30, by decide⟩ :=
    toOption_eq_some_iff.mp (by decide +kernel)
  obtain rfl := Except.ok.inj (hshown.symm.trans htoday)
  obtain ⟨-, hschedule, hissue⟩ := hunknown (by decide +kernel)
  obtain ⟨members, hmembers, -, hopens, -⟩ := hschedule (some "xlon") (by decide +kernel)
  have hsigns : ((Desk.start.issuer Desk.setupOfSpring).issueSigned (some newYearsEve)
      ⟨"XLON", .unknown, .system, none⟩ ⟨0, 0⟩).1.toOption.isSome = true := by decide +kernel
  obtain ⟨receipt, hreceipt⟩ := Option.isSome_iff_exists.mp hsigns
  obtain ⟨hissued, hstatus, -⟩ := hissue ⟨0, 0⟩ receipt
    (by
      rintro override ⟨lookup, -, hlookup, hfound, -⟩
      cases hlookup
      cases hfound)
    (Issuer.toOption_issueSigned_eq_some_iff.mp hreceipt)
  exact ⟨_, members, receipt, htoday, by decide +kernel, hmembers, hopens, hissued, hstatus⟩

end Service

end TradingStatus
