import TradingStatus.Proofs.Market.Loaded
import TradingStatus.Proofs.Schedule.Totality
import TradingStatus.Proofs.Service.Isolation
import TradingStatus.Proofs.Service.Unverified
import TradingStatus.Proofs.Time.Offsets
import TradingStatus.Shipped

/-! What a calendar that was loaded is good for. All that may be wrong with a market is found when
its document is read; from then on its schedule answers at every instant, and a receipt falls back
on the safety net for no reason that lies in the calendar. -/

namespace TradingStatus

namespace Issuer

variable {issuer : Issuer} {mic : String} {clock : Option Timestamp} {content : Content}
  {tier : Tier} {before after : List Tier} {tally later : Tally} {outcome : Outcome}

/-- Where anything would be signed, a search goes no further than to the first tier that has
something to say. -/
theorem Settles.exists_signed (hsigns : issuer.SignsAnything clock tally)
    (said : issuer.Says mic clock tier content)
    (h : issuer.Settles mic clock (before ++ tier :: after) tally outcome later) :
    ∃ first ∈ before ++ [tier], ∃ receipt, outcome = .signed first receipt := by
  induction before with
  | nil =>
    cases h with
    | found tries => exact ⟨tier, List.mem_singleton_self _, _, rfl⟩
    | passed tries rest =>
      cases tries with
      | silent hnot => exact absurd said (hnot _)
      | unsigned _ fails _ =>
        obtain ⟨receipt, hreceipt⟩ := hsigns _
        exact absurd hreceipt (fails receipt)
  | cons earlier before ih =>
    cases h with
    | found tries => exact ⟨earlier, List.mem_cons_self, _, rfl⟩
    | passed tries rest =>
      cases tries with
      | silent _ =>
        obtain ⟨first, hfirst, hsigned⟩ := ih rest
        exact ⟨first, List.mem_cons_of_mem _ hfirst, hsigned⟩
      | unsigned _ fails _ =>
        obtain ⟨receipt, hreceipt⟩ := hsigns _
        exact absurd hreceipt (fails receipt)

/-- Where there is a verdict and anything would be signed, the search ends with the schedule at the
latest. -/
theorem issue_of_verdict {verdict : Verdict} (hmic : mic ∈ issuer.calendar.supported)
    (hverdict : (issuer.verdict mic clock).value = .ok verdict)
    (hsigns : issuer.SignsAnything clock tally) :
    ∃ tier receipt, (issuer.issue mic clock tally).value.1 = .ok (.signed tier receipt) ∧
      (tier = .override ∨ tier = .schedule) := by
  have hsaid : issuer.Says mic clock .schedule ⟨mic, verdict.status, verdict.source, none⟩ :=
    ⟨verdict, hverdict, rfl⟩
  have hsettles : issuer.Settles mic clock ([.override] ++ .schedule :: [.safetyNet]) tally _ _ :=
    issuer.settles_issueFor mic clock tally
  obtain ⟨tier, htier, receipt, hsigned⟩ := hsettles.exists_signed hsigns hsaid
  refine ⟨tier, receipt, ?_, by simpa using htier⟩
  rw [value_issue_of_supported hmic, hsigned]

end Issuer

namespace Calendar

variable {zones : ZoneDatabase} {document : Json} {calendar : Calendar} {mic : String}
  {clock : Timestamp} {now : Instant}

/-- A calendar that was loaded fails at no instant. Let the clocks of every zone in the database be
less than a day from UTC, and let a clock show an instant of the years 2 to 9998. For every market
of every document that is accepted, whatever else is in it, the schedule says that the market is
open, that it is closed or that nothing is known; and it tells of the sessions to come however many
days it looks ahead, as long as none of them is later than the year 9998. So where receipts can be
written and texts are signed, a receipt comes from an override or from the schedule, whatever is
looked up. -/
theorem loaded_market_is_answered [Platform] (hzones : zones.StaysNearUtc)
    (hcalendar : ofJson zones document = .ok calendar) (hmic : mic ∈ calendar.supported)
    (hclock : clock.instant? = some now)
    (hoffset : ∀ offset ∈ clock.offset, -86400 < offset ∧ offset < 86400)
    (hfirst : 2 ≤ clock.reading.date.year) (hlast : clock.reading.date.year ≤ 9998) :
    ∃ market today, calendar.get mic = .ok market ∧ market.zone.wallClock now = .ok today ∧
      ∀ schedule : Schedule, schedule.calendar = calendar →
        (∃ verdict, schedule.verdict mic (some clock) = .ok verdict ∧
          (verdict.status = .opened ∨ verdict.status = .closed ∨ verdict.status = .unknown)) ∧
        (Date.yearOf (today.date.dayNumber + schedule.lookahead - 1) ≤ 9998 →
          ∃ outlook, schedule.outlook mic (some clock) = .ok outlook) ∧
        ∀ issuer : Issuer, issuer.calendar = calendar → issuer.verdict = schedule.reportVerdict →
          (∀ number, ∃ id, issuer.newId number = .str id) →
          (∃ version, issuer.schemaVersion = .str version) →
          (∀ number fields, ∃ signature,
            issuer.sign number (Json.texts fields) = .ok signature) →
          issuer.Writes (some clock) →
          ∀ tally, ∃ tier receipt,
            (issuer.issue mic (some clock) tally).value.1 = .ok (.signed tier receipt) ∧
              (tier = .override ∨ tier = .schedule) := by
  obtain ⟨market, hfound⟩ := Option.isSome_iff_exists.mp (find?_isSome.mpr hmic)
  have hmarket := get_eq_ok_iff.mpr hfound
  obtain ⟨name, hzone⟩ := exists_zone_of_get hcalendar hmarket
  have hnear := hzones name market.zone hzone
  have hnow := Timestamp.micros_of_year hclock hoffset hfirst hlast
  obtain ⟨today, htoday⟩ := Zone.exists_wallClock hnear
    (Timestamp.isShownEverywhere_of_year hclock hoffset hfirst hlast)
  refine ⟨market, today, hmarket, htoday, fun schedule hschedule => ?_⟩
  subst hschedule
  have hverdict : schedule.verdict mic (some clock) = .ok (market.verdictOn today) := by
    rw [Schedule.verdict_eq hmarket hclock, Market.verdict, htoday]
    rfl
  refine ⟨⟨_, hverdict, ?_⟩, fun hend => ?_, ?_⟩
  · cases market.verdictOn today with
    | opened => exact .inl rfl
    | closed => exact .inr (.inl rfl)
    | unverified year => exact .inr (.inr rfl)
  · rw [Schedule.outlook_eq hmarket hclock]
    exact Market.exists_outlook hnear hnow.1 htoday hend
  · intro issuer hissuer hasks hids hversion hsign hwrites tally
    obtain ⟨id, hid⟩ := hids (tally.ids + 1)
    obtain ⟨version, hversion⟩ := hversion
    have hasked : (issuer.verdict mic (some clock)).value = .ok (market.verdictOn today) := by
      rw [hasks]
      exact hverdict
    exact Issuer.issue_of_verdict (by rwa [hissuer]) hasked
      (Issuer.signsAnything_of_texts hwrites hid hversion (hsign (tally.signs + 1)))

/-- An issuer on a schedule, with a store that cannot be read. -/
def issuerOf (schedule : Schedule) : Issuer where
  calendar := schedule.calendar
  verdict := schedule.reportVerdict
  lookup? := some fun _ => pure (.error .outOfRange)
  newId number := .str (toString number)
  sign _ _ := .ok ""
  keyId := "key"
  schemaVersion := Issuer.defaultSchemaVersion
  lifetime := 60000000
  clockRule := .fixed

/-- On a Saturday the calendar that the program comes with is asked for the sessions in Tokyo and
for a receipt. -/
theorem tokyo_is_answered : ∃ calendar, ofJson .standard Shipped.markets = .ok calendar ∧
    ∃ schedule : Schedule, schedule.calendar = calendar ∧
      (∃ outlook, schedule.outlook "XJPX" (some Desk.quarterPastNoon) = .ok outlook) ∧
      ∃ tier receipt,
        ((issuerOf schedule).issue "XJPX" (some Desk.quarterPastNoon) ⟨0, 0⟩).value.1 =
          .ok (.signed tier receipt) ∧ (tier = .override ∨ tier = .schedule) := by
  have hread : (do
      let calendar ← ofJson .standard Shipped.markets
      let market ← calendar.get "XJPX"
      return (calendar.supported, ← market.zone.wallClock ⟨1774700100000000⟩)) =
      .ok (["XNYS", "XNAS", "XLON", "XJPX", "XPAR", "XHKG", "XSES"],
        ⟨⟨20540, by decide, by decide⟩, 1275, by decide⟩) :=
    toOption_eq_some_iff.mp (by decide +kernel)
  obtain ⟨calendar, hcalendar, h⟩ := bind_eq_ok_iff.mp hread
  obtain ⟨market, hmarket, h⟩ := bind_eq_ok_iff.mp h
  obtain ⟨shown, hshown, h⟩ := bind_eq_ok_iff.mp h
  obtain ⟨hsupported, rfl⟩ := Prod.mk.inj (pure_eq_ok_iff.mp h)
  have hmic : "XJPX" ∈ calendar.supported := by
    rw [hsupported]
    decide
  obtain ⟨found, today, hfound, htoday, hanswers⟩ := loaded_market_is_answered
    ZoneDatabase.staysNearUtc_standard hcalendar hmic
    (show Desk.quarterPastNoon.instant? = some ⟨1774700100000000⟩ from rfl)
    (fun offset h => by cases h; decide) (by decide +kernel) (by decide +kernel)
  obtain rfl := Except.ok.inj (hmarket.symm.trans hfound)
  obtain rfl := Except.ok.inj (hshown.symm.trans htoday)
  obtain ⟨-, houtlook, hissue⟩ := hanswers ⟨calendar, 14, by decide⟩ rfl
  refine ⟨calendar, hcalendar, ⟨calendar, 14, by decide⟩, rfl, houtlook ?_,
    hissue (issuerOf _) rfl rfl (fun number => ⟨_, rfl⟩) ⟨_, rfl⟩ (fun number fields => ⟨_, rfl⟩)
      ⟨_, _, rfl, rfl, ⟨_, rfl⟩, ⟨_, rfl⟩⟩ ⟨0, 0⟩⟩
  show Date.yearOf (20540 + 14 - 1) ≤ 9998
  decide +kernel

end Calendar

end TradingStatus
