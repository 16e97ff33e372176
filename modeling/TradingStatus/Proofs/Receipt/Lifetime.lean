import TradingStatus.Proofs.Service.Earned
import TradingStatus.Proofs.Time.Rendered
import TradingStatus.Time.Duration

/-! For how long a receipt is said to live. Its two times are cut down to whole milliseconds each on
its own, and written; read again they lie apart by the number of seconds that the issuer was set up
with, and the end is never later than the clock would have it. -/

namespace TradingStatus

theorem Timestamp.isoUtc_eq_ok_iff {clock : Option Timestamp} {text : String} :
    isoUtc clock = .ok text ↔ ∃ (t : Timestamp) (r : Reading), clock = some t ∧
      t.instant? = some ⟨r.micros⟩ ∧ text = r.isoUtc := by
  constructor
  · intro h
    simp only [isoUtc, Instant.isoUtc, bind_eq_ok_iff, pure_eq_ok_iff] at h
    obtain ⟨shown, hshown, r, hr, rfl⟩ := h
    obtain ⟨t, rfl, ht⟩ := instant_eq_ok_iff.mp hshown
    refine ⟨t, r, rfl, ?_, rfl⟩
    rw [ht, Instant.reading_eq_ok_iff.mp hr]
  · rintro ⟨t, r, rfl, ht, rfl⟩
    exact isoUtc_eq_ok ht

/-- The microseconds of a number of seconds, which is above zero. -/
theorem lifetimeOf_int {seconds lifetime : Int} (h : lifetimeOf (.int seconds) = .ok lifetime) :
    0 < seconds ∧ lifetime = seconds * 1000000 := by
  unfold lifetimeOf at h
  split at h
  · next hpositive =>
    refine ⟨of_decide_eq_true hpositive, ?_⟩
    unfold durationOf boundedDuration at h
    dsimp only at h
    split at h
    · cases h
    · split at h
      · cases h
      · exact (Except.ok.inj h).symm
  · cases h

/-- A value is a text that is read as a timestamp of the instant. -/
def Json.TellsInstant (value : Json) (t : Instant) : Prop :=
  ∃ text back, value = .str text ∧ Timestamp.ofIso text = .ok back ∧ back.instant? = some t

theorem Reading.tellsInstant_isoUtc {r : Reading} (h : 1000 ≤ r.date.year) :
    (Json.str r.isoUtc).TellsInstant ⟨r.micros / 1000 * 1000⟩ :=
  ⟨_, _, rfl, ofIso_isoUtc h, Timestamp.instant?_utc _⟩

namespace Issuer

variable {issuer : Issuer} {clock : Option Timestamp} {receipt : Receipt}

/-- Receipts that an issuer comes to, about a market or about the service itself. -/
inductive Issues (issuer : Issuer) (clock : Option Timestamp) (receipt : Receipt) : Prop
  | market {mic : String} {tally : Tally} {tier : Tier}
      (h : (issuer.issue mic clock tally).value.1 = .ok (.signed tier receipt))
  | liveness {tally : Tally} {tier : Tier}
      (h : (issuer.issueLiveness clock tally).value.1 = .signed tier receipt)

theorem Issues.exists_signs (h : issuer.Issues clock receipt) :
    ∃ content tally, issuer.Signs clock content tally receipt := by
  cases h with
  | @market mic tally tier h =>
    by_cases hmic : mic ∈ issuer.calendar.supported
    · rw [value_issue_of_supported hmic] at h
      have hsettles := issuer.settles_issueFor mic clock tally
      rw [Except.ok.inj h] at hsettles
      obtain ⟨-, content, spent, -, hsigns⟩ := hsettles.exists_signs
      exact ⟨content, spent, hsigns⟩
    · rw [issue_of_not_supported hmic] at h
      cases h
  | @liveness tally tier h =>
    have hsettles := issuer.settles_issueLiveness livenessMic clock tally
    rw [h] at hsettles
    obtain ⟨-, content, spent, -, hsigns⟩ := hsettles.exists_signs
    exact ⟨content, spent, hsigns⟩

/-- What is signed names the two times of a receipt, as they are written. -/
theorem Signs.exists_window {content : Content} {tally : Tally}
    (h : issuer.Signs clock content tally receipt)
    (hkeeps : ∀ now ∈ clock, now.KeepsOffset issuer.clockRule issuer.lifetime) :
    ∃ (now : Timestamp) (r s : Reading) (members : List (String × Json)),
      clock = some now ∧ now.instant? = some ⟨r.micros⟩ ∧ s.micros = r.micros + issuer.lifetime ∧
      receipt.signedMembers = .ok members ∧
      Json.member members "issued_at" = .str r.isoUtc ∧
      Json.member members "expires_at" = .str s.isoUtc := by
  obtain ⟨now, expires, hclock, hexpires, hissuedAt, hexpiresAt⟩ := h.lifetime
  obtain ⟨members, -, hmembers, -, -⟩ := h.signature
  obtain ⟨issued, ended, hissued, hended, rfl⟩ := Receipt.signedMembers_eq_ok_iff.mp hmembers
  rw [hissuedAt, Timestamp.isoUtc_eq_ok_iff] at hissued
  rw [hexpiresAt, Timestamp.isoUtc_eq_ok_iff] at hended
  obtain ⟨_, r, heq, hr, rfl⟩ := hissued
  obtain rfl := Option.some.inj heq
  obtain ⟨_, s, heq, hs, rfl⟩ := hended
  obtain rfl := Option.some.inj heq
  have hlater := (hkeeps _ hclock).instant? hexpires hr
  have hmicros : s.micros = r.micros + issuer.lifetime :=
    Instant.mk.inj (Option.some.inj (hs.symm.trans hlater))
  exact ⟨now, r, s, _, hclock, hr, hmicros, hmembers, rfl, rfl⟩

/-- From the year 1000 on, the times that are signed into a receipt are read as instants that lie
apart by the seconds of its lifetime: it begins in the millisecond in which the clock stood, and
ends no later than its lifetime after what the clock showed. -/
theorem signed_window_is_exact {seconds : Int} {now : Timestamp} {t : Reading}
    (hlifetime : lifetimeOf (.int seconds) = .ok issuer.lifetime)
    (hnow : now.instant? = some ⟨t.micros⟩) (hyear : 1000 ≤ t.date.year)
    (hkeeps : now.KeepsOffset issuer.clockRule issuer.lifetime)
    (hissued : issuer.Issues (some now) receipt) :
    ∃ members signature n begins ends,
      receipt.toJson = .ok (.obj (members ++ [("signature", .str signature)])) ∧
      issuer.sign n members = .ok signature ∧
      (Json.member members "issued_at").TellsInstant begins ∧
      (Json.member members "expires_at").TellsInstant ends ∧
      begins.micros ≤ t.micros ∧ t.micros < begins.micros + 1000 ∧
      ends.micros - begins.micros = seconds * 1000000 ∧
      ends.micros ≤ t.micros + seconds * 1000000 := by
  obtain ⟨hpositive, hmicros⟩ := lifetimeOf_int hlifetime
  obtain ⟨content, tally, hsigns⟩ := hissued.exists_signs
  obtain ⟨_, r, s, members, heq, hr, hs, hmembers, hbegins, hends⟩ :=
    hsigns.exists_window fun _ h => Option.some.inj h ▸ hkeeps
  obtain rfl := Option.some.inj heq
  have hsame : r.micros = t.micros := Instant.mk.inj (Option.some.inj (hr.symm.trans hnow))
  obtain rfl : r = t := Reading.ext hsame
  obtain ⟨_, signature, hsigned, hsign, hcarried⟩ := hsigns.signature
  obtain rfl := Except.ok.inj (hmembers.symm.trans hsigned)
  have hyears : r.date.year ≤ s.date.year := Date.year_le (Reading.dayNumber_le (by omega))
  refine ⟨members, signature, tally.signs + 1, ⟨r.micros / 1000 * 1000⟩, ⟨s.micros / 1000 * 1000⟩,
    Receipt.toJson_eq_ok_iff.mpr ⟨members, hmembers, hcarried ▸ rfl⟩, hsign, ?_, ?_, ?_⟩
  · rw [hbegins]
    exact Reading.tellsInstant_isoUtc hyear
  · rw [hends]
    exact Reading.tellsInstant_isoUtc (by omega)
  · simp only
    omega

/-- A clock in Tokyo half a minute before the leap day of 2028 begins in UTC. -/
def beforeLeapDay : Timestamp := ⟨⟨1835427570999500, by decide, by decide⟩, some 32400⟩

/-- A receipt for a market that lives for a minute from then on, into the leap day. -/
theorem signed_window_into_leap_day :
    let issuer := Desk.start.issuer Desk.setupOfSpring
    lifetimeOf (.int 60) = .ok issuer.lifetime ∧
      ∃ receipt members signature begins ends, issuer.Issues (some beforeLeapDay) receipt ∧
        receipt.toJson = .ok (.obj (members ++ [("signature", .str signature)])) ∧
        (Json.member members "issued_at").TellsInstant begins ∧
        (Json.member members "expires_at").TellsInstant ends ∧
        begins.micros ≤ 1835395170999500 ∧ 1835395170999500 < begins.micros + 1000 ∧
        ends.micros - begins.micros = 60000000 := by
  intro issuer
  have hlifetime : lifetimeOf (.int 60) = .ok issuer.lifetime := rfl
  have hfound : ((issuer.issue "XLON" (some beforeLeapDay) ⟨0, 0⟩).value.1.toOption.bind
      Outcome.receipt?).isSome = true := by decide +kernel
  obtain ⟨receipt, hreceipt⟩ := Option.isSome_iff_exists.mp hfound
  obtain ⟨outcome, houtcome, hreceipt⟩ := Option.bind_eq_some_iff.mp hreceipt
  obtain ⟨tier, rfl⟩ : ∃ tier, outcome = .signed tier receipt := by
    cases outcome with
    | signed tier found => exact ⟨tier, by rw [Option.some.inj hreceipt]⟩
    | unsigned => cases hreceipt
  have hissued : issuer.Issues (some beforeLeapDay) receipt :=
    .market (toOption_eq_some_iff.mp houtcome)
  obtain ⟨members, signature, _, begins, ends, hjson, -, hbegins, hends, hlow, hhigh, hlength, -⟩ :=
    signed_window_is_exact (t := ⟨1835395170999500, by decide, by decide⟩) hlifetime rfl
      (by decide +kernel) (Timestamp.keepsOffset_fixed _ _) hissued
  exact ⟨hlifetime, receipt, members, signature, begins, ends, hissued, hjson, hbegins, hends, hlow,
    hhigh, hlength⟩

end Issuer

end TradingStatus
