import TradingStatus.Proofs.Override.Spellings
import TradingStatus.Proofs.Service.Runs
import TradingStatus.Proofs.Service.WithoutOverrides
import TradingStatus.Proofs.Signing.Payload
import TradingStatus.Proofs.Signing.Signatures

/-! What overrides of one market do to another. A receipt for a market is issued from what is looked
up under its identifier and from nothing else that a store holds. What passes from one market to the
next is how many identifiers and signatures have been asked for, and there an override of another
market leaves a trace where it takes more attempts to issue a receipt with it than without. -/

namespace TradingStatus

namespace Issuer

variable {issuer other : Issuer} {mic : String} {clock : Option Timestamp} {tally later : Tally}
  {tiers : List Tier} {outcome : Outcome}

theorem activeOverride_eq_of_lookups (clock : Option Timestamp)
    (hlookups : issuer.lookup?.map (· mic) = other.lookup?.map (· mic)) :
    issuer.activeOverride mic clock = other.activeOverride mic clock := by
  unfold activeOverride
  cases hissuer : issuer.lookup? with
  | none =>
    cases hother : other.lookup? with
    | none => rfl
    | some lookup => simp [hissuer, hother] at hlookups
  | some found =>
    cases hother : other.lookup? with
    | none => simp [hissuer, hother] at hlookups
    | some lookup =>
      have hmic : found mic = lookup mic := by simpa [hissuer, hother] using hlookups
      simp only [hmic]

/-- Two issuers that are the same without their stores issue the same for a market under whose
identifier they look up the same. -/
theorem issue_eq_of_lookups (hparts : issuer.withoutOverrides = other.withoutOverrides)
    (hlookups : issuer.lookup?.map (· mic) = other.lookup?.map (· mic))
    (clock : Option Timestamp) (tally : Tally) :
    issuer.issue mic clock tally = other.issue mic clock tally := by
  have hactive := activeOverride_eq_of_lookups clock hlookups
  obtain ⟨calendar, verdict, found, newId, sign, keyId, schemaVersion, lifetime, rule⟩ := issuer
  cases other
  simp only [withoutOverrides, mk.injEq] at hparts
  obtain ⟨rfl, rfl, -, rfl, rfl, rfl, rfl, rfl, rfl⟩ := hparts
  unfold issue issueFor tryOverride
  rw [hactive]
  rfl

theorem issueLiveness_withoutOverrides (issuer : Issuer) (clock : Option Timestamp)
    (tally : Tally) :
    issuer.withoutOverrides.issueLiveness clock tally = issuer.issueLiveness clock tally := rfl

/-- Whatever is to be said would be signed at the first attempt. -/
def SignsAnything (issuer : Issuer) (clock : Option Timestamp) (tally : Tally) : Prop :=
  ∀ content, ∃ receipt, issuer.Signs clock content tally receipt

theorem signsAnything_withoutOverrides :
    issuer.withoutOverrides.SignsAnything clock tally ↔ issuer.SignsAnything clock tally := by
  unfold SignsAnything
  simp only [← issueSigned_eq_ok_iff]
  rfl

/-- All members that are signed are texts if the identifier and the version are. -/
theorem exists_texts_of_draft {content : Content} {id version : String} {receipt : Receipt}
    {members : List (String × Json)} (hversion : issuer.schemaVersion = .str version)
    (hdraft : issuer.draft clock content (.str id) = .ok receipt)
    (hmembers : receipt.signedMembers = .ok members) : ∃ fields, members = Json.texts fields := by
  obtain ⟨now, expires, -, -, rfl⟩ := draft_eq_ok_iff.mp hdraft
  obtain ⟨issuedAt, expiresAt, -, -, rfl⟩ := Receipt.signedMembers_eq_ok_iff.mp hmembers
  obtain ⟨mic, status, source, reason⟩ := content
  have hreason : ∃ fields, Receipt.reasonMember
      ⟨.str id, some now, some expires, .str mic, status, source, issuer.schemaVersion,
        .str issuer.keyId, .ofText? reason, .null⟩ = Json.texts fields := by
    cases source with
    | override =>
      cases reason with
      | none => exact ⟨[], rfl⟩
      | some reason => exact ⟨[("reason", reason)], rfl⟩
    | schedule => exact ⟨[], rfl⟩
    | system => exact ⟨[], rfl⟩
  obtain ⟨fields, hfields⟩ := hreason
  refine ⟨[("receipt_id", id), ("issued_at", issuedAt), ("expires_at", expiresAt), ("mic", mic),
    ("status", status.name), ("source", source.name), ("schema_version", version),
    ("signing_key_id", issuer.keyId)] ++ fields, ?_⟩
  rw [hfields, hversion]
  simp [Json.texts]

/-- Where receipts can be written, texts as identifier and version and a scheme that signs texts are
enough to sign anything. -/
theorem signsAnything_of_texts {id version : String} (hwrites : issuer.Writes clock)
    (hid : issuer.newId (tally.ids + 1) = .str id) (hversion : issuer.schemaVersion = .str version)
    (hsign : ∀ fields, ∃ signature,
      issuer.sign (tally.signs + 1) (Json.texts fields) = .ok signature) :
    issuer.SignsAnything clock tally := by
  intro content
  obtain ⟨unsigned, members, hdraft, hmembers⟩ :=
    (issuer.writes_iff clock content (.str id)).mp hwrites
  obtain ⟨fields, rfl⟩ := exists_texts_of_draft hversion hdraft hmembers
  obtain ⟨signature, hsigned⟩ := hsign fields
  rw [← hid] at hdraft
  exact ⟨_, issueSigned_eq_ok_iff.mp (issueSigned_eq_ok_iff_steps.mpr
    ⟨unsigned, _, signature, hdraft, hmembers, hsigned, rfl⟩)⟩

theorem Spends.of_signs {content : Content} {receipt : Receipt}
    (h : issuer.Spends clock tally later) (hsigns : issuer.Signs clock content tally receipt) :
    later = ⟨tally.ids + 1, tally.signs + 1⟩ := by
  cases h with
  | written => rfl
  | unwritten hnot =>
    obtain ⟨unsigned, members, signature, hdraft, hmembers, -⟩ :=
      issueSigned_eq_ok_iff_steps.mp (issueSigned_eq_ok_iff.mpr hsigns)
    have hwrites := (issuer.writes_iff clock content _).mpr ⟨unsigned, members, hdraft, hmembers⟩
    exact absurd hwrites hnot

/-- Where anything would be signed, a search that ends with the safety net takes one attempt. -/
theorem Settles.tally_of_signsAnything (hsigns : issuer.SignsAnything clock tally)
    (hsafetyNet : .safetyNet ∈ tiers) (h : issuer.Settles mic clock tiers tally outcome later) :
    later = ⟨tally.ids + 1, tally.signs + 1⟩ := by
  -- A tier that says something signs it, so the search goes on past silent tiers only.
  induction h with
  | exhausted => cases hsafetyNet
  | found tries =>
    cases tries with
    | signed said signs spends => exact spends.of_signs signs
  | passed tries rest ih =>
    cases tries with
    | silent hnot =>
      refine ih hsigns ((List.mem_cons.mp hsafetyNet).resolve_left ?_)
      rintro rfl
      exact hnot _ rfl
    | unsigned said fails spends =>
      obtain ⟨receipt, hreceipt⟩ := hsigns _
      exact absurd hreceipt (fails receipt)

theorem tally_issue_of_signsAnything (hmic : mic ∈ issuer.calendar.supported)
    (hsigns : issuer.SignsAnything clock tally) :
    (issuer.issue mic clock tally).value.2 = ⟨tally.ids + 1, tally.signs + 1⟩ := by
  rw [value_issue_of_supported hmic]
  exact (issuer.settles_issueFor mic clock tally).tally_of_signsAnything hsigns (by decide)

/-- Two issuers that are the same without their stores ask for as much if neither finds an active
override, or if anything would be signed at the first attempt. -/
theorem tally_issue_eq (hparts : issuer.withoutOverrides = other.withoutOverrides)
    (h : mic ∈ issuer.calendar.supported →
      ((∃ override, issuer.FindsActive mic clock override) ∨
        ∃ override, other.FindsActive mic clock override) →
      issuer.SignsAnything clock tally) :
    (issuer.issue mic clock tally).value.2 = (other.issue mic clock tally).value.2 := by
  have hcalendar : issuer.withoutOverrides.calendar = other.withoutOverrides.calendar :=
    congrArg calendar hparts
  change issuer.calendar = other.calendar at hcalendar
  by_cases hmic : mic ∈ issuer.calendar.supported
  · by_cases hactive : (∃ override, issuer.FindsActive mic clock override) ∨
        ∃ override, other.FindsActive mic clock override
    · have hsigns := h hmic hactive
      have hother := signsAnything_withoutOverrides.mpr hsigns
      rw [hparts, signsAnything_withoutOverrides] at hother
      rw [tally_issue_of_signsAnything hmic hsigns,
        tally_issue_of_signsAnything (hcalendar ▸ hmic) hother]
    · -- Neither store makes a difference, and without their stores the two are the same.
      obtain ⟨hissuer, hother⟩ := not_or.mp hactive
      rw [(issue_sameAfterLines tally (not_exists.mp hissuer)).1,
        (issue_sameAfterLines tally (not_exists.mp hother)).1, hparts]
  · rw [issue_of_not_supported hmic, issue_of_not_supported (hcalendar ▸ hmic)]
    rfl

end Issuer

/-- A step that has to do with a market: any but the writing of an override of another market. -/
def IssueStep.concerns (mic : String) : IssueStep → Bool
  | .event (.put other _) => Mic.normalize other == mic
  | .event (.clear other) => Mic.normalize other == mic
  | _ => true

namespace Desk

variable [Platform] {setup : DeskSetup} {desk other : Desk} {mic : String}

/-- What a desk answers to those who have it issue a receipt for a market: the outcome and how much
has been asked for then, with the lines in the journal. -/
def issued (desk : Desk) (setup : DeskSetup) (mic : String) :
    Logged (Except Failure Outcome × Tally) :=
  (desk.issuer setup).issue mic desk.clock desk.tally

/-- Two desks with tables of overrides that cannot be told apart by what they say of a market, how
much has been asked for apart. -/
structure AgreesOn (mic : String) (desk other : Desk) : Prop where
  clock : desk.clock = other.clock
  verdictBroken : desk.verdictBroken = other.verdictBroken
  entry : ∃ first second, desk.store = .table first ∧ other.store = .table second ∧
    Json.member first.entries mic = Json.member second.entries mic

namespace AgreesOn

theorem lookups (h : desk.AgreesOn mic other) :
    (desk.store.lookup? desk.files).map (· mic) =
      (other.store.lookup? other.files).map (· mic) := by
  obtain ⟨first, second, hfirst, hsecond, hentry⟩ := h.entry
  rw [hfirst, hsecond]
  simp [OverrideStore.lookup?, OverrideTable.lookup, hentry]

theorem parts (h : desk.AgreesOn mic other) (setup : DeskSetup) :
    (desk.issuer setup).withoutOverrides = (other.issuer setup).withoutOverrides := by
  unfold issuer Issuer.withoutOverrides
  rw [h.verdictBroken]

theorem issue_eq (h : desk.AgreesOn mic other) (setup : DeskSetup) (tally : Tally) :
    (desk.issuer setup).issue mic desk.clock tally =
      (other.issuer setup).issue mic other.clock tally := by
  rw [← h.clock]
  exact Issuer.issue_eq_of_lookups (h.parts setup) h.lookups desk.clock tally

theorem issued_eq (h : desk.AgreesOn mic other) (setup : DeskSetup)
    (htally : desk.tally = other.tally) : desk.issued setup mic = other.issued setup mic := by
  unfold issued
  rw [htally]
  exact h.issue_eq setup other.tally

omit [Platform] in
theorem after (h : desk.AgreesOn mic other) (event : DeskEvent) :
    (desk.after event).AgreesOn mic (other.after event) := by
  obtain ⟨first, second, hfirst, hsecond, hentry⟩ := h.entry
  cases event with
  | now clock => exact ⟨rfl, h.verdictBroken, h.entry⟩
  | write path node => exact ⟨h.clock, h.verdictBroken, h.entry⟩
  | breakSchedule verdict outlook => exact ⟨h.clock, rfl, h.entry⟩
  | put spelling entry =>
    simp only [Desk.after, hfirst, hsecond]
    refine ⟨h.clock, h.verdictBroken, _, _, rfl, rfl, ?_⟩
    by_cases hmic : mic = Mic.normalize spelling
    · rw [hmic, OverrideTable.member_put_self, OverrideTable.member_put_self]
    · rw [OverrideTable.member_put_of_ne _ _ hmic, OverrideTable.member_put_of_ne _ _ hmic, hentry]
  | clear spelling =>
    simp only [Desk.after, hfirst, hsecond]
    refine ⟨h.clock, h.verdictBroken, _, _, rfl, rfl, ?_⟩
    by_cases hmic : mic = Mic.normalize spelling
    · rw [hmic, OverrideTable.member_clear_self, OverrideTable.member_clear_self]
    · rw [OverrideTable.member_clear_of_ne _ hmic, OverrideTable.member_clear_of_ne _ hmic, hentry]

omit [Platform] in
theorem after_of_not_concerns (h : desk.AgreesOn mic other) {event : DeskEvent}
    (hevent : (IssueStep.event event).concerns mic = false) :
    (desk.after event).AgreesOn mic other := by
  obtain ⟨first, second, hfirst, hsecond, hentry⟩ := h.entry
  cases event with
  | put spelling entry =>
    have hmic : Mic.normalize spelling ≠ mic := beq_eq_false_iff_ne.mp hevent
    simp only [Desk.after, hfirst]
    refine ⟨h.clock, h.verdictBroken, _, second, rfl, hsecond, ?_⟩
    rw [OverrideTable.member_put_of_ne _ _ hmic.symm, hentry]
  | clear spelling =>
    have hmic : Mic.normalize spelling ≠ mic := beq_eq_false_iff_ne.mp hevent
    simp only [Desk.after, hfirst]
    refine ⟨h.clock, h.verdictBroken, _, second, rfl, hsecond, ?_⟩
    rw [OverrideTable.member_clear_of_ne _ hmic.symm, hentry]
  | now clock => cases hevent
  | write path node => cases hevent
  | breakSchedule verdict outlook => cases hevent

theorem issueStep (h : desk.AgreesOn mic other) (setup : DeskSetup) (step : IssueStep) :
    (desk.issueStep setup step).AgreesOn mic (other.issueStep setup step) := by
  cases step with
  | event event => exact h.after event
  | issue spelling => exact ⟨h.clock, h.verdictBroken, h.entry⟩
  | issueLiveness => exact ⟨h.clock, h.verdictBroken, h.entry⟩

theorem issueStep_of_not_concerns (h : desk.AgreesOn mic other) (setup : DeskSetup)
    {step : IssueStep} (hstep : step.concerns mic = false) :
    (desk.issueStep setup step).AgreesOn mic other ∧
      (desk.issueStep setup step).tally = desk.tally := by
  cases step with
  | event event => exact ⟨h.after_of_not_concerns hstep, desk.tally_after event⟩
  | issue spelling => cases hstep
  | issueLiveness => cases hstep

/-- A run agrees with what is left of it without the writing of overrides of other markets. -/
theorem issueRun (h : desk.AgreesOn mic other) (setup : DeskSetup) (steps : List IssueStep) :
    (desk.issueRun setup steps).AgreesOn mic
      (other.issueRun setup (steps.filter (IssueStep.concerns mic))) := by
  induction steps generalizing desk other with
  | nil => exact h
  | cons step steps ih =>
    cases hstep : step.concerns mic with
    | true =>
      rw [List.filter_cons_of_pos hstep]
      exact ih (h.issueStep setup step)
    | false =>
      rw [List.filter_cons_of_neg (by simp [hstep])]
      exact ih (h.issueStep_of_not_concerns setup hstep).1

end AgreesOn

/-- An override of a market is found at a desk that has not ended. -/
def FindsOverride (desk : Desk) (setup : DeskSetup) (mic : String) : Prop :=
  ∃ override, (desk.issuer setup).FindsActive mic desk.clock override

/-- In a run, and in what is left of it without the writing of overrides of other markets than the
given one, anything would be signed whenever another market of the calendar is issued for while an
override of it is found in one of the two. -/
def SignsUnderOverrides (setup : DeskSetup) (mic : String) (desk kept : Desk)
    (steps : List IssueStep) : Prop :=
  ∀ before after other, steps = before ++ .issue other :: after → other ≠ mic →
    other ∈ setup.schedule.calendar.supported →
    let one := desk.issueRun setup before
    let two := kept.issueRun setup (before.filter (IssueStep.concerns mic))
    one.FindsOverride setup other ∨ two.FindsOverride setup other →
      (one.issuer setup).SignsAnything one.clock one.tally

theorem SignsUnderOverrides.tail {step : IssueStep} {steps : List IssueStep}
    (h : SignsUnderOverrides setup mic desk other (step :: steps)) :
    SignsUnderOverrides setup mic (desk.issueStep setup step)
      (other.issueRun setup ([step].filter (IssueStep.concerns mic))) steps := by
  intro before after spelling hsteps hother hmic
  have hstep := h (step :: before) after spelling (by rw [hsteps, List.cons_append]) hother hmic
  rw [← List.singleton_append, List.filter_append, issueRun, issueRun, List.foldl_append,
    List.foldl_append] at hstep
  exact hstep

namespace AgreesOn

theorem tally_issueStep_eq (h : desk.AgreesOn mic other) (htally : desk.tally = other.tally)
    {step : IssueStep} {steps : List IssueStep}
    (hsigns : SignsUnderOverrides setup mic desk other (step :: steps)) :
    (desk.issueStep setup step).tally = (other.issueStep setup step).tally := by
  have hparts := h.parts setup
  cases step with
  | event event =>
    exact (desk.tally_after event).trans (htally.trans (other.tally_after event).symm)
  | issueLiveness =>
    show ((desk.issuer setup).issueLiveness desk.clock desk.tally).value.2 =
      ((other.issuer setup).issueLiveness other.clock other.tally).value.2
    rw [← Issuer.issueLiveness_withoutOverrides, hparts, Issuer.issueLiveness_withoutOverrides,
      h.clock, htally]
  | issue spelling =>
    show (desk.issued setup spelling).value.2 = (other.issued setup spelling).value.2
    by_cases hmic : spelling = mic
    · rw [hmic, h.issued_eq setup htally]
    · have hnow : spelling ∈ setup.schedule.calendar.supported →
          desk.FindsOverride setup spelling ∨ other.FindsOverride setup spelling →
          (desk.issuer setup).SignsAnything desk.clock desk.tally :=
        hsigns [] steps spelling rfl hmic
      unfold FindsOverride at hnow
      unfold issued
      rw [← h.clock] at hnow ⊢
      rw [← htally]
      exact Issuer.tally_issue_eq hparts hnow

/-- Where the overrides of other markets are signed at the first attempt, a run asks for as much as
what is left of it without their writing. -/
theorem tally_issueRun_eq (h : desk.AgreesOn mic other) (htally : desk.tally = other.tally)
    (steps : List IssueStep) (hsigns : SignsUnderOverrides setup mic desk other steps) :
    (desk.issueRun setup steps).tally =
      (other.issueRun setup (steps.filter (IssueStep.concerns mic))).tally := by
  induction steps generalizing desk other with
  | nil => exact htally
  | cons step steps ih =>
    have htail := hsigns.tail
    cases hstep : step.concerns mic with
    | true =>
      rw [List.filter_cons_of_pos hstep] at htail ⊢
      exact ih (h.issueStep setup step) (h.tally_issueStep_eq htally hsigns) htail
    | false =>
      rw [List.filter_cons_of_neg (by simp [hstep])] at htail ⊢
      obtain ⟨hagrees, hsame⟩ := h.issueStep_of_not_concerns setup hstep
      exact ih hagrees (hsame.trans htally) htail

end AgreesOn

/-- Signing works where receipts can be written, the secret is a good one, and the signature whose
turn it is does not fail. -/
theorem signsAnything_of_signer {id version : String} {seed : List UInt8}
    (hwrites : (desk.issuer setup).Writes desk.clock)
    (hid : setup.newId (desk.tally.ids + 1) = .str id)
    (hversion : setup.schemaVersion = .str version)
    (hnumber : desk.tally.signs + 1 ∉ setup.signFailures)
    (hseed : Secret.seed setup.scheme setup.signer.secret = .ok seed)
    (hscheme : ∀ message, ∃ signature, setup.scheme.sign seed message = .ok signature) :
    (desk.issuer setup).SignsAnything desk.clock desk.tally := by
  refine Issuer.signsAnything_of_texts hwrites hid hversion fun fields => ?_
  obtain ⟨bytes, hbytes⟩ := hscheme (SignedFields.payloadBytes fields)
  have hsign : setup.signer.sign setup.scheme (Json.texts fields) = .ok (Text.Hex.encode bytes) :=
    Signer.sign_eq_ok_iff.mpr ⟨fields, seed, bytes, SignedFields.ofMembers_eq_ok_iff.mpr rfl,
      hseed, hbytes, rfl⟩
  refine ⟨Text.Hex.encode bytes, ?_⟩
  show signNumbered setup (desk.tally.signs + 1) (Json.texts fields) = _
  rw [signNumbered, if_neg (by simpa using hnumber), hsign]

theorem issued_of_files (desk : Desk) (setup : DeskSetup) {path : String} {files others : Files}
    {members rest : List (String × Json)}
    (hfiles : (files.load (some path)).value = .ok (.obj members))
    (hothers : (others.load (some path)).value = .ok (.obj rest))
    (hentry : Json.member members mic = Json.member rest mic) :
    { desk with files, store := .file path }.issued setup mic =
      { desk with files := others, store := .file path }.issued setup mic := by
  have hlookup : OverrideStore.lookupFile files path mic =
      OverrideStore.lookupFile others path mic := by
    rw [OverrideStore.lookupFile_of_document mic hfiles (by simp),
      OverrideStore.lookupFile_of_document mic hothers (by simp)]
    unfold OverrideStore.lookupDocument
    simp only [hentry]
  have hparts : (issuer { desk with files, store := .file path } setup).withoutOverrides =
      (issuer { desk with files := others, store := .file path } setup).withoutOverrides := rfl
  exact Issuer.issue_eq_of_lookups hparts (congrArg some hlookup) desk.clock desk.tally

/-- Overrides stay with their market. At every moment of every run at a desk with a table of
overrides, a receipt for a market is answered as it is after the same run without the writing of
overrides of other markets, from the same counts of identifiers and signatures on: the outcome, with
the receipt and its signature in it, the lines in the journal, and the counts afterwards. The counts
agree too, and with them the whole answers, wherever signing works when another market is issued for
under an override of its own. And where overrides are looked up in a file, nothing in its object
counts but the member of the market. -/
theorem overrides_stay_with_their_market (setup : DeskSetup) (mic : String) (desk : Desk)
    (table : OverrideTable) (hstore : desk.store = .table table) (steps : List IssueStep) :
    let full := desk.issueRun setup steps
    let kept := desk.issueRun setup (steps.filter (IssueStep.concerns mic))
    full.issued setup mic = { kept with tally := full.tally }.issued setup mic ∧
    (SignsUnderOverrides setup mic desk desk steps →
      full.issued setup mic = kept.issued setup mic) ∧
    ∀ (path : String) (files others : Files) (members rest : List (String × Json)),
      (files.load (some path)).value = .ok (.obj members) →
      (others.load (some path)).value = .ok (.obj rest) →
      Json.member members mic = Json.member rest mic →
      { desk with files, store := .file path }.issued setup mic =
        { desk with files := others, store := .file path }.issued setup mic := by
  intro full kept
  have hagrees : desk.AgreesOn mic desk := ⟨rfl, rfl, table, table, hstore, hstore, rfl⟩
  have hrun : full.AgreesOn mic kept := hagrees.issueRun setup steps
  refine ⟨hrun.issue_eq setup full.tally, fun hsigns => ?_, ?_⟩
  · exact hrun.issued_eq setup (hagrees.tally_issueRun_eq rfl steps hsigns)
  · intro path files others members rest hfiles hothers hentry
    exact desk.issued_of_files setup hfiles hothers hentry

end Desk

namespace Desk

/-- A set-up with markets in London and New York. -/
def setupOfTwoMarkets : DeskSetup :=
  { setupOfSpring with
    schedule :=
      { Schedule.spring with
        calendar := ⟨[.withLunch, { Market.withLunch with mic := "XNYS" }], by decide, by simp⟩ }
    newId := fun n => .str ("receipt-" ++ toString n) }

/-- A quarter past noon on Saturday, 28 March 2026, on a UTC clock. -/
def quarterPastNoon : Timestamp := .utc ⟨1774700100000000, by decide, by decide⟩

/-- On that Saturday New York is halted up to one o'clock, and a receipt is issued for it. -/
def haltedElsewhere : List IssueStep :=
  [.event (.now (some quarterPastNoon)),
    .event (.put "xnys" (.obj [("status", .str "halted"), ("reason", .str "drill"),
      ("expires", .str "2026-03-28T13:00:00Z")])),
    .issue "XNYS"]

/-- On that day anything would be signed, since no signature fails. -/
theorem signsAnything_on_saturday {desk : Desk} (hclock : desk.clock = some quarterPastNoon) :
    (desk.issuer setupOfTwoMarkets).SignsAnything desk.clock desk.tally := by
  have hreadable : Instant.IsReadable ⟨1774700100000000⟩ ∧
      Instant.IsReadable ⟨1774700160000000⟩ := by
    unfold Instant.IsReadable
    decide
  have hwrites : (desk.issuer setupOfTwoMarkets).Writes desk.clock :=
    ⟨quarterPastNoon, .utc ⟨1774700160000000, by decide, by decide⟩, hclock, rfl,
      Timestamp.exists_isoUtc rfl hreadable.1, Timestamp.exists_isoUtc rfl hreadable.2⟩
  have hseed : (Secret.seed setupOfTwoMarkets.scheme
      setupOfTwoMarkets.signer.secret).toOption.isSome = true := by decide +kernel
  obtain ⟨seed, hseed⟩ := Option.isSome_iff_exists.mp hseed
  refine signsAnything_of_signer hwrites rfl rfl ?_ (toOption_eq_some_iff.mp hseed)
    fun message => ⟨[], rfl⟩
  exact List.not_mem_nil

theorem signsUnderOverrides_of_haltedElsewhere :
    SignsUnderOverrides setupOfTwoMarkets "XLON" start start haltedElsewhere := by
  intro before after other hsteps _ _ one two _
  refine signsAnything_on_saturday ?_
  -- A receipt is issued in the third step only, and the clock is set in the first.
  rcases before with _ | ⟨first, _ | ⟨second, _ | ⟨third, before⟩⟩⟩
  · simp [haltedElsewhere] at hsteps
  · simp [haltedElsewhere] at hsteps
  · simp only [haltedElsewhere, List.cons_append, List.nil_append, List.cons.injEq] at hsteps
    obtain ⟨rfl, rfl, -⟩ := hsteps
    rfl
  · simp [haltedElsewhere] at hsteps

/-- With all signatures made, a receipt for London does not tell of the halt of New York; and in a
file, nothing counts for London but its own member. -/
theorem london_without_haltedElsewhere :
    (start.issueRun setupOfTwoMarkets haltedElsewhere).issued setupOfTwoMarkets "XLON" =
        (start.issueRun setupOfTwoMarkets
          (haltedElsewhere.filter (IssueStep.concerns "XLON"))).issued setupOfTwoMarkets "XLON" ∧
      { start with
          files := OverrideStore.filesOf "\x7b\"XLON\":\x7b\x7d,\"XNYS\":0\x7d"
          store := .file "overrides.json" }.issued setupOfTwoMarkets "XLON" =
        { start with
          files := OverrideStore.filesOf "\x7b\"XLON\":\x7b\x7d\x7d"
          store := .file "overrides.json" }.issued setupOfTwoMarkets "XLON" := by
  obtain ⟨-, hsame, hfiles⟩ := overrides_stay_with_their_market setupOfTwoMarkets "XLON" start ⟨[]⟩
    rfl haltedElsewhere
  obtain ⟨members, hmembers, hlondon⟩ := OverrideStore.exists_entries_of_check
    (OverrideStore.filesOf "\x7b\"XLON\":\x7b\x7d,\"XNYS\":0\x7d") "overrides.json"
    (fun entries => (Json.member entries "XLON").members?.any List.isEmpty = true)
    (by decide +kernel)
  obtain ⟨rest, hrest, hlondon'⟩ := OverrideStore.exists_entries_of_check
    (OverrideStore.filesOf "\x7b\"XLON\":\x7b\x7d\x7d") "overrides.json"
    (fun entries => (Json.member entries "XLON").members?.any List.isEmpty = true)
    (by decide +kernel)
  have hentry : Json.member members "XLON" = Json.member rest "XLON" := by
    rw [Json.eq_obj_nil_of_members? hlondon, Json.eq_obj_nil_of_members? hlondon']
  exact ⟨hsame signsUnderOverrides_of_haltedElsewhere,
    hfiles "overrides.json" _ _ members rest hmembers hrest hentry⟩

/-- Where the first two signatures fail, the halt of New York takes a third attempt that is not made
without it, and the receipt for London after it is the fourth that is tried, not the third. -/
theorem london_tells_of_haltedElsewhere :
    let setup := { setupOfTwoMarkets with signFailures := [1, 2] }
    let full := start.issueRun setup haltedElsewhere
    let kept := start.issueRun setup (haltedElsewhere.filter (IssueStep.concerns "XLON"))
    (full.issued setup "XLON").value.2 = ⟨4, 4⟩ ∧ (kept.issued setup "XLON").value.2 = ⟨3, 3⟩ ∧
      full.issued setup "XLON" ≠ kept.issued setup "XLON" := by
  intro setup full kept
  have hfull : (full.issued setup "XLON").value.2 = ⟨4, 4⟩ := by decide +kernel
  have hkept : (kept.issued setup "XLON").value.2 = ⟨3, 3⟩ := by decide +kernel
  refine ⟨hfull, hkept, fun hsame => ?_⟩
  rw [hsame, hkept] at hfull
  exact absurd hfull (by decide)

end Desk

end TradingStatus
