import TradingStatus.Proofs.Service.Earned
import TradingStatus.Proofs.Service.Runs
import TradingStatus.Proofs.Time.WallClocks

/-! Clocks at different offsets from UTC. What a clock shows is carried into receipts as it is, and
nothing that a service answers tells at which offset it was shown: two clocks that show one instant
are compared, converted, and written alike, so receipts of the same bytes are signed. -/

namespace TradingStatus

/-! Computations that come to related results -/

section Alike

variable {ε α β γ δ : Type}

/-- Two results are related, or are failures for one cause. -/
inductive FailsAlike (related : α → β → Prop) : Except ε α → Except ε β → Prop
  | ok {a : α} {b : β} (h : related a b) : FailsAlike related (.ok a) (.ok b)
  | error (failure : ε) : FailsAlike related (.error failure) (.error failure)

/-- Two computations have related results and write the same lines. -/
structure Logged.Alike (related : α → β → Prop) (x : Logged α) (y : Logged β) : Prop where
  value : related x.value y.value
  log : x.log = y.log

namespace Logged.Alike

variable {related : α → β → Prop} {after : γ → δ → Prop}

theorem pure {a : α} {b : β} (h : related a b) :
    Alike related (Pure.pure a : Logged α) (Pure.pure b : Logged β) := ⟨h, rfl⟩

theorem bind {x : Logged α} {y : Logged β} {f : α → Logged γ} {g : β → Logged δ}
    (h : Alike related x y) (hafter : ∀ a b, related a b → Alike after (f a) (g b)) :
    Alike after (x >>= f) (y >>= g) := by
  have hnext := hafter _ _ h.value
  exact ⟨hnext.value, by rw [log_bind, log_bind, h.log, hnext.log]⟩

theorem after_same (x : Logged α) {f : α → Logged γ} {g : α → Logged δ}
    (h : ∀ a, Alike after (f a) (g a)) : Alike after (x >>= f) (x >>= g) := by
  have hsame : Alike Eq x x := ⟨rfl, rfl⟩
  exact hsame.bind fun a _ heq => heq ▸ h a

theorem eq {x y : Logged α} (h : Alike Eq x y) : x = y := by
  obtain ⟨value, log⟩ := x
  obtain ⟨hvalue, hlog⟩ := h
  cases hvalue
  cases hlog
  rfl

end Logged.Alike

end Alike

/-! Clocks that show one instant -/

/-- A clock, less than a day ahead of UTC or behind it, shows an instant. -/
structure Timestamp.Shows (clock : Timestamp) (t : Instant) : Prop where
  instant : clock.instant? = some t
  offset : ∀ offset ∈ clock.offset, -86400 < offset ∧ offset < 86400

/-- A clock that shows an instant and keeps its offset is put on to a later one that all clocks can
show. -/
theorem Timestamp.Shows.exists_addMicros {clock : Timestamp} {t : Instant} (h : clock.Shows t)
    {rule : Timestamp.Rule} {micros : Int} (hkeeps : clock.KeepsOffset rule micros)
    (hlater : Instant.IsShownEverywhere ⟨t.micros + micros⟩) :
    ∃ later, clock.addMicros rule micros = .ok later ∧
      later.instant? = some ⟨t.micros + micros⟩ := by
  obtain ⟨offset, hoffset, rfl⟩ := Option.map_eq_some_iff.mp h.instant
  obtain ⟨hlow, hhigh⟩ := h.offset offset hoffset
  obtain ⟨reading, hreading⟩ := Instant.exists_reading_iff.mpr (hlater offset hlow hhigh)
  have hmicros : reading.micros = clock.reading.micros + micros := by
    have := Instant.reading_eq_ok_iff.mp hreading
    simp only at this
    omega
  have hput : clock.addMicros rule micros =
      .ok ⟨reading, clock.offset.map fun _ => rule clock reading⟩ :=
    addMicros_eq_ok_iff.mpr ⟨reading, hmicros, rfl⟩
  exact ⟨_, hput, hkeeps.instant? hput h.instant⟩

/-- Two clocks tell the same: they show the very same, or one instant each in its own way, at
offsets that they keep during a lifetime, and at the end of it there is an instant that all clocks
can show. -/
inductive TellSame (rule : Timestamp.Rule) (lifetime : Int) :
    Option Timestamp → Option Timestamp → Prop
  | same (clock : Option Timestamp) : TellSame rule lifetime clock clock
  | shows {one two : Timestamp} {t : Instant} (hone : one.Shows t) (htwo : two.Shows t)
      (hkeeps : one.KeepsOffset rule lifetime) (hkeeps' : two.KeepsOffset rule lifetime)
      (hlater : Instant.IsShownEverywhere ⟨t.micros + lifetime⟩) :
      TellSame rule lifetime (some one) (some two)

namespace TellSame

variable {rule : Timestamp.Rule} {lifetime : Int} {one two : Option Timestamp}

theorem instant_eq (h : TellSame rule lifetime one two) :
    Timestamp.instant one = Timestamp.instant two := by
  cases h with
  | same => rfl
  | shows hone htwo => simp only [Timestamp.instant, hone.instant, htwo.instant]

theorem isoUtc_eq (h : TellSame rule lifetime one two) :
    Timestamp.isoUtc one = Timestamp.isoUtc two := by
  unfold Timestamp.isoUtc
  rw [h.instant_eq]

theorem isActive_eq (h : TellSame rule lifetime one two) (override : Override) :
    override.isActive one = override.isActive two := by
  cases h with
  | same => rfl
  | shows hone htwo =>
    simp only [Override.isActive, Timestamp.isBefore, hone.instant, htwo.instant]
    cases override.expires.instant? <;> rfl

end TellSame

/-! Receipts that are shown alike -/

/-- Two receipts are signed over the same members, with the same signature. -/
structure Receipt.ShownAlike (first second : Receipt) : Prop where
  signedMembers : first.signedMembers = second.signedMembers
  signature : first.signature = second.signature

theorem Receipt.ShownAlike.toJson_eq {first second : Receipt} (h : first.ShownAlike second) :
    first.toJson = second.toJson := by
  unfold toJson
  rw [h.signedMembers, h.signature]

/-- Two outcomes come from the same tier, with receipts that are shown alike. -/
inductive Outcome.ShownAlike : Outcome → Outcome → Prop
  | signed (tier : Tier) {first second : Receipt} (h : first.ShownAlike second) :
      ShownAlike (.signed tier first) (.signed tier second)
  | unsigned : ShownAlike .unsigned .unsigned

/-- Results that are related, with the same counts. -/
def CountedAlike {α β : Type} (related : α → β → Prop) (x : α × Tally) (y : β × Tally) : Prop :=
  related x.1 y.1 ∧ x.2 = y.2

namespace Issuer

variable {issuer : Issuer} {one two : Option Timestamp}

theorem draft_alike (h : TellSame issuer.clockRule issuer.lifetime one two) (content : Content)
    (id : Json) :
    FailsAlike Receipt.ShownAlike (issuer.draft one content id) (issuer.draft two content id) := by
  cases h with
  | same =>
    cases issuer.draft one content id with
    | error failure => exact .error failure
    | ok receipt => exact .ok ⟨rfl, rfl⟩
  | @shows one two t hone htwo hkeeps hkeeps' hlater =>
    obtain ⟨first, hfirst, hends⟩ := hone.exists_addMicros hkeeps hlater
    obtain ⟨second, hsecond, hends'⟩ := htwo.exists_addMicros hkeeps' hlater
    -- The timestamps in the two receipts differ; the members that are signed show them in UTC.
    have hbegins : Timestamp.isoUtc (some one) = Timestamp.isoUtc (some two) :=
      (TellSame.shows hone htwo hkeeps hkeeps' hlater).isoUtc_eq
    have hexpires : Timestamp.isoUtc (some first) = Timestamp.isoUtc (some second) := by
      simp only [Timestamp.isoUtc, Timestamp.instant, hends, hends']
    simp only [draft, hfirst, hsecond]
    refine .ok ⟨?_, rfl⟩
    simp only [Receipt.signedMembers, hbegins, hexpires]
    rfl

theorem trySigned_alike (h : TellSame issuer.clockRule issuer.lifetime one two) (heading : String)
    (content : Content) (tally : Tally) :
    (issuer.trySigned heading one content tally).Alike
      (CountedAlike (Option.Rel Receipt.ShownAlike))
      (issuer.trySigned heading two content tally) := by
  unfold trySigned issueSigned
  have hdraft := draft_alike h content (issuer.newId (tally.ids + 1))
  simp only
  generalize issuer.draft one content (issuer.newId (tally.ids + 1)) = first at hdraft ⊢
  generalize issuer.draft two content (issuer.newId (tally.ids + 1)) = second at hdraft ⊢
  cases hdraft with
  | error failure => exact .after_same _ fun _ => .pure ⟨.none, rfl⟩
  | @ok first second hshown =>
    simp only [hshown.signedMembers]
    cases hmembers : second.signedMembers with
    | error failure => exact .after_same _ fun _ => .pure ⟨.none, rfl⟩
    | ok members =>
      simp only
      cases issuer.sign (tally.signs + 1) members with
      | error failure => exact .after_same _ fun _ => .pure ⟨.none, rfl⟩
      | ok signature => exact .pure ⟨.some ⟨hshown.signedMembers, rfl⟩, rfl⟩

theorem activeOverride_eq (h : TellSame issuer.clockRule issuer.lifetime one two) (mic : String) :
    issuer.activeOverride mic one = issuer.activeOverride mic two := by
  unfold activeOverride
  simp only [h.isActive_eq]

theorem tryOverride_alike (h : TellSame issuer.clockRule issuer.lifetime one two) (mic : String)
    (tally : Tally) :
    (issuer.tryOverride mic one tally).Alike (CountedAlike (Option.Rel Receipt.ShownAlike))
      (issuer.tryOverride mic two tally) := by
  unfold tryOverride
  rw [activeOverride_eq h]
  refine .after_same _ fun found => ?_
  cases found with
  | none => exact .pure ⟨.none, rfl⟩
  | some override => exact trySigned_alike h _ _ tally

theorem trySchedule_alike (h : TellSame issuer.clockRule issuer.lifetime one two) {mic : String}
    (hverdict : issuer.verdict mic one = issuer.verdict mic two) (tally : Tally) :
    (issuer.trySchedule mic one tally).Alike (CountedAlike (Option.Rel Receipt.ShownAlike))
      (issuer.trySchedule mic two tally) := by
  unfold trySchedule
  rw [hverdict]
  refine .after_same _ fun verdict => ?_
  cases verdict with
  | error failure => exact .after_same _ fun _ => .pure ⟨.none, rfl⟩
  | ok verdict => exact trySigned_alike h _ _ tally

theorem issueFor_alike (h : TellSame issuer.clockRule issuer.lifetime one two) {mic : String}
    (hverdict : issuer.verdict mic one = issuer.verdict mic two) (tally : Tally) :
    (issuer.issueFor mic one tally).Alike (CountedAlike Outcome.ShownAlike)
      (issuer.issueFor mic two tally) := by
  unfold issueFor
  refine (tryOverride_alike h mic tally).bind ?_
  rintro ⟨first, tally⟩ ⟨second, -⟩ ⟨hfirst, rfl⟩
  cases hfirst with
  | some hshown => exact .pure ⟨.signed .override hshown, rfl⟩
  | none =>
    refine (trySchedule_alike h hverdict tally).bind ?_
    rintro ⟨first, tally⟩ ⟨second, -⟩ ⟨hfirst, rfl⟩
    cases hfirst with
    | some hshown => exact .pure ⟨.signed .schedule hshown, rfl⟩
    | none =>
      refine (trySigned_alike h _ _ tally).bind ?_
      rintro ⟨first, tally⟩ ⟨second, -⟩ ⟨hfirst, rfl⟩
      cases hfirst with
      | some hshown => exact .pure ⟨.signed .safetyNet hshown, rfl⟩
      | none => exact .pure ⟨.unsigned, rfl⟩

theorem issueLiveness_alike (h : TellSame issuer.clockRule issuer.lifetime one two)
    (tally : Tally) :
    (issuer.issueLiveness one tally).Alike (CountedAlike Outcome.ShownAlike)
      (issuer.issueLiveness two tally) := by
  unfold issueLiveness
  refine (trySigned_alike h _ _ tally).bind ?_
  rintro ⟨first, tally⟩ ⟨second, -⟩ ⟨hfirst, rfl⟩
  cases hfirst with
  | some hshown => exact .pure ⟨.signed .liveness hshown, rfl⟩
  | none => exact .pure ⟨.unsigned, rfl⟩

end Issuer

namespace Service

variable {service : Service} {one two : Option Timestamp}

theorem respond_eq {first second : Outcome} (h : first.ShownAlike second) :
    respond first = respond second := by
  cases h with
  | unsigned => rfl
  | signed tier hshown => simp only [respond, hshown.toJson_eq]

theorem receiptFor_eq (h : TellSame service.issuer.clockRule service.issuer.lifetime one two)
    {mic : String}
    (hverdict : service.issuer.verdict mic one = service.issuer.verdict mic two) (tally : Tally) :
    service.receiptFor mic one tally = service.receiptFor mic two tally := by
  unfold receiptFor Issuer.issue
  cases service.issuer.calendar.get mic with
  | error failure => rfl
  | ok market =>
    simp only [bind_assoc, pure_bind]
    refine ((Issuer.issueFor_alike h hverdict tally).bind ?_).eq
    rintro ⟨first, tally⟩ ⟨second, -⟩ ⟨hshown, rfl⟩
    exact .pure (congrArg (·, tally) (respond_eq hshown))

theorem health_eq (service : Service)
    (h : TellSame service.issuer.clockRule service.issuer.lifetime one two) (tally : Tally) :
    service.health one tally = service.health two tally := by
  unfold health
  refine ((Issuer.issueLiveness_alike h tally).bind ?_).eq
  rintro ⟨first, tally⟩ ⟨second, -⟩ ⟨hshown, rfl⟩
  exact .pure (congrArg (·, tally) (respond_eq hshown))

theorem schedule_eq (h : TellSame service.issuer.clockRule service.issuer.lifetime one two)
    (hverdict : ∀ mic, service.issuer.verdict mic one = service.issuer.verdict mic two)
    (houtlook : ∀ mic, service.outlook mic one = service.outlook mic two) (mic : Option String) :
    service.schedule mic one = service.schedule mic two := by
  unfold schedule prospects scheduleJson
  simp only [hverdict, houtlook, h.isoUtc_eq]

end Service

namespace Desk

variable {setup : DeskSetup} {desk other : Desk}

/-- What is asked of a desk during a run is answered, one after another, with the lines in the
journal. -/
def answers (setup : DeskSetup) (desk : Desk) :
    List DeskStep → List (Logged (Except Failure Response))
  | [] => []
  | .event event :: steps => answers setup (desk.after event) steps
  | .request request :: steps =>
    (Prod.fst <$> desk.answer setup request) ::
      answers setup (desk.answer setup request).value.2 steps

/-- Two desks differ in no more than the clock, and their clocks tell the same. -/
def TellsSame (rule : Timestamp.Rule) (lifetime : Int) (desk other : Desk) : Prop :=
  ∃ clock, desk = { other with clock } ∧ TellSame rule lifetime clock other.clock

end Desk

/-- Two steps are the same, but for clocks that tell the same. -/
inductive DeskStep.TellsSame (rule : Timestamp.Rule) (lifetime : Int) : DeskStep → DeskStep → Prop
  | now {one two : Option Timestamp} (h : TellSame rule lifetime one two) :
      TellsSame rule lifetime (.event (.now one)) (.event (.now two))
  | same (step : DeskStep) : TellsSame rule lifetime step step

namespace Desk

variable {setup : DeskSetup} {desk other : Desk} {one two : Option Timestamp}

theorem verdict_eq [Platform] (h : TellSame setup.clockRule setup.lifetime one two) (mic : String) :
    (desk.issuer setup).verdict mic one = (desk.issuer setup).verdict mic two := by
  simp only [issuer, Schedule.reportVerdict, Schedule.verdict, h.instant_eq]

theorem outlook_eq [Platform] (h : TellSame setup.clockRule setup.lifetime one two) (mic : String) :
    (desk.service setup).outlook mic one = (desk.service setup).outlook mic two := by
  simp only [service, Schedule.reportOutlook, Schedule.outlook, h.instant_eq]

theorem demo_eq [Platform] (h : TellSame setup.clockRule setup.lifetime one two)
    (mic : Option String) (tally : Tally) :
    (desk.service setup).demo mic one tally = (desk.service setup).demo mic two tally :=
  Service.receiptFor_eq h (verdict_eq h _) tally

theorem TellsSame.answer [Platform] (h : desk.TellsSame setup.clockRule setup.lifetime other)
    (request : Request) :
    Prod.fst <$> desk.answer setup request = Prod.fst <$> other.answer setup request ∧
      (desk.answer setup request).value.2.TellsSame setup.clockRule setup.lifetime
        (other.answer setup request).value.2 := by
  obtain ⟨clock, rfl, hclock⟩ := h
  have hservice : ({ other with clock } : Desk).service setup = other.service setup := rfl
  unfold Desk.answer
  rw [hservice]
  cases request with
  | exchanges => exact ⟨rfl, clock, rfl, hclock⟩
  | keys => exact ⟨rfl, clock, rfl, hclock⟩
  | demo mic =>
    simp only [demo_eq hclock]
    exact ⟨rfl, clock, rfl, hclock⟩
  | status mic key =>
    simp only [Service.status]
    cases (other.service setup).refusal? key with
    | some response => exact ⟨rfl, clock, rfl, hclock⟩
    | none =>
      simp only [demo_eq hclock]
      exact ⟨rfl, clock, rfl, hclock⟩
  | schedule mic =>
    simp only [Service.schedule_eq hclock (verdict_eq hclock) (outlook_eq hclock)]
    exact ⟨rfl, clock, rfl, hclock⟩
  | health =>
    simp only [Service.health_eq (other.service setup) hclock]
    exact ⟨rfl, clock, rfl, hclock⟩

theorem TellsSame.after (h : desk.TellsSame setup.clockRule setup.lifetime other)
    (event : DeskEvent) :
    (desk.after event).TellsSame setup.clockRule setup.lifetime (other.after event) := by
  obtain ⟨clock, rfl, hclock⟩ := h
  cases event with
  | now clock => exact ⟨clock, rfl, .same clock⟩
  | write path node => exact ⟨clock, rfl, hclock⟩
  | breakSchedule verdict outlook => exact ⟨clock, rfl, hclock⟩
  | put mic entry =>
    obtain ⟨shown, files, store, verdictBroken, outlookBroken, tally⟩ := other
    cases store <;> exact ⟨clock, rfl, hclock⟩
  | clear mic =>
    obtain ⟨shown, files, store, verdictBroken, outlookBroken, tally⟩ := other
    cases store <;> exact ⟨clock, rfl, hclock⟩

/-- Answers depend on instants, not on how clocks show them. Two runs in which the same happens and
the same is asked, but in which the clocks show the same instants at offsets of their own, are
answered by the same responses, bodies, dates and signatures included, and write the same lines in
the journal. -/
theorem answers_depend_on_instants {steps others : List DeskStep}
    (hdesk : desk.TellsSame setup.clockRule setup.lifetime other)
    (h : List.Forall₂ (DeskStep.TellsSame setup.clockRule setup.lifetime) steps others) :
    desk.answers setup steps = other.answers setup others := by
  induction h generalizing desk other with
  | nil => rfl
  | @cons step step' steps others hstep _ ih =>
    cases hstep with
    | @now one two hnow =>
      -- What the clocks have shown before does not matter any more.
      obtain ⟨clock, rfl, -⟩ := hdesk
      exact ih ⟨one, rfl, hnow⟩
    | same =>
      cases step with
      | event event => exact ih (hdesk.after event)
      | request request =>
        obtain ⟨hanswer, hleft⟩ := hdesk.answer request
        exact List.cons_eq_cons.mpr ⟨hanswer, ih hleft⟩

/-- Half past noon in London on Saturday, 28 March 2026, when the clocks there show UTC. -/
def afternoonInLondon : Timestamp := .utc ⟨1774701000000000, by decide, by decide⟩

/-- Half past nine in the evening in Tokyo, nine hours ahead. -/
def eveningInTokyo : Timestamp := ⟨⟨1774733400000000, by decide, by decide⟩, some 32400⟩

/-- A receipt, a schedule, and a receipt about the service itself are asked for. -/
def threeRequests : List DeskStep :=
  [.request (.demo (some "xlon")), .request (.schedule (some "xlon")), .request .health]

/-- It is the same moment, and the same receipts and the same schedule are answered. -/
theorem london_answers_as_tokyo :
    start.answers setupOfSpring (.event (.now (some afternoonInLondon)) :: threeRequests) =
        start.answers setupOfSpring (.event (.now (some eveningInTokyo)) :: threeRequests) ∧
      (start.answers setupOfSpring (.event (.now (some afternoonInLondon)) :: threeRequests)).map
          (fun answer => answer.value.toOption.map Response.code) =
        [some 200, some 200, some 200] := by
  have hlondon : afternoonInLondon.Shows ⟨1774701000000000⟩ :=
    ⟨rfl, fun offset h => by cases h; decide⟩
  have htokyo : eveningInTokyo.Shows ⟨1774701000000000⟩ :=
    ⟨rfl, fun offset h => by cases h; decide⟩
  have hlater : Instant.IsShownEverywhere ⟨1774701000000000 + setupOfSpring.lifetime⟩ := by
    intro offset hlow hhigh
    simp only [Instant.IsReadable, setupOfSpring]
    omega
  have hsame : start.TellsSame setupOfSpring.clockRule setupOfSpring.lifetime start :=
    ⟨none, rfl, .same none⟩
  have hnow : TellSame setupOfSpring.clockRule setupOfSpring.lifetime (some afternoonInLondon)
      (some eveningInTokyo) :=
    .shows hlondon htokyo (Timestamp.keepsOffset_fixed _ _) (Timestamp.keepsOffset_fixed _ _) hlater
  refine ⟨answers_depend_on_instants hsame (.cons (.now hnow) ?_), by decide +kernel⟩
  exact List.forall₂_same.mpr fun step _ => .same step

end Desk

end TradingStatus
