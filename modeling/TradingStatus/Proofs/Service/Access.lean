import TradingStatus.Proofs.Service.Earned

/-! Access keys. Those without an accepted key are turned away before anything else is looked at:
what they are told rests on their key and on which keys are accepted, nothing is asked for or
reported on their account, and nothing that comes after them can tell that they were there. All
others are answered as everyone is. -/

namespace TradingStatus

namespace Service

/-- The keys that are turned away: none at all, a blank one, any key where none can be accepted, and
a key that is not accepted. -/
inductive TurnsAway (accepts? : Option (String → Bool)) : Option String → Prop
  | absent : TurnsAway accepts? none
  | blank {key : String} (h : Text.isBlankText key = true) : TurnsAway accepts? (some key)
  | unchecked {key : String} (h : accepts? = none) : TurnsAway accepts? (some key)
  | rejected {key : String} {accepts : String → Bool} (haccepts : accepts? = some accepts)
      (h : accepts key = false) : TurnsAway accepts? (some key)

variable {service : Service} {mic key : Option String} {clock : Option Timestamp} {tally : Tally}
  {accepts? : Option (String → Bool)} {response : Response}

/-- What a key is turned away with does not depend on who turns it away. -/
theorem TurnsAway.exists_refusal (h : TurnsAway accepts? key) :
    ∃ response, response.code ∈ [401, 403] ∧
      ∀ service : Service, service.accepts? = accepts? → service.refusal? key = some response := by
  cases h with
  | absent => exact ⟨refusal?.required, by decide, fun _ _ => rfl⟩
  | blank h => exact ⟨refusal?.required, by decide, fun _ _ => by simp [refusal?, h]⟩
  | @unchecked key h =>
    cases hblank : Text.isBlankText key with
    | true => exact ⟨refusal?.required, by decide, fun _ _ => by simp [refusal?, hblank]⟩
    | false =>
      refine ⟨refusal?.invalid, by decide, fun service haccepts => ?_⟩
      simp [refusal?, hblank, haccepts.trans h]
  | @rejected key accepts haccepts h =>
    cases hblank : Text.isBlankText key with
    | true => exact ⟨refusal?.required, by decide, fun _ _ => by simp [refusal?, hblank]⟩
    | false =>
      refine ⟨refusal?.invalid, by decide, fun service hservice => ?_⟩
      simp [refusal?, hblank, hservice.trans haccepts, h]

theorem turnsAway_of_refusal (h : service.refusal? key = some response) :
    TurnsAway service.accepts? key := by
  unfold refusal? at h
  split at h
  · exact .absent
  · split at h
    · next hblank => exact .blank hblank
    · split at h
      · next haccepts => exact .unchecked haccepts
      · next accepts haccepts =>
        split at h
        · cases h
        · next hkey => exact .rejected haccepts (by simpa using hkey)

theorem status_of_refusal (h : service.refusal? key = some response) :
    service.status mic key clock tally = pure (.ok response, tally) := by
  unfold status
  rw [h]

theorem status_of_no_refusal (h : service.refusal? key = none) :
    service.status mic key clock tally = service.demo mic clock tally := by
  unfold status
  rw [h]

end Service

/-- A step is a request for a receipt that presents a key. -/
def DeskStep.presents (key : Option String) : DeskStep → Bool
  | .request (.status _ presented) => presented == key
  | _ => false

namespace Desk

variable {setup : DeskSetup} {desk : Desk} {key : Option String} {response : Response}

/-- A request that is turned away leaves everything at a desk as it was. -/
theorem step_of_refusal [Platform] {step : DeskStep} (hstep : step.presents key = true)
    (h : (desk.service setup).refusal? key = some response) : desk.step setup step = desk := by
  unfold DeskStep.presents at hstep
  split at hstep
  · next mic presented =>
    obtain rfl := eq_of_beq hstep
    simp only [Desk.step, answer, Service.status_of_refusal h]
    rfl
  · cases hstep

/-- A run comes to the same without the requests that are turned away. -/
theorem run_filter_of_turnsAway [Platform] (h : Service.TurnsAway setup.accepts? key) (desk : Desk)
    (steps : List DeskStep) :
    desk.run setup (steps.filter fun step => !step.presents key) = desk.run setup steps := by
  induction steps generalizing desk with
  | nil => rfl
  | cons step steps ih =>
    cases hstep : step.presents key with
    | false =>
      rw [List.filter_cons_of_pos (by simp [hstep])]
      exact ih (desk.step setup step)
    | true =>
      rw [List.filter_cons_of_neg (by simp [hstep]), ih desk]
      obtain ⟨response, -, hrefusal⟩ := h.exists_refusal
      show desk.run setup steps = (desk.step setup step).run setup steps
      rw [step_of_refusal hstep (hrefusal (desk.service setup) rfl)]

end Desk

namespace Service

/-- Those who are turned away learn and change nothing. Given which keys are accepted, there is one
response to a key that is turned away, whatever market is asked for and whatever the service is made
of; no identifier and no signature is asked for, no line is written, and every run comes to the same
without such requests. With any other key, a receipt is asked for as everyone asks for it. -/
theorem turned_away_without_trace [Platform] (accepts? : Option (String → Bool))
    (key : Option String) :
    (TurnsAway accepts? key → ∃ response, response.code ∈ [401, 403] ∧
      (∀ (service : Service) (mic : Option String) (clock : Option Timestamp) (tally : Tally),
        service.accepts? = accepts? →
          service.status mic key clock tally = pure (.ok response, tally)) ∧
      ∀ (setup : DeskSetup) (desk : Desk) (steps : List DeskStep), setup.accepts? = accepts? →
        desk.run setup (steps.filter fun step => !step.presents key) = desk.run setup steps) ∧
    (¬TurnsAway accepts? key →
      ∀ (service : Service) (mic : Option String) (clock : Option Timestamp) (tally : Tally),
        service.accepts? = accepts? →
          service.status mic key clock tally = service.demo mic clock tally) := by
  constructor
  · intro h
    obtain ⟨response, hcode, hrefusal⟩ := h.exists_refusal
    refine ⟨response, hcode, ?_, ?_⟩
    · intro service mic clock tally haccepts
      exact status_of_refusal (hrefusal service haccepts)
    · rintro setup desk steps rfl
      exact Desk.run_filter_of_turnsAway h desk steps
  · rintro h service mic clock tally rfl
    refine status_of_no_refusal (Option.eq_none_iff_forall_ne_some.mpr fun response hrefusal => ?_)
    exact h (turnsAway_of_refusal hrefusal)

/-- Where one key is accepted, another one is told the same on a Saturday on which an operator has
forced the market open and before anything has happened, of a market that there is and of one that
there is not; and the accepted key gets what everyone gets. -/
theorem stranger_on_saturday :
    let setup := { Desk.setupOfSpring with accepts? := some (· == "k1") }
    let saturday := Desk.start.run setup Desk.saturday
    ∃ response,
      (saturday.service setup).status (some "xlon") (some "k2") saturday.clock saturday.tally =
        pure (.ok response, saturday.tally) ∧
      (Desk.start.service setup).status (some "nowhere") (some "k2") none ⟨7, 3⟩ =
        pure (.ok response, ⟨7, 3⟩) ∧
      (saturday.service setup).status (some "xlon") (some "k1") saturday.clock saturday.tally =
        (saturday.service setup).demo (some "xlon") saturday.clock saturday.tally := by
  intro setup saturday
  obtain ⟨hstranger, -⟩ := turned_away_without_trace (some (· == "k1")) (some "k2")
  obtain ⟨-, hfriend⟩ := turned_away_without_trace (some (· == "k1")) (some "k1")
  obtain ⟨response, -, hstatus, -⟩ := hstranger (.rejected rfl (by decide))
  refine ⟨response, hstatus _ _ _ _ rfl, hstatus _ _ _ _ rfl, hfriend ?_ _ _ _ _ rfl⟩
  rintro (_ | h | h | ⟨haccepts, h⟩)
  · exact absurd h (by decide +kernel)
  · cases h
  · obtain rfl := Option.some.inj haccepts
    exact absurd h (by decide)

end Service

end TradingStatus
