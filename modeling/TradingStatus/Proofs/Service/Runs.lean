import TradingStatus.Service.Desk

/-! Runs of a desk: events around it and requests to it, in any order. Requests change nothing but
how much has been asked for, so what a run leaves around the desk is what its events leave. Where
nothing but the issuer of a desk is of interest, the steps of a run are what comes to it alone. -/

namespace TradingStatus

/-- What comes to a desk: something happens around it, or something is asked of it. -/
inductive DeskStep
  | event (event : DeskEvent)
  | request (request : Request)

/-- The event of a step that is one. -/
def DeskStep.event? : DeskStep → Option DeskEvent
  | .event e => some e
  | .request _ => none

namespace Desk

/-- What a step leaves behind. -/
def step [Platform] (setup : DeskSetup) (desk : Desk) : DeskStep → Desk
  | .event event => desk.after event
  | .request request => (desk.answer setup request).value.2

/-- What a run leaves behind. -/
def run [Platform] (setup : DeskSetup) (desk : Desk) (steps : List DeskStep) : Desk :=
  steps.foldl (step setup) desk

/-- What the events of a run leave behind, whatever is asked between them. -/
def afterEvents (desk : Desk) (steps : List DeskStep) : Desk :=
  (steps.filterMap DeskStep.event?).foldl after desk

/-- Two desks that differ in no more than how much has been asked for. -/
def SameAround (desk other : Desk) : Prop := ∃ tally, desk = { other with tally }

variable {setup : DeskSetup} {desk other : Desk}

theorem SameAround.trans {third : Desk} (h : desk.SameAround other) (h' : other.SameAround third) :
    desk.SameAround third := by
  obtain ⟨tally, rfl⟩ := h
  obtain ⟨-, rfl⟩ := h'
  exact ⟨tally, rfl⟩

theorem SameAround.after (h : desk.SameAround other) (event : DeskEvent) :
    (desk.after event).SameAround (other.after event) := by
  obtain ⟨tally, rfl⟩ := h
  refine ⟨tally, ?_⟩
  cases event with
  | put mic entry => cases hstore : other.store <;> simp [Desk.after, hstore]
  | clear mic => cases hstore : other.store <;> simp [Desk.after, hstore]
  | now clock => rfl
  | write path node => rfl
  | breakSchedule verdict outlook => rfl

/-- What happens around a desk asks for nothing. -/
theorem tally_after (desk : Desk) (event : DeskEvent) : (desk.after event).tally = desk.tally := by
  cases event with
  | put mic entry => cases hstore : desk.store <;> simp [Desk.after, hstore]
  | clear mic => cases hstore : desk.store <;> simp [Desk.after, hstore]
  | now clock => rfl
  | write path node => rfl
  | breakSchedule verdict outlook => rfl

variable [Platform]

theorem sameAround_answer (desk : Desk) (setup : DeskSetup) (request : Request) :
    (desk.answer setup request).value.2.SameAround desk := by
  cases request with
  | demo mic => exact ⟨_, rfl⟩
  | status mic key => exact ⟨_, rfl⟩
  | health => exact ⟨_, rfl⟩
  | schedule mic => exact ⟨desk.tally, rfl⟩
  | exchanges => exact ⟨desk.tally, rfl⟩
  | keys => exact ⟨desk.tally, rfl⟩

/-- What a run leaves around a desk is what its events leave, from any desk that there is the same
around. -/
theorem SameAround.run (h : desk.SameAround other) (setup : DeskSetup) (steps : List DeskStep) :
    (desk.run setup steps).SameAround (other.afterEvents steps) := by
  induction steps generalizing desk other with
  | nil => exact h
  | cons step steps ih =>
    cases step with
    | event event => exact ih (h.after event)
    | request request => exact ih ((desk.sameAround_answer setup request).trans h)

theorem sameAround_run (desk : Desk) (setup : DeskSetup) (steps : List DeskStep) :
    (desk.run setup steps).SameAround (desk.afterEvents steps) :=
  SameAround.run ⟨desk.tally, rfl⟩ setup steps

end Desk

/-- What comes to the issuer of a desk: something happens around it, or it is to issue a receipt for
a market or about the service itself. -/
inductive IssueStep
  | event (event : DeskEvent)
  | issue (mic : String)
  | issueLiveness

namespace Desk

variable [Platform]

/-- What a step of issuing leaves behind. -/
def issueStep (setup : DeskSetup) (desk : Desk) : IssueStep → Desk
  | .event event => desk.after event
  | .issue mic => (desk.issue setup mic).value.2
  | .issueLiveness => (desk.issueLiveness setup).value.2

/-- What a run of issuing leaves behind. -/
def issueRun (setup : DeskSetup) (desk : Desk) (steps : List IssueStep) : Desk :=
  steps.foldl (issueStep setup) desk

end Desk

end TradingStatus
