import TradingStatus.Proofs.Receipt.Identifiers
import TradingStatus.Proofs.Service.Isolation

/-! The identifiers of the receipts of a desk. Whatever happens around a desk between two calls
changes nothing about how many identifiers have been made, so a run of issuing is a run of calls of
issuers that number their identifiers alike. -/

namespace TradingStatus

namespace Desk

variable {setup : DeskSetup}

section

variable [Platform]

/-- The call of a step that is one. -/
def call? (desk : Desk) (setup : DeskSetup) : IssueStep → Option IssuerCall
  | .event _ => none
  | .issue mic => some ⟨desk.issuer setup, desk.clock, .market mic⟩
  | .issueLiveness => some ⟨desk.issuer setup, desk.clock, .liveness⟩

/-- The record of a run of issuing: its calls, each with how much had been asked for at that point
of the run. -/
def served (setup : DeskSetup) : Desk → List IssueStep → List Served
  | _, [] => []
  | desk, step :: steps =>
    ((desk.call? setup step).map (⟨·, desk.tally⟩)).toList ++
      served setup (desk.issueStep setup step) steps

theorem tally_of_call {desk : Desk} {step : IssueStep} {call : IssuerCall}
    (h : desk.call? setup step = some call) :
    (desk.issueStep setup step).tally = (call.perform desk.tally).2 := by
  cases step with
  | event event => cases h
  | issue mic =>
    cases h
    rfl
  | issueLiveness =>
    cases h
    rfl

theorem tally_of_no_call {desk : Desk} {step : IssueStep} (h : desk.call? setup step = none) :
    (desk.issueStep setup step).tally = desk.tally := by
  cases step with
  | event event => exact desk.tally_after event
  | issue mic => cases h
  | issueLiveness => cases h

theorem newId_of_call {desk : Desk} {step : IssueStep} {call : IssuerCall}
    (h : desk.call? setup step = some call) : call.issuer.newId = setup.newId := by
  cases step with
  | event event => cases h
  | issue mic =>
    cases h
    rfl
  | issueLiveness =>
    cases h
    rfl

/-- The calls of a run follow each other as calls do. -/
theorem exists_calls (setup : DeskSetup) (desk : Desk) (steps : List IssueStep) :
    ∃ calls, (∀ call ∈ calls, call.issuer.newId = setup.newId) ∧
      desk.served setup steps = Served.record desk.tally calls := by
  induction steps generalizing desk with
  | nil => exact ⟨[], by simp, rfl⟩
  | cons step steps ih =>
    obtain ⟨calls, hcalls, hserved⟩ := ih (desk.issueStep setup step)
    rw [served, hserved]
    cases hcall : desk.call? setup step with
    | none =>
      rw [tally_of_no_call hcall]
      exact ⟨calls, hcalls, rfl⟩
    | some call =>
      rw [tally_of_call hcall]
      exact ⟨call :: calls, List.forall_mem_cons.mpr ⟨newId_of_call hcall, hcalls⟩, rfl⟩

/-- Where no identifier is made twice, none is used twice. Let any calls of issuers with the same
identifiers follow each other, for a market or about the service itself, and let the calendar, the
clock, what is looked up, what the schedule says and which signatures are made differ from one call
to the next in any way. Then a receipt carries the last of the identifiers that its own call made,
no two receipts carry the same one, and what an attempt that failed has made is on none of them. For
a market of the calendar one to three identifiers are made, and one signature at most is asked for
with each; for any other market, nothing. So it is in every run of issuing at a desk, whatever
happens between the calls. -/
theorem receipt_ids_are_not_reused {newId : Nat → Json} (hnewId : Function.Injective newId) :
    (∀ calls tally, (∀ call ∈ calls, call.issuer.newId = newId) →
      Served.KeepsIdsApart (Served.record tally calls)) ∧
    ∀ (setup : DeskSetup) (desk : Desk) (steps : List IssueStep), setup.newId = newId →
      Served.KeepsIdsApart (desk.served setup steps) := by
  refine ⟨fun calls tally hcalls => Served.keepsIdsApart_record hnewId hcalls tally, ?_⟩
  rintro setup desk steps rfl
  obtain ⟨calls, hcalls, hserved⟩ := exists_calls setup desk steps
  rw [hserved]
  exact Served.keepsIdsApart_record hnewId hcalls desk.tally

end

/-- Receipts are numbered by strokes, and the first signature fails. -/
def setupOfStrokes : DeskSetup :=
  { setupOfTwoMarkets with
    newId := fun number => .str (String.ofList (List.replicate number 'i'))
    signFailures := [1] }

theorem newId_setupOfStrokes_injective : Function.Injective setupOfStrokes.newId := by
  intro first second h
  have hstrokes := congrArg String.toList (Json.str.inj h)
  rw [String.toList_ofList, String.toList_ofList] at hstrokes
  simpa using congrArg List.length hstrokes

/-- An override of New York cannot be signed, and the schedule answers with the second identifier. A
market that is not there takes none, and the service itself the third. -/
theorem strokes_after_haltedElsewhere :
    Function.Injective setupOfStrokes.newId ∧
      Served.KeepsIdsApart
        (start.served setupOfStrokes (haltedElsewhere ++ [.issue "XXXX", .issueLiveness])) ∧
      ((start.served setupOfStrokes (haltedElsewhere ++ [.issue "XXXX", .issueLiveness])).map
          fun served => served.receipt?.bind (·.id.text?)) = [some "ii", none, some "iii"] :=
  ⟨newId_setupOfStrokes_injective,
    (receipt_ids_are_not_reused newId_setupOfStrokes_injective).2 setupOfStrokes start _ rfl,
    by decide +kernel⟩

end Desk

end TradingStatus
