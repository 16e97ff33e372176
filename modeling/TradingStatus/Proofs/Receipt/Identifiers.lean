import Mathlib.Data.List.Nodup
import Mathlib.Data.List.Range
import TradingStatus.Proofs.Receipt.Cascade

/-! The identifiers of receipts. A search through the tiers makes an identifier for every attempt to
sign, and asks for one signature at most with it; the receipt that comes out of it, if one does,
carries the identifier of the last attempt. Over any number of calls the identifiers are made one
after the other, so where none is made twice, no two receipts share one. -/

namespace TradingStatus

/-- An attempt at a receipt: the identifier that is made for it, how many signatures are asked for
with it, and the receipt, if it is signed. -/
structure Attempt where
  id : Json
  signs : Nat
  receipt? : Option Receipt

/-- The identifiers of the receipts among some attempts are some of those that were made. -/
theorem Attempt.ids_sublist {attempts : List Attempt}
    (hcarried : ∀ attempt ∈ attempts, ∀ receipt, attempt.receipt? = some receipt →
      receipt.id = attempt.id) :
    ((attempts.filterMap receipt?).map Receipt.id).Sublist (attempts.map id) := by
  induction attempts with
  | nil => exact .slnil
  | cons attempt attempts ih =>
    have hlater := ih fun a ha => hcarried a (List.mem_cons_of_mem _ ha)
    cases hreceipt : attempt.receipt? with
    | none =>
      rw [List.filterMap_cons_none hreceipt]
      exact hlater.cons _
    | some receipt =>
      rw [List.filterMap_cons_some hreceipt, List.map_cons, List.map_cons,
        hcarried attempt List.mem_cons_self receipt hreceipt]
      exact hlater.cons_cons _

namespace Issuer

variable {issuer : Issuer} {mic : String} {clock : Option Timestamp} {tier : Tier}
  {tiers : List Tier} {tally next later : Tally} {receipt? : Option Receipt} {outcome : Outcome}

/-- What a tier gives when it is tried. -/
def tryTier (issuer : Issuer) (mic : String) (clock : Option Timestamp) :
    Tier → Tally → Logged (Option Receipt × Tally)
  | .override => issuer.tryOverride mic clock
  | .schedule => issuer.trySchedule mic clock
  | .safetyNet => issuer.trySafetyNet mic clock
  | .liveness =>
    issuer.trySigned "ORACLE_LIVENESS_FAILURE: " clock ⟨livenessMic, .ok, .system, none⟩

theorem tries_tryTier (issuer : Issuer) (mic : String) (clock : Option Timestamp) (tier : Tier)
    (tally : Tally) :
    issuer.Tries mic clock tier tally (issuer.tryTier mic clock tier tally).value.1
      (issuer.tryTier mic clock tier tally).value.2 := by
  cases tier with
  | override => exact issuer.tries_tryOverride mic clock tally
  | schedule => exact issuer.tries_trySchedule mic clock tally
  | safetyNet => exact issuer.tries_trySafetyNet mic clock tally
  | liveness => exact tries_trySigned _ tally rfl

/-- The attempts of a search through some tiers. A tier that makes no identifier attempts
nothing. -/
def attempts (issuer : Issuer) (mic : String) (clock : Option Timestamp) :
    List Tier → Tally → List Attempt
  | [], _ => []
  | tier :: tiers, tally =>
    let (receipt?, next) := (issuer.tryTier mic clock tier tally).value
    let made : List Attempt :=
      if tally.ids < next.ids then
        [⟨issuer.newId next.ids, next.signs - tally.signs, receipt?⟩]
      else []
    if receipt?.isSome then made else made ++ attempts issuer mic clock tiers next

theorem value_tryTier (h : issuer.Tries mic clock tier tally receipt? next) :
    (issuer.tryTier mic clock tier tally).value = (receipt?, next) := by
  obtain ⟨hreceipt, hnext⟩ := h.unique (issuer.tries_tryTier mic clock tier tally)
  rw [hreceipt, hnext]

theorem attempts_of_silent (h : issuer.Tries mic clock tier tally none tally) :
    issuer.attempts mic clock (tier :: tiers) tally = issuer.attempts mic clock tiers tally := by
  simp [attempts, value_tryTier h]

theorem attempts_of_unsigned {signs : Nat}
    (h : issuer.Tries mic clock tier tally none ⟨tally.ids + 1, tally.signs + signs⟩) :
    issuer.attempts mic clock (tier :: tiers) tally =
      ⟨issuer.newId (tally.ids + 1), signs, none⟩ ::
        issuer.attempts mic clock tiers ⟨tally.ids + 1, tally.signs + signs⟩ := by
  simp [attempts, value_tryTier h]

theorem attempts_of_signed {signs : Nat} {receipt : Receipt}
    (h : issuer.Tries mic clock tier tally (some receipt) ⟨tally.ids + 1, tally.signs + signs⟩) :
    issuer.attempts mic clock (tier :: tiers) tally =
      [⟨issuer.newId (tally.ids + 1), signs, some receipt⟩] := by
  simp [attempts, value_tryTier h]

/-- An attempt takes one identifier, and one signature at most. -/
theorem Spends.exists_signs (h : issuer.Spends clock tally later) :
    ∃ signs ≤ 1, later = ⟨tally.ids + 1, tally.signs + signs⟩ := by
  cases h with
  | written => exact ⟨1, Nat.le_refl 1, rfl⟩
  | unwritten => exact ⟨0, Nat.zero_le 1, rfl⟩

/-- Some attempts account for what has been asked for in the meantime and for the receipt that came
of it: their identifiers were made one after the other, and the receipt is the one of the last
attempt. -/
structure Accounts (issuer : Issuer) (tally : Tally) (attempts : List Attempt)
    (receipt? : Option Receipt) (later : Tally) : Prop where
  ids : attempts.map Attempt.id =
    (List.range' (tally.ids + 1) attempts.length).map issuer.newId
  later_ids : later.ids = tally.ids + attempts.length
  later_signs : later.signs =
    attempts.foldl (fun asked attempt => asked + attempt.signs) tally.signs
  signs_le : ∀ attempt ∈ attempts, attempt.signs ≤ 1
  carried : ∀ attempt ∈ attempts, ∀ receipt, attempt.receipt? = some receipt →
    receipt.id = attempt.id
  returned : attempts.filterMap Attempt.receipt? = receipt?.toList
  last : ∀ receipt, receipt? = some receipt →
    ∃ attempt, attempts.getLast? = some attempt ∧ attempt.receipt? = some receipt

namespace Accounts

variable {attempts : List Attempt} {signs : Nat}

theorem nil (issuer : Issuer) (tally : Tally) : issuer.Accounts tally [] none tally where
  ids := rfl
  later_ids := rfl
  later_signs := rfl
  signs_le := by simp
  carried := by simp
  returned := rfl
  last := by simp

theorem signed {receipt : Receipt} (hsigns : signs ≤ 1)
    (hid : receipt.id = issuer.newId (tally.ids + 1)) :
    issuer.Accounts tally [⟨issuer.newId (tally.ids + 1), signs, some receipt⟩] (some receipt)
      ⟨tally.ids + 1, tally.signs + signs⟩ where
  ids := rfl
  later_ids := rfl
  later_signs := rfl
  signs_le := by simpa using hsigns
  carried := by simpa using hid
  returned := rfl
  last := by simp

/-- An attempt that failed comes before what accounts for the rest. -/
theorem cons (hsigns : signs ≤ 1) (h : issuer.Accounts ⟨tally.ids + 1, tally.signs + signs⟩
      attempts receipt? later) :
    issuer.Accounts tally (⟨issuer.newId (tally.ids + 1), signs, none⟩ :: attempts) receipt?
      later where
  ids := by
    rw [List.map_cons, h.ids, List.length_cons, List.range'_succ, List.map_cons]
  later_ids := by
    rw [h.later_ids, List.length_cons]
    simp only
    omega
  later_signs := h.later_signs
  signs_le := List.forall_mem_cons.mpr ⟨hsigns, h.signs_le⟩
  carried attempt hmem receipt hreceipt := by
    rcases List.mem_cons.mp hmem with rfl | hlater
    · cases hreceipt
    · exact h.carried attempt hlater receipt hreceipt
  returned := h.returned
  last receipt hreceipt := by
    obtain ⟨attempt, hlast, hsigned⟩ := h.last receipt hreceipt
    exact ⟨attempt, by rw [List.getLast?_cons, hlast]; rfl, hsigned⟩

end Accounts

/-- The attempts of a search account for all that it asks for and for what it comes to. -/
theorem Settles.accounts (h : issuer.Settles mic clock tiers tally outcome later) :
    issuer.Accounts tally (issuer.attempts mic clock tiers tally) outcome.receipt? later := by
  induction h with
  | exhausted => exact .nil issuer _
  | found tries =>
    cases tries with
    | signed said signs spends =>
      obtain ⟨count, hcount, rfl⟩ := spends.exists_signs
      rw [attempts_of_signed (.signed said signs spends)]
      exact .signed hcount signs.id
  | passed tries rest ih =>
    cases tries with
    | silent hnot =>
      rw [attempts_of_silent (.silent hnot)]
      exact ih
    | unsigned said fails spends =>
      obtain ⟨count, hcount, rfl⟩ := spends.exists_signs
      rw [attempts_of_unsigned (.unsigned said fails spends)]
      exact ih.cons hcount

theorem length_attempts_le (issuer : Issuer) (mic : String) (clock : Option Timestamp)
    (tiers : List Tier) (tally : Tally) :
    (issuer.attempts mic clock tiers tally).length ≤ tiers.length := by
  induction tiers generalizing tally with
  | nil => exact Nat.le_refl 0
  | cons tier tiers ih =>
    unfold attempts
    generalize (issuer.tryTier mic clock tier tally).value = tried
    obtain ⟨receipt?, next⟩ := tried
    have hrest := ih next
    simp only
    split
    · split
      · simp
      · simp
    · split
      · simp
        omega
      · simp
        omega

/-- The safety net always has something to say, so a search that ends with it attempts something. -/
theorem attempts_ne_nil (hsafetyNet : .safetyNet ∈ tiers)
    (h : issuer.Settles mic clock tiers tally outcome later) :
    issuer.attempts mic clock tiers tally ≠ [] := by
  induction h with
  | exhausted => cases hsafetyNet
  | found tries =>
    cases tries with
    | signed said signs spends =>
      obtain ⟨count, -, rfl⟩ := spends.exists_signs
      rw [attempts_of_signed (.signed said signs spends)]
      exact List.cons_ne_nil _ _
  | passed tries rest ih =>
    cases tries with
    | silent hnot =>
      rw [attempts_of_silent (.silent hnot)]
      refine ih ((List.mem_cons.mp hsafetyNet).resolve_left ?_)
      rintro rfl
      exact hnot _ rfl
    | unsigned said fails spends =>
      obtain ⟨count, -, rfl⟩ := spends.exists_signs
      rw [attempts_of_unsigned (.unsigned said fails spends)]
      exact List.cons_ne_nil _ _

end Issuer

/-- What may be asked of an issuer. -/
inductive IssuerRequest
  | market (mic : String)
  | liveness

/-- A call of an issuer: the issuer with all that it depends on at the time, what the clock shows,
and what is asked. -/
structure IssuerCall where
  issuer : Issuer
  clock : Option Timestamp
  request : IssuerRequest

namespace IssuerCall

/-- The receipt that a call returns, if it returns one, and what it leaves behind. -/
def perform (call : IssuerCall) (tally : Tally) : Option Receipt × Tally :=
  match call.request with
  | .market mic =>
    let result := (call.issuer.issue mic call.clock tally).value
    (result.1.toOption.bind Outcome.receipt?, result.2)
  | .liveness =>
    let result := (call.issuer.issueLiveness call.clock tally).value
    (result.1.receipt?, result.2)

/-- The attempts that a call makes. -/
def attempts (call : IssuerCall) (tally : Tally) : List Attempt :=
  match call.request with
  | .market mic =>
    if mic ∈ call.issuer.calendar.supported then
      call.issuer.attempts mic call.clock Issuer.marketTiers tally
    else []
  | .liveness => call.issuer.attempts Issuer.livenessMic call.clock [.liveness] tally

theorem accounts (call : IssuerCall) (tally : Tally) : call.issuer.Accounts tally
    (call.attempts tally) (call.perform tally).1 (call.perform tally).2 := by
  unfold attempts perform
  cases call.request with
  | market mic =>
    simp only
    split
    · next hmic =>
      rw [Issuer.value_issue_of_supported hmic]
      exact (call.issuer.settles_issueFor mic call.clock tally).accounts
    · next hmic =>
      rw [Issuer.issue_of_not_supported hmic]
      exact .nil call.issuer tally
  | liveness =>
    exact (call.issuer.settles_issueLiveness Issuer.livenessMic call.clock tally).accounts

end IssuerCall

/-- A call that was served, with how much had been asked for before it. -/
structure Served where
  call : IssuerCall
  before : Tally

namespace Served

def receipt? (served : Served) : Option Receipt := (served.call.perform served.before).1

def after (served : Served) : Tally := (served.call.perform served.before).2

def attempts (served : Served) : List Attempt := served.call.attempts served.before

/-- The record of some calls, each of them going on where the one before it ended. -/
def record : Tally → List IssuerCall → List Served
  | _, [] => []
  | tally, call :: calls => ⟨call, tally⟩ :: record (call.perform tally).2 calls

variable {newId : Nat → Json} {calls : List IssuerCall} {served : Served}

/-- All identifiers of a run are made one after the other. -/
theorem ids_of_record (hcalls : ∀ call ∈ calls, call.issuer.newId = newId) (tally : Tally) :
    ((record tally calls).flatMap attempts).map Attempt.id =
      (List.range' (tally.ids + 1) ((record tally calls).flatMap attempts).length).map newId := by
  induction calls generalizing tally with
  | nil => rfl
  | cons call calls ih =>
    have haccounts := call.accounts tally
    rw [record, List.flatMap_cons, List.map_append, List.length_append, ← List.range'_append_1,
      List.map_append, ih (fun c hc => hcalls c (List.mem_cons_of_mem _ hc)), haccounts.later_ids]
    have hids := haccounts.ids
    rw [hcalls call List.mem_cons_self] at hids
    refine congrArg₂ _ hids ?_
    rw [Nat.add_right_comm]
    rfl

theorem accounts (served : Served) : served.call.issuer.Accounts served.before served.attempts
    served.receipt? served.after :=
  served.call.accounts served.before

/-- What the identifiers in the record of a run have to keep to. -/
structure KeepsIdsApart (run : List Served) : Prop where
  /-- The attempts of a call are all that it asks for. -/
  accounted : ∀ served ∈ run, served.call.issuer.Accounts served.before served.attempts
    served.receipt? served.after
  /-- A receipt carries the last identifier that its own call made. -/
  last : ∀ served ∈ run, ∀ receipt, served.receipt? = some receipt →
    ∃ attempt, served.attempts.getLast? = some attempt ∧ receipt.id = attempt.id
  /-- No two receipts carry the same one. -/
  apart : ((run.filterMap receipt?).map Receipt.id).Nodup
  /-- What an attempt that failed has made is on no receipt. -/
  wasted : ∀ served ∈ run, ∀ attempt ∈ served.attempts, attempt.receipt? = none →
    ∀ other ∈ run, ∀ receipt, other.receipt? = some receipt → receipt.id ≠ attempt.id
  /-- For a market of the calendar, one to three attempts are made. -/
  known : ∀ served ∈ run, ∀ mic, served.call.request = .market mic →
    mic ∈ served.call.issuer.calendar.supported →
      1 ≤ served.attempts.length ∧ served.attempts.length ≤ 3 ∧
        ∀ attempt ∈ served.attempts, attempt.signs ≤ 1
  /-- For another market, nothing is attempted and nothing asked for. -/
  unknown : ∀ served ∈ run, ∀ mic, served.call.request = .market mic →
    mic ∉ served.call.issuer.calendar.supported →
      served.attempts = [] ∧ served.after = served.before ∧ served.receipt? = none

theorem filterMap_receipt? (run : List Served) :
    (run.flatMap attempts).filterMap Attempt.receipt? = run.filterMap receipt? := by
  rw [List.filterMap_flatMap, List.filterMap_eq_flatMap_toList]
  exact List.flatMap_congr fun served _ => served.accounts.returned

/-- A receipt is that of an attempt, and carries the identifier of that attempt. -/
theorem exists_attempt {receipt : Receipt} (h : served.receipt? = some receipt) :
    ∃ attempt ∈ served.attempts, attempt.receipt? = some receipt ∧ receipt.id = attempt.id ∧
      served.attempts.getLast? = some attempt := by
  obtain ⟨attempt, hlast, hsigned⟩ := served.accounts.last receipt h
  have hmem := List.mem_of_getLast? hlast
  exact ⟨attempt, hmem, hsigned, served.accounts.carried attempt hmem receipt hsigned, hlast⟩

theorem attempts_of_known {mic : String} (hasked : served.call.request = .market mic)
    (hmic : mic ∈ served.call.issuer.calendar.supported) :
    served.attempts = served.call.issuer.attempts mic served.call.clock Issuer.marketTiers
      served.before := by
  rw [attempts, IssuerCall.attempts, hasked]
  exact if_pos hmic

theorem attempts_of_unknown {mic : String} (hasked : served.call.request = .market mic)
    (hmic : mic ∉ served.call.issuer.calendar.supported) :
    served.attempts = [] ∧ served.after = served.before ∧ served.receipt? = none := by
  rw [attempts, after, receipt?, IssuerCall.attempts, IssuerCall.perform, hasked]
  simp only
  rw [if_neg hmic, Issuer.issue_of_not_supported hmic]
  exact ⟨rfl, rfl, rfl⟩

theorem keepsIdsApart_record (hnewId : Function.Injective newId)
    (hcalls : ∀ call ∈ calls, call.issuer.newId = newId) (tally : Tally) :
    KeepsIdsApart (record tally calls) := by
  -- No identifier is made twice in the run; receipts are some of its attempts.
  have hmade : (((record tally calls).flatMap attempts).map Attempt.id).Nodup := by
    rw [ids_of_record hcalls]
    exact (List.nodup_range' 1).map hnewId
  refine ⟨fun served _ => served.accounts, ?_, ?_, ?_, ?_, ?_⟩
  · intro served _ receipt hreceipt
    obtain ⟨attempt, -, -, hid, hlast⟩ := exists_attempt hreceipt
    exact ⟨attempt, hlast, hid⟩
  · rw [← filterMap_receipt?]
    refine hmade.sublist (Attempt.ids_sublist fun attempt hattempt => ?_)
    obtain ⟨served, -, hmem⟩ := List.mem_flatMap.mp hattempt
    exact served.accounts.carried attempt hmem
  · intro served hserved attempt hattempt hfailed other hother receipt hreceipt hid
    obtain ⟨signed, hsigned, hcarried, hsame, -⟩ := exists_attempt hreceipt
    have heq : attempt = signed := List.inj_on_of_nodup_map hmade
      (List.mem_flatMap.mpr ⟨served, hserved, hattempt⟩)
      (List.mem_flatMap.mpr ⟨other, hother, hsigned⟩) (hid.symm.trans hsame)
    rw [heq, hcarried] at hfailed
    cases hfailed
  · intro served _ mic hasked hmic
    have hsettles := served.call.issuer.settles_issueFor mic served.call.clock served.before
    refine ⟨?_, ?_, served.accounts.signs_le⟩
    · rw [attempts_of_known hasked hmic]
      exact List.length_pos_of_ne_nil (Issuer.attempts_ne_nil (by decide) hsettles)
    · rw [attempts_of_known hasked hmic]
      exact Issuer.length_attempts_le _ _ _ _ _
  · intro served _ mic hasked hmic
    exact attempts_of_unknown hasked hmic

end Served

end TradingStatus
