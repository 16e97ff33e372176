import TradingStatus.Proofs.Service.Earned

/-! Issuing with a store of overrides, next to issuing without one. A store that gives no active
override, for whatever reason, leaves nothing behind but lines in the journal: no identifier and no
signature is asked for on its account, and what the other tiers come to is the same. -/

namespace TradingStatus

namespace Logged

variable {α β : Type}

/-- The same comes of one computation as of another, and its journal is the one of the other after
some lines of its own. -/
def SameAfterLines (first second : Logged α) : Prop :=
  first.value = second.value ∧ ∃ lines, first.log = lines ++ second.log

theorem SameAfterLines.refl (x : Logged α) : x.SameAfterLines x := ⟨rfl, [], rfl⟩

/-- A step whose result is known adds no more than its lines. -/
theorem sameAfterLines_bind {x : Logged α} {a : α} (h : x.value = a) (f : α → Logged β) :
    (x >>= f).SameAfterLines (f a) := by
  subst h
  exact ⟨rfl, x.log, rfl⟩

theorem SameAfterLines.bind {first second : Logged α} (h : first.SameAfterLines second)
    (f : α → Logged β) : (first >>= f).SameAfterLines (second >>= f) := by
  obtain ⟨hvalue, lines, hlog⟩ := h
  constructor
  · rw [value_bind, value_bind, hvalue]
  · refine ⟨lines, ?_⟩
    rw [log_bind, log_bind, hvalue, hlog, List.append_assoc]

end Logged

namespace Issuer

variable {issuer : Issuer} {mic : String} {clock : Option Timestamp} {tally : Tally}

/-- The issuer without a store of overrides. -/
def withoutOverrides (issuer : Issuer) : Issuer := { issuer with lookup? := none }

theorem value_tryOverride_of_no_override (tally : Tally)
    (hnone : ∀ override, ¬issuer.FindsActive mic clock override) :
    (issuer.tryOverride mic clock tally).value = (none, tally) := by
  unfold tryOverride
  rw [Logged.value_bind]
  cases hactive : (issuer.activeOverride mic clock).value with
  | none => rfl
  | some override => exact absurd (value_activeOverride_eq_some_iff.mp hactive) (hnone override)

theorem issueFor_sameAfterLines (tally : Tally)
    (hnone : ∀ override, ¬issuer.FindsActive mic clock override) :
    (issuer.issueFor mic clock tally).SameAfterLines
      (issuer.withoutOverrides.issueFor mic clock tally) := by
  -- Without a store the first tier does nothing, and both go on from it in the same way.
  unfold issueFor
  exact Logged.sameAfterLines_bind (value_tryOverride_of_no_override tally hnone) _

theorem issue_sameAfterLines (tally : Tally)
    (hnone : ∀ override, ¬issuer.FindsActive mic clock override) :
    (issuer.issue mic clock tally).SameAfterLines
      (issuer.withoutOverrides.issue mic clock tally) := by
  have hcalendar : issuer.withoutOverrides.calendar = issuer.calendar := rfl
  unfold issue
  rw [hcalendar]
  split
  · exact .refl _
  · exact (issueFor_sameAfterLines tally hnone).bind _

/-- Trouble with overrides never changes what is issued. Whatever an issuer is made of: where no
active override is found, be it that there is none or that the look-up fails, the outcome of issuing
for any market, with the receipt and its signature in it, and the identifiers and the signatures
asked for are those of the same issuer without a store; all that is added are lines in the journal.
And where the issuer looks into a store, that is so in every state of the store in which it holds no
entry of the market that means an override that has not ended. -/
theorem override_trouble_changes_no_outcome [Platform] (issuer : Issuer) (mic : String)
    (clock : Option Timestamp) (tally : Tally) :
    ((∀ override, ¬issuer.FindsActive mic clock override) →
      (issuer.issue mic clock tally).SameAfterLines
        (issuer.withoutOverrides.issue mic clock tally)) ∧
    ∀ (store : OverrideStore) (files : Files), issuer.lookup? = store.lookup? files →
      (∀ entry override now, store.Holds files mic entry → Override.ofEntry entry = .ok override →
        clock = some now → ¬now.Precedes override.expires) →
      (issuer.issue mic clock tally).SameAfterLines
        (issuer.withoutOverrides.issue mic clock tally) := by
  refine ⟨issue_sameAfterLines tally, fun store files hstore hentries => ?_⟩
  refine issue_sameAfterLines tally ?_
  rintro override ⟨lookup, now, hlookup, hfound, hclock, hprecedes⟩
  obtain ⟨entry, hholds, hentry⟩ :=
    OverrideStore.exists_entry_of_lookup (hstore.symm.trans hlookup) hfound
  exact hentries entry override now hholds hentry hclock hprecedes

/-- Files of which one, where overrides are looked for, holds a byte that no text has. -/
def brokenOverrides : Files := ⟨[], [(["overrides.json"], .file [0xff])]⟩

/-- An issuer that looks for overrides in that file, on Friday, 27 March 2026, at 17:00 UTC, signs
what the schedule says, all the same. -/
theorem closed_with_brokenOverrides :
    let desk := { Desk.start with
      files := brokenOverrides
      store := .file "overrides.json"
      clock := some (.utc ⟨1774630800000000, by decide, by decide⟩) }
    let issued := (desk.issuer Desk.setupOfSpring).issue "XLON" desk.clock desk.tally
    issued.log.length = 1 ∧
      issued.value =
        ((desk.issuer Desk.setupOfSpring).withoutOverrides.issue "XLON" desk.clock desk.tally).value ∧
      issued.value.2 = ⟨1, 1⟩ := by
  intro desk issued
  refine ⟨by decide +kernel, ?_, by decide +kernel⟩
  refine ((override_trouble_changes_no_outcome (desk.issuer Desk.setupOfSpring) "XLON" desk.clock
    desk.tally).2 (.file "overrides.json") brokenOverrides rfl ?_).1
  rintro entry override now (_ | _ | @⟨_, bytes, members, hfile, hdocument, -, -⟩) - - -
  have hbytes : brokenOverrides.read "overrides.json" = .ok [0xff] :=
    toOption_eq_some_iff.mp (by decide +kernel)
  obtain rfl := Except.ok.inj (hbytes.symm.trans hfile)
  cases hdocument

end Issuer

end TradingStatus
