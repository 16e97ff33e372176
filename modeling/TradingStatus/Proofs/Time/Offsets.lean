import TradingStatus.Proofs.Time.WallClocks
import TradingStatus.Time.Zone.Database

/-! How far clocks are ahead of UTC. A zone that is written down has finitely many offsets, those of
its changes and those of its rule, and in every recorded zone all of them are less than a day. -/

namespace TradingStatus

/-- The clocks of every zone in a database are less than a day ahead of UTC or behind it. -/
def ZoneDatabase.StaysNearUtc (zones : ZoneDatabase) : Prop :=
  ∀ name zone, zones.find? name = some zone →
    ∀ s, -86400 < zone.offsetAt s ∧ zone.offsetAt s < 86400

/-- The offsets that a rule gives. -/
def ZoneRule.offsets : ZoneRule → List Int
  | fixed offset => [offset]
  | seasonal standard summer _ _ => [standard, summer]

theorem ZoneRule.offsetAt_mem (rule : ZoneRule) (t : Int) : rule.offsetAt t ∈ rule.offsets := by
  cases rule with
  | fixed offset => exact List.mem_singleton_self offset
  | seasonal standard summer start finish =>
    rcases offsetAt_seasonal standard summer start finish t with h | h
    · simp [h, offsets]
    · simp [h, offsets]

namespace ZoneRecord

/-- The offsets that are written down for a zone. -/
def offsets (record : ZoneRecord) : List Int :=
  record.first :: record.changes.map Prod.snd ++ record.rule.offsets

theorem offsetAt_mem (record : ZoneRecord) (t : Int) :
    record.zone.offsetAt t ∈ record.offsets := by
  refine lookup_of_forall (P := (· ∈ record.offsets)) (fun s => ?_) (fun change hchange => ?_) ?_ t
  · exact List.mem_append_right _ (record.rule.offsetAt_mem s)
  · exact List.mem_append_left _ (List.mem_cons_of_mem _ (List.mem_map_of_mem hchange))
  · exact List.mem_cons_self

end ZoneRecord

theorem ZoneDatabase.staysNearUtc_standard : standard.StaysNearUtc := by
  have hrecords : ∀ entry ∈ records, ∀ offset ∈ entry.2.offsets,
      -86400 < offset ∧ offset < 86400 := by
    decide +kernel
  intro name zone hzone s
  obtain ⟨record, hrecord, rfl⟩ := Option.map_eq_some_iff.mp hzone
  obtain ⟨before, after, heq, -⟩ := List.lookup_eq_some_iff.mp hrecord
  have hmem : (name, record) ∈ records := by
    rw [heq]
    exact List.mem_append_right _ List.mem_cons_self
  exact hrecords _ hmem _ (record.offsetAt_mem s)

end TradingStatus
