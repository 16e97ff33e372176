import TradingStatus.Market.Document

/-! Calendars: the markets that are known, each under an identifier of its own, in a fixed order. -/

namespace TradingStatus

/-- Markets, one at least, no two of them under one identifier. -/
structure Calendar where
  markets : List Market
  nodup : (markets.map Market.mic).Nodup
  ne_nil : markets ≠ []

namespace Calendar

/-- Markets, no two of them under one identifier. -/
abbrev Distinct := { markets : List Market // (markets.map Market.mic).Nodup }

theorem nodup_nil : (([] : List Market).map Market.mic).Nodup := List.Pairwise.nil

/-- No markets. -/
def Distinct.none : Distinct := ⟨[], nodup_nil⟩

/-- Markets, the last one first, with one more. -/
def add (found : Distinct) (market : Market) : Except Failure Distinct :=
  if h : market.mic ∈ found.val.map Market.mic then .error (.marketRepeated market.mic)
  else .ok ⟨market :: found.val, List.nodup_cons.mpr ⟨h, found.property⟩⟩

/-- The calendar of markets that are made one after the other; the first that fails to be one, or
that is there already, ends it. -/
def collect (markets : List (Except Failure Market)) : Except Failure Calendar := do
  let found ← markets.foldlM (fun found market => do add found (← market)) Distinct.none
  if h : found.val.isEmpty = true then throw .marketsEmpty
  else
    return {
      markets := found.val.reverse
      nodup := by
        rw [List.map_reverse]
        exact List.pairwise_reverse.mpr (found.property.imp Ne.symm)
      ne_nil := fun reversed =>
        h (List.isEmpty_iff.mpr (List.reverse_eq_nil_iff.mp reversed)) }

/-- The calendar of a document that lists markets by identifier. -/
def ofJson [Platform] (zones : ZoneDatabase) (value : Json) : Except Failure Calendar :=
  match value with
  | .null => .error .marketsMissing
  | .obj members => collect (members.map fun (mic, entry) => Market.ofJson zones mic entry)
  | value => .error (.showing value (.marketsInvalid value))

/-- The identifiers of a calendar's markets. -/
def supported (calendar : Calendar) : List String := calendar.markets.map Market.mic

/-- The market under an identifier, if there is one. -/
def find? (calendar : Calendar) (mic : String) : Option Market :=
  calendar.markets.find? fun market => market.mic == mic

/-- The market under an identifier. -/
def get (calendar : Calendar) (mic : String) : Except Failure Market :=
  match calendar.find? mic with
  | some market => .ok market
  | none => .error (.unknownMarket mic calendar.supported)

def size (calendar : Calendar) : Nat := calendar.markets.length

/-- The listing of a calendar for the public. -/
def directory (calendar : Calendar) : Json := .arr (calendar.markets.map Market.directoryEntry)

theorem get_eq_ok_iff {calendar : Calendar} {mic : String} {market : Market} :
    calendar.get mic = .ok market ↔ calendar.find? mic = some market := by
  unfold get
  cases calendar.find? mic with
  | none => simp
  | some found => simp

/-- A calendar has a market for exactly the identifiers that it lists. -/
theorem find?_isSome {calendar : Calendar} {mic : String} :
    (calendar.find? mic).isSome ↔ mic ∈ calendar.supported := by
  simp [find?, supported, List.find?_isSome]

end Calendar

end TradingStatus
