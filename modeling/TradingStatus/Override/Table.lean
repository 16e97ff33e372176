import TradingStatus.Market.Mic
import TradingStatus.Override.Basic

/-! Tables of overrides, held in memory. Entries are written under the market identifier that a text
means and looked up under exactly the text that is given; an entry may be a value or its JSON text. -/

namespace TradingStatus

/-- Entries by market identifier. -/
structure OverrideTable where
  entries : List (String × Json)

namespace OverrideTable

/-- The table with the entry of a market replaced. -/
def put (table : OverrideTable) (mic : String) (entry : Json) : OverrideTable :=
  ⟨Json.insert table.entries (Mic.normalize mic) entry⟩

/-- The table without the entry of a market. -/
def clear (table : OverrideTable) (mic : String) : OverrideTable :=
  ⟨table.entries.filter fun entry => entry.1 != Mic.normalize mic⟩

/-- The override of what is written under an identifier; null stands for nothing. -/
def parse [Platform] (mic : String) (raw : Json) : Except Failure (Option Override) :=
  match raw with
  | .null => .ok none
  | .str text =>
    match Json.load text with
    | .ok entry => (Override.ofEntry entry).map some
    | .error (.malformed ..) => .error (.overrideNotJson mic)
    | .error error => .error (.document error)
  | entry => (Override.ofEntry entry).map some

/-- The override under an identifier. -/
def lookup [Platform] (table : OverrideTable) (mic : String) : Except Failure (Option Override) :=
  parse mic (Json.member table.entries mic)

/-- What is written is what is there. -/
theorem member_put_self (table : OverrideTable) (mic : String) (entry : Json) :
    Json.member (table.put mic entry).entries (Mic.normalize mic) = entry := by
  simp [Json.member, put, Json.lookup_insert_self]

/-- Writing changes nothing under other identifiers. -/
theorem member_put_of_ne (table : OverrideTable) {mic other : String} (entry : Json)
    (h : other ≠ Mic.normalize mic) :
    Json.member (table.put mic entry).entries other = Json.member table.entries other := by
  simp [Json.member, put, Json.lookup_insert_of_ne _ _ h]

theorem lookup_filter_ne (entries : List (String × Json)) (name other : String) :
    (entries.filter fun entry => entry.1 != name).lookup other =
      if other = name then none else entries.lookup other := by
  induction entries with
  | nil => simp
  | cons e rest ih =>
    obtain ⟨n, v⟩ := e
    by_cases h : n = name
    · simp only [h, bne_self_eq_false, Bool.false_eq_true, not_false_eq_true, List.filter_cons_of_neg,
        ih, List.lookup_cons]
      by_cases ho : other = name <;> simp [ho, beq_false_of_ne]
    · simp only [List.filter_cons, bne_iff_ne, ne_eq, h, not_false_eq_true, if_true,
        List.lookup_cons, ih]
      by_cases ho : other = n
      · simp [ho, h]
      · simp [beq_false_of_ne ho]

/-- What is cleared is gone. -/
theorem member_clear_self (table : OverrideTable) (mic : String) :
    Json.member (table.clear mic).entries (Mic.normalize mic) = .null := by
  simp [Json.member, clear, lookup_filter_ne]

/-- Clearing changes nothing under other identifiers. -/
theorem member_clear_of_ne (table : OverrideTable) {mic other : String}
    (h : other ≠ Mic.normalize mic) :
    Json.member (table.clear mic).entries other = Json.member table.entries other := by
  simp [Json.member, clear, lookup_filter_ne, h]

end OverrideTable

end TradingStatus
