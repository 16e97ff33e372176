import TradingStatus.Binary64

/-! JSON documents: whole numbers of any size are told apart from numbers with a fraction, and the
members of an object keep their order. -/

namespace TradingStatus

/-- A JSON document. -/
inductive Json
  | null
  | bool (value : Bool)
  | int (value : Int)
  | float (value : Binary64)
  | str (value : String)
  | arr (items : List Json)
  | obj (members : List (String × Json))
deriving Inhabited

namespace Json

/-- Members with one more: a name that is there already gets the new value and keeps its place. -/
def insert (members : List (String × Json)) (name : String) (value : Json) :
    List (String × Json) :=
  match members with
  | [] => [(name, value)]
  | (n, v) :: rest => if n = name then (n, value) :: rest else (n, v) :: insert rest name value

/-- The value of a member, null where there is no such member. -/
def member (members : List (String × Json)) (name : String) : Json :=
  (members.lookup name).getD null

/-- A value is vacant when it is null, false, zero, or without contents. -/
def isVacant : Json → Bool
  | null | bool false | int 0 | arr [] | obj [] => true
  | float x => x.isZero
  | str s => s.isEmpty
  | _ => false

/-- An optional text as a value. -/
def ofText? : Option String → Json
  | some s => str s
  | none => null

/-- The text of a value that is one. -/
def text? : Json → Option String
  | str s => some s
  | _ => none

theorem lookup_insert_self (members : List (String × Json)) (name : String) (value : Json) :
    (insert members name value).lookup name = some value := by
  induction members with
  | nil => simp [insert]
  | cons m rest ih =>
    obtain ⟨n, v⟩ := m
    by_cases h : n = name
    · simp [insert, h]
    · simp [insert, h, List.lookup_cons, ih, beq_false_of_ne (Ne.symm h)]

theorem lookup_insert_of_ne (members : List (String × Json)) {name other : String} (value : Json)
    (h : other ≠ name) : (insert members name value).lookup other = members.lookup other := by
  induction members with
  | nil => simp [insert, List.lookup_cons, beq_false_of_ne h]
  | cons m rest ih =>
    obtain ⟨n, v⟩ := m
    by_cases hn : n = name
    · subst hn
      simp [insert, List.lookup_cons, beq_false_of_ne h]
    · simp [insert, hn, List.lookup_cons, ih]

end Json

end TradingStatus
