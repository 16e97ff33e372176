import TradingStatus.Failure
import TradingStatus.Json.Writer

/-! The text that is signed for some fields: a JSON object of them in the order of their names, without
blanks between its tokens. The order in which the fields are given does not matter. -/

namespace TradingStatus

/-- Fields of texts, as they are signed. -/
abbrev SignedFields := List (String × String)

namespace SignedFields

/-- A field may stand before another one: names go by the numbers of their characters. -/
def precedes (a b : String × String) : Bool := !decide (b.1 < a.1)

/-- The fields in the order of their names. -/
def sorted (fields : SignedFields) : SignedFields := fields.mergeSort precedes

/-- The fields as an object. -/
def toJson (fields : SignedFields) : Json := .obj (fields.map fun (name, value) => (name, .str value))

/-- The text that is signed. -/
def payload (fields : SignedFields) : String := fields.sorted.toJson.render

/-- The bytes that are signed. -/
def payloadBytes (fields : SignedFields) : List UInt8 := Text.Utf8.encode fields.payload

/-- The fields of an object, all of which have to be texts. -/
def ofMembers (members : List (String × Json)) : Except Failure SignedFields :=
  members.mapM fun (name, value) =>
    match value with
    | .str text => .ok (name, text)
    | _ => .error .fieldsNotText

end SignedFields

end TradingStatus
