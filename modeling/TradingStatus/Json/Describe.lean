import TradingStatus.Binary64.Shortest
import TradingStatus.Json.Basic
import TradingStatus.Text.Numeral
import TradingStatus.Text.Quoted

/-! How messages show a value. Inside a value every text is quoted; a value that is itself a text is
shown bare or quoted, as the message asks. A value cannot be shown if a number in it has too many
digits or if values lie too deep inside each other. -/

namespace TradingStatus

/-- The text of a number inside a message. -/
def Binary64.description : Binary64 → String
  | nan => "nan"
  | infinite false => "inf"
  | infinite true => "-inf"
  | finite negative mantissa exponent => finiteText negative mantissa exponent

namespace Json

mutual

/-- A value with its texts quoted. -/
def inspect : Json → String
  | null => "None"
  | bool true => "True"
  | bool false => "False"
  | int n => toString n
  | float x => x.description
  | str s => Text.quoted s
  | arr items => "[" ++ ", ".intercalate (inspectItems items) ++ "]"
  | obj members => "\x7b" ++ ", ".intercalate (inspectMembers members) ++ "\x7d"

/-- The items of a list, each with its texts quoted. -/
def inspectItems : List Json → List String
  | [] => []
  | item :: rest => inspect item :: inspectItems rest

/-- The members of an object, each as its quoted name and value. -/
def inspectMembers : List (String × Json) → List String
  | [] => []
  | (name, value) :: rest => (Text.quoted name ++ ": " ++ inspect value) :: inspectMembers rest

end

/-- A value as a message shows it when it is a text: without quotes. -/
def describe : Json → String
  | str s => s
  | value => value.inspect

/-- Why a value cannot be shown. -/
inductive ShowError
  /-- A whole number has more digits than are converted. -/
  | tooLong
  /-- Values lie too deep inside each other. -/
  | tooDeep
deriving DecidableEq

/-- A whole number has no more digits than are converted. -/
def isShort (n : Int) : Bool := n.natAbs < tenTo Text.numeralLimit

mutual

/-- What is in the way of showing a value where values may lie inside each other so many deep. The
parts of a value are shown in their order. -/
def obstacle? : Json → Nat → Option ShowError
  | _, 0 => some .tooDeep
  | int n, _ + 1 => if isShort n then none else some .tooLong
  | arr items, room + 1 => obstacleItems? items room
  | obj members, room + 1 => obstacleMembers? members room
  | _, _ + 1 => none

/-- What is in the way of showing the items of a list. -/
def obstacleItems? : List Json → Nat → Option ShowError
  | [], _ => none
  | item :: rest, room => (obstacle? item room).or (obstacleItems? rest room)

/-- What is in the way of showing the members of an object. -/
def obstacleMembers? : List (String × Json) → Nat → Option ShowError
  | [], _ => none
  | (_, value) :: rest, room => (obstacle? value room).or (obstacleMembers? rest room)

end

end Json

end TradingStatus
