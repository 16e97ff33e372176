import TradingStatus.Binary64.Shortest
import TradingStatus.Json.Basic
import TradingStatus.Text.Quoted

/-! JSON texts. `compact` leaves no blank between tokens; `indented` puts every item and member on a
line of its own, two columns further in than what it belongs to. Only the quote, the backslash and
the controls are escaped in a text. -/

namespace TradingStatus.Json

/-- One character inside a text. -/
def escaped (c : Char) : List Char :=
  if c = '"' then ['\\', '"']
  else if c = '\\' then ['\\', '\\']
  else if c = '\n' then ['\\', 'n']
  else if c = '\r' then ['\\', 'r']
  else if c = '\t' then ['\\', 't']
  else if c = '\x08' then ['\\', 'b']
  else if c = '\x0c' then ['\\', 'f']
  else if c.toNat < 0x20 then '\\' :: 'u' :: Text.hexDigits 4 c.toNat
  else [c]

/-- A text in double quotes. -/
def literal (s : String) : List Char := '"' :: s.toList.flatMap escaped ++ ['"']

/-- A number in double precision. -/
def number : Binary64 → String
  | .nan => "NaN"
  | .infinite false => "Infinity"
  | .infinite true => "-Infinity"
  | .finite negative mantissa exponent => Binary64.finiteText negative mantissa exponent

/-- The text of a document without parts. -/
def scalar : Json → List Char
  | null => "null".toList
  | bool true => "true".toList
  | bool false => "false".toList
  | int n => (toString n).toList
  | float x => (number x).toList
  | str s => literal s
  | arr _ => "[]".toList
  | obj _ => "\x7b\x7d".toList

mutual

/-- A document without blanks between its tokens. -/
def compact : Json → List Char
  | arr items => '[' :: compactItems items ++ [']']
  | obj members => '\x7b' :: compactMembers members ++ ['\x7d']
  | value => scalar value

def compactItems : List Json → List Char
  | [] => []
  | [item] => compact item
  | item :: rest => compact item ++ ',' :: compactItems rest

def compactMembers : List (String × Json) → List Char
  | [] => []
  | [(name, value)] => literal name ++ ':' :: compact value
  | (name, value) :: rest =>
    literal name ++ ':' :: compact value ++ ',' :: compactMembers rest

end

/-- A new line, `depth` steps in. -/
def lineBreak (depth : Nat) : List Char := '\n' :: List.replicate (2 * depth) ' '

mutual

/-- A document `depth` steps in, each of its parts on a line of its own. -/
def indentedAt (depth : Nat) : Json → List Char
  | arr (item :: rest) =>
    '[' :: lineBreak (depth + 1) ++ indentedItems (depth + 1) (item :: rest) ++
      lineBreak depth ++ [']']
  | obj (member :: rest) =>
    '\x7b' :: lineBreak (depth + 1) ++ indentedMembers (depth + 1) (member :: rest) ++
      lineBreak depth ++ ['\x7d']
  | value => scalar value

def indentedItems (depth : Nat) : List Json → List Char
  | [] => []
  | [item] => indentedAt depth item
  | item :: rest => indentedAt depth item ++ ',' :: lineBreak depth ++ indentedItems depth rest

def indentedMembers (depth : Nat) : List (String × Json) → List Char
  | [] => []
  | [(name, value)] => literal name ++ ':' :: ' ' :: indentedAt depth value
  | (name, value) :: rest =>
    literal name ++ ':' :: ' ' :: indentedAt depth value ++ ',' :: lineBreak depth ++
      indentedMembers depth rest

end

/-- A document laid out for reading. -/
def indented (value : Json) : String := String.ofList (indentedAt 0 value)

/-- A document on one line. -/
def render (value : Json) : String := String.ofList (compact value)

end TradingStatus.Json
