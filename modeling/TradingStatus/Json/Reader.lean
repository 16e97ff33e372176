import TradingStatus.Json.Basic
import TradingStatus.Text.Hex
import TradingStatus.Text.Numeral

/-! The reader of JSON texts. Every reading function takes the characters that are left and answers
what it read with those that are left then, or why it stopped and where: a place in the text is told
by the characters from it on.

Beyond the standard form the reader takes `NaN`, `Infinity` and `-Infinity`. In an object the last
of several members of one name counts, at the place of the first. How deep lists and objects may lie
inside each other can be limited. An escape for half of a pair that stands alone writes nothing that
a text can hold; reading stops there, as a reason of its own. -/

namespace TradingStatus.Json

/-- What is wrong with a text. -/
inductive Complaint
  | expectingValue
  | expectingName
  | expectingColon
  | expectingComma
  | extraData
  | unterminatedText
  | controlCharacter
  | badEscape
  | badUnicodeEscape
  | byteOrderMark
deriving DecidableEq

/-- What can have other values inside. -/
inductive Container
  | list
  | object
deriving DecidableEq

/-- Why reading stopped. -/
inductive Stop
  /-- The text is not JSON from the given characters on. -/
  | malformed (complaint : Complaint) (place : List Char)
  /-- A whole number has more digits than are converted. -/
  | tooLong (digits : Nat)
  /-- A list or an object lies inside too many others. -/
  | tooDeep (container : Container)
  /-- Half of a pair stands alone. -/
  | unpaired

/-- How many more lists and objects may lie inside each other, if that is limited. -/
abbrev Room := Option Nat

/-- The room inside a list or an object. -/
def Room.enter (container : Container) : Room → Except Stop Room
  | none => .ok none
  | some 0 => .error (.tooDeep container)
  | some (n + 1) => .ok (some n)

/-- The blanks between tokens. -/
def isGap (c : Char) : Bool := c == ' ' || c == '\t' || c == '\n' || c == '\r'

/-- What is left after a gap. -/
def skipGap (cs : List Char) : List Char := cs.dropWhile isGap

/-- The number that four hexadecimal digits write. A text cannot end with them. -/
def fourHex? : List Char → Option (Nat × List Char)
  | a :: b :: c :: d :: next :: rest => do
    let a ← Text.Hex.value? a
    let b ← Text.Hex.value? b
    let c ← Text.Hex.value? c
    let d ← Text.Hex.value? d
    return (((a * 16 + b) * 16 + c) * 16 + d, next :: rest)
  | _ => none

/-- The first half of a character written as a pair. -/
def isHighSurrogate (n : Nat) : Bool := 0xD800 ≤ n && n ≤ 0xDBFF

/-- The second half of a character written as a pair. -/
def isLowSurrogate (n : Nat) : Bool := 0xDC00 ≤ n && n ≤ 0xDFFF

/-- The character after a backslash stands for itself or for a control. -/
def simpleEscape? : Char → Option Char
  | '"' => some '"'
  | '\\' => some '\\'
  | '/' => some '/'
  | 'b' => some '\x08'
  | 'f' => some '\x0c'
  | 'n' => some '\n'
  | 'r' => some '\r'
  | 't' => some '\t'
  | _ => none

/-- The character with a number, and what follows it. Half of a pair has none. -/
def alone (n : Nat) (rest : List Char) : Except Stop (Char × List Char) :=
  if isHighSurrogate n || isLowSurrogate n then .error .unpaired else .ok (Char.ofNat n, rest)

/-- A character written by its number, from the `u` on. Two numbers that form a pair write one
character. -/
def unicodeEscape (cs : List Char) : Except Stop (Char × List Char) :=
  match fourHex? cs.tail with
  | none => .error (.malformed .badUnicodeEscape cs)
  | some (high, rest) =>
    match rest with
    | '\\' :: 'u' :: more =>
      if isHighSurrogate high then
        match fourHex? more with
        | none => .error (.malformed .badUnicodeEscape ('u' :: more))
        | some (low, after) =>
          if isLowSurrogate low then
            .ok (Char.ofNat (0x10000 + (high - 0xD800) * 0x400 + (low - 0xDC00)), after)
          else alone high rest
      else alone high rest
    | _ => alone high rest

/-- The contents of a text up to its closing quote. `opening` is the place of the opening quote. -/
def textBody (opening : List Char) : Nat → List Char → Except Stop (List Char × List Char)
  | 0, _ => .error (.malformed .unterminatedText opening)
  | _ + 1, [] => .error (.malformed .unterminatedText opening)
  | fuel + 1, c :: rest =>
    if c = '"' then .ok ([], rest)
    else if c = '\\' then
      match rest with
      | [] => .error (.malformed .unterminatedText opening)
      | e :: after =>
        if e = 'u' then do
          let (c, after) ← unicodeEscape rest
          let (cs, left) ← textBody opening fuel after
          return (c :: cs, left)
        else
          match simpleEscape? e with
          | none => .error (.malformed .badEscape (c :: rest))
          | some c => do
            let (cs, left) ← textBody opening fuel after
            return (c :: cs, left)
    else if c.toNat < 0x20 then .error (.malformed .controlCharacter (c :: rest))
    else do
      let (cs, left) ← textBody opening fuel rest
      return (c :: cs, left)

/-- A text, from its opening quote on. -/
def text (cs : List Char) : Except Stop (String × List Char) := do
  let (body, left) ← textBody cs cs.length cs.tail
  return (String.ofList body, left)

/-- The digits at the front, and what follows them. -/
def digitRun (cs : List Char) : List Nat × List Char :=
  ((cs.takeWhile Char.isDigit).map fun c => c.toNat - '0'.toNat, cs.dropWhile Char.isDigit)

/-- The digits of a fraction: a point and one digit at least. -/
def fraction (cs : List Char) : List Nat × List Char :=
  match cs with
  | '.' :: rest =>
    match digitRun rest with
    | ([], _) => ([], cs)
    | found => found
  | _ => ([], cs)

/-- A power of ten, if one is written. -/
def power? (cs : List Char) : Option (Int × List Char) :=
  match cs with
  | e :: rest =>
    if e = 'e' ∨ e = 'E' then
      let (negative, rest) := match rest with
        | '-' :: rest => (true, rest)
        | '+' :: rest => (false, rest)
        | _ => (false, rest)
      match digitRun rest with
      | ([], _) => none
      | (digits, left) =>
        let n : Int := Text.ofDigits digits
        some (if negative then -n else n, left)
    else none
  | [] => none

/-- A number after its sign; `place` is where it starts. -/
def unsigned (place : List Char) (negative : Bool) (cs : List Char) : Except Stop (Json × List Char) :=
  let whole := match cs with
    | '0' :: rest => ([0], rest)
    | _ => digitRun cs
  match whole with
  | ([], _) => .error (.malformed .expectingValue place)
  | (digits, rest) =>
    let (decimals, rest) := fraction rest
    match decimals, power? rest with
    | [], none =>
      if digits.length > Text.numeralLimit then .error (.tooLong digits.length)
      else
        let n : Int := Text.ofDigits digits
        .ok (.int (if negative then -n else n), rest)
    | decimals, power =>
      let (e, rest) := power.getD (0, rest)
      let value := Binary64.ofDecimal negative (Text.ofDigits (digits ++ decimals))
        (e - decimals.length)
      .ok (.float value, rest)

/-- Cuts a word off the front. -/
def word? (word cs : List Char) : Option (List Char) :=
  if word.isPrefixOf cs then some (cs.drop word.length) else none

/-- A name or number. -/
def plain (cs : List Char) : Except Stop (Json × List Char) :=
  match word? "null".toList cs, word? "true".toList cs, word? "false".toList cs,
    word? "NaN".toList cs, word? "Infinity".toList cs, word? "-Infinity".toList cs with
  | some rest, _, _, _, _, _ => .ok (.null, rest)
  | _, some rest, _, _, _, _ => .ok (.bool true, rest)
  | _, _, some rest, _, _, _ => .ok (.bool false, rest)
  | _, _, _, some rest, _, _ => .ok (.float .nan, rest)
  | _, _, _, _, some rest, _ => .ok (.float (.infinite false), rest)
  | _, _, _, _, _, some rest => .ok (.float (.infinite true), rest)
  | _, _, _, _, _, _ =>
    match cs with
    | '-' :: rest => unsigned cs true rest
    | _ => unsigned cs false cs

mutual

/-- A value at the front. -/
def value (room : Room) : Nat → List Char → Except Stop (Json × List Char)
  | 0, cs => .error (.malformed .expectingValue cs)
  | fuel + 1, cs =>
    match cs with
    | [] => .error (.malformed .expectingValue [])
    | c :: rest =>
      if c = '"' then do
        let (s, left) ← text cs
        return (.str s, left)
      else if c = '[' then do
        let room ← room.enter .list
        match skipGap rest with
        | ']' :: left => return (.arr [], left)
        | inner =>
          let (items, left) ← items room fuel inner
          return (.arr items, left)
      else if c = '\x7b' then do
        let room ← room.enter .object
        match skipGap rest with
        | '\x7d' :: left => return (.obj [], left)
        | inner =>
          let (members, left) ← members room fuel [] inner
          return (.obj members, left)
      else plain cs

/-- The items of a list that has one at least, and its end. -/
def items (room : Room) : Nat → List Char → Except Stop (List Json × List Char)
  | 0, cs => .error (.malformed .expectingValue cs)
  | fuel + 1, cs => do
    let (item, left) ← value room fuel cs
    match skipGap left with
    | ']' :: left => return ([item], left)
    | ',' :: left =>
      let (rest, left) ← items room fuel (skipGap left)
      return (item :: rest, left)
    | left => .error (.malformed .expectingComma left)

/-- The members of an object that has one at least, after those already read, and its end. -/
def members (room : Room) :
    Nat → List (String × Json) → List Char → Except Stop (List (String × Json) × List Char)
  | 0, _, cs => .error (.malformed .expectingName cs)
  | fuel + 1, found, cs =>
    match cs with
    | '"' :: _ => do
      let (name, left) ← text cs
      match skipGap left with
      | ':' :: left =>
        let (v, left) ← value room fuel (skipGap left)
        let found := insert found name v
        match skipGap left with
        | '\x7d' :: left => return (found, left)
        | ',' :: left => members room fuel found (skipGap left)
        | left => .error (.malformed .expectingComma left)
      | left => .error (.malformed .expectingColon left)
    | _ => .error (.malformed .expectingName cs)

end

/-- The document that a whole text writes. -/
def document (room : Room) (cs : List Char) : Except Stop Json :=
  match cs with
  | '\uFEFF' :: _ => .error (.malformed .byteOrderMark cs)
  | _ => do
    let (v, left) ← value room (2 * cs.length + 2) (skipGap cs)
    match skipGap left with
    | [] => return v
    | left => .error (.malformed .extraData left)

/-- Why a text is no document: the complaint and its place in the text, as lines and columns from
one and as characters from zero. -/
inductive ReadError
  | malformed (complaint : Complaint) (line column position : Nat)
  | tooLong (digits : Nat)
  | tooDeep (container : Container)
  | unpaired
deriving DecidableEq

/-- The place in a text at which the given characters are left. -/
def Stop.locate (whole : List Char) : Stop → ReadError
  | .tooLong digits => .tooLong digits
  | .tooDeep container => .tooDeep container
  | .unpaired => .unpaired
  | .malformed complaint place =>
    let before := whole.take (whole.length - place.length)
    let line := before.count '\n' + 1
    let column := (before.reverse.takeWhile (· != '\n')).length + 1
    .malformed complaint line column before.length

/-- Reads a document in which lists and objects lie inside each other no deeper than there is room
for. -/
def readWithin (room : Room) (s : String) : Except ReadError Json :=
  match document room s.toList with
  | .ok v => .ok v
  | .error stop => .error (stop.locate s.toList)

/-- Reads a document of any depth. -/
def read (s : String) : Except ReadError Json := readWithin none s

/-- The wording for a list or an object. -/
def Container.name : Container → String
  | list => "array"
  | object => "object"

/-- The wording of a complaint. -/
def Complaint.message : Complaint → String
  | expectingValue => "Expecting value"
  | expectingName => "Expecting property name enclosed in double quotes"
  | expectingColon => "Expecting ':' delimiter"
  | expectingComma => "Expecting ',' delimiter"
  | extraData => "Extra data"
  | unterminatedText => "Unterminated string starting at"
  | controlCharacter => "Invalid control character at"
  | badEscape => "Invalid \\escape"
  | badUnicodeEscape => "Invalid \\uXXXX escape"
  | byteOrderMark => "Unexpected UTF-8 BOM (decode using utf-8-sig)"

end TradingStatus.Json
