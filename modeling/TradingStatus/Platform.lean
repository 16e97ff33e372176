import TradingStatus.Time.Timestamp

/-! What is taken from the platform that a program runs on: its reader of timestamps, and how deep
values may lie inside each other before its stack is used up. All that is relied upon is that a
value that can be read can be shown as well. -/

namespace TradingStatus

/-- What a program takes from its platform. -/
class Platform where
  /-- The timestamp that a text writes in a form of the international standard. -/
  readTimestamp : String → Except Timestamp.TextError Timestamp
  /-- How many lists and objects may lie inside each other in a document that is read. -/
  readingDepth : Nat
  /-- How many values may lie inside each other in one that a message shows. -/
  showingDepth : Nat
  /-- What is shown is shown from higher up in the stack than it was read. -/
  readingDepth_lt : readingDepth < showingDepth

/-- Reads a document as far as the platform goes. -/
def Json.load [Platform] (s : String) : Except Json.ReadError Json :=
  Json.readWithin (some Platform.readingDepth) s

/-- A failure whose message shows a value, or the failure to show it. -/
def Failure.showing [Platform] (value : Json) (failure : Failure) : Failure :=
  match value.obstacle? Platform.showingDepth with
  | none => failure
  | some error => .unshown error

end TradingStatus
