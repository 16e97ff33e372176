import TradingStatus.Text.Blank
import TradingStatus.Text.Upper

/-! Market identifiers: trimmed upper-case texts. -/

namespace TradingStatus.Mic

/-- The identifier that a text means. -/
def normalize (s : String) : String := Text.upper (Text.trim s)

/-- The market that is meant when none is named. -/
def default : String := "XNYS"

/-- The identifier that an optional text means; an absent or blank one means the given default. -/
def orDefault (mic : Option String) (default : String) : String :=
  match mic with
  | none => default
  | some s => if Text.isBlankText s then default else normalize s

end TradingStatus.Mic
