import TradingStatus.Files.Document
import TradingStatus.Market.Calendar

/-! Calendars in files. -/

namespace TradingStatus.Calendar

/-- The line that tells which markets were found in a file. -/
def loadedText (calendar : Calendar) : String :=
  "Loaded " ++ toString calendar.size ++ " market calendars: " ++ ", ".intercalate calendar.supported

/-- The calendar of the document in a file. -/
def load [Platform] (zones : ZoneDatabase) (files : Files) (path : Option String) :
    Logged (Except Failure Calendar) :=
  match files.loadStrict path >>= ofJson zones with
  | .error failure => pure (.error failure)
  | .ok calendar => do
    Logged.write .debug calendar.loadedText
    return .ok calendar

end TradingStatus.Calendar
