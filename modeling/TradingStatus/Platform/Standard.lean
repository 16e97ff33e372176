import TradingStatus.Platform
import TradingStatus.Time.Timestamp.Iso

/-! The platform that programs are built for here. -/

namespace TradingStatus

/-- The platform with the library's own reader of timestamps. The depths are those of a stack of a
thousand frames, some of which are in use. -/
instance Platform.standard : Platform where
  readTimestamp := Timestamp.ofIso
  readingDepth := 960
  showingDepth := 980
  readingDepth_lt := by decide

end TradingStatus
