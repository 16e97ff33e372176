/-! Line ends. A text may end its lines with a line feed, with a carriage return, or with both;
`unifyLineEnds` leaves line feeds only. -/

namespace TradingStatus.Text

/-- A text whose lines all end with a line feed. -/
def unifyLineEnds : List Char → List Char
  | [] => []
  | '\r' :: '\n' :: rest => '\n' :: unifyLineEnds rest
  | '\r' :: rest => '\n' :: unifyLineEnds rest
  | c :: rest => c :: unifyLineEnds rest

end TradingStatus.Text
