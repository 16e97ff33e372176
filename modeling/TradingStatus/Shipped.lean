import TradingStatus.Json.Writer
import TradingStatus.Platform.Standard

/-! What the program comes with: its platform, and documents of seven markets with their holidays of
2026, no keys and no overrides. -/

namespace TradingStatus.Shipped

/-- A pair of opening and closing times. -/
def hours (opening closing : String) : Json :=
  .obj [("open", .str opening), ("close", .str closing)]

/-- The entry of a market; days that close early are given with their closing times. -/
def market (name timezone : String) (sessions : List (String × Json)) (holidays : List String)
    (earlyCloses : List (String × String)) : Json :=
  .obj [
    ("name", .str name),
    ("timezone", .str timezone),
    ("sessions_hours", .obj sessions),
    ("holidays", .obj [("2026", .arr (holidays.map .str))]),
    ("early_closes", .arr (earlyCloses.map fun (day, closing) =>
      .obj [("date", .str day), ("close", .str closing)]))]

def newYork : Json :=
  market "New York Stock Exchange" "America/New_York"
    [("regular", hours "09:30" "16:00")]
    ["2026-01-01", "2026-01-19", "2026-02-16", "2026-04-03", "2026-05-25", "2026-06-19",
      "2026-07-03", "2026-09-07", "2026-11-26", "2026-12-25"]
    [("2026-11-27", "13:00"), ("2026-12-24", "13:00")]

def nasdaq : Json :=
  market "NASDAQ" "America/New_York"
    [("regular", hours "09:30" "16:00")]
    ["2026-01-01", "2026-01-19", "2026-02-16", "2026-04-03", "2026-05-25", "2026-06-19",
      "2026-07-03", "2026-09-07", "2026-11-26", "2026-12-25"]
    [("2026-11-27", "13:00"), ("2026-12-24", "13:00")]

def london : Json :=
  market "London Stock Exchange" "Europe/London"
    [("regular", hours "08:00" "16:30")]
    ["2026-01-01", "2026-04-03", "2026-04-06", "2026-05-04", "2026-05-25", "2026-08-31",
      "2026-12-25", "2026-12-28"]
    [("2026-12-24", "12:30"), ("2026-12-31", "12:30")]

def tokyo : Json :=
  market "Japan Exchange Group (Tokyo)" "Asia/Tokyo"
    [("regular", hours "09:00" "15:30"),
      ("lunch_break", hours "11:30" "12:30")]
    ["2026-01-01", "2026-01-12", "2026-02-11", "2026-02-23", "2026-03-20", "2026-04-29",
      "2026-05-03", "2026-05-04", "2026-05-05", "2026-05-06", "2026-07-20", "2026-08-10",
      "2026-09-21", "2026-09-22", "2026-10-12", "2026-11-03", "2026-11-23", "2026-12-31"]
    []

def paris : Json :=
  market "Euronext Paris" "Europe/Paris"
    [("regular", hours "09:00" "17:30")]
    ["2026-01-01", "2026-04-03", "2026-04-06", "2026-05-01", "2026-05-14", "2026-05-25",
      "2026-07-14", "2026-08-15", "2026-11-01", "2026-11-11", "2026-12-25", "2026-12-26"]
    [("2026-12-24", "14:05"), ("2026-12-31", "14:05")]

def hongKong : Json :=
  market "Hong Kong Exchanges and Clearing" "Asia/Hong_Kong"
    [("regular", hours "09:30" "16:00"),
      ("lunch_break", hours "12:00" "13:00")]
    ["2026-01-01", "2026-02-17", "2026-02-18", "2026-04-03", "2026-04-04", "2026-04-06",
      "2026-05-01", "2026-05-15", "2026-06-10", "2026-07-01", "2026-10-01", "2026-10-29",
      "2026-12-25", "2026-12-26"]
    [("2026-02-16", "12:00")]

def singapore : Json :=
  market "Singapore Exchange" "Asia/Singapore"
    [("regular", hours "09:00" "17:00")]
    ["2026-01-01", "2026-02-17", "2026-02-18", "2026-04-03", "2026-05-01", "2026-06-02",
      "2026-08-09", "2026-11-14", "2026-12-25"]
    []

/-- The document of the markets. -/
def markets : Json :=
  .obj [
    ("XNYS", newYork),
    ("XNAS", nasdaq),
    ("XLON", london),
    ("XJPX", tokyo),
    ("XPAR", paris),
    ("XHKG", hongKong),
    ("XSES", singapore)]

/-- The document of the published keys. -/
def keys : Json := .arr []

/-- The document of the overrides. -/
def overrides : Json := .obj []

end TradingStatus.Shipped
