import TradingStatus.Main
import TradingStatus.Shipped
import TradingStatus.Proofs.Results
import TradingStatus.Proofs.Time.Readings
import TradingStatus.Proofs.Time.WeekendChanges
import TradingStatus.Proofs.Schedule.Agreement
import TradingStatus.Proofs.Receipt.Attempt
import TradingStatus.Proofs.Receipt.Cascade
import TradingStatus.Proofs.Override.Entries
import TradingStatus.Proofs.Service.Answers
import TradingStatus.Proofs.Service.Earned
import TradingStatus.Proofs.Signing.Signatures
import TradingStatus.Proofs.Settings.Wiring
import TradingStatus.Proofs.Settings.Verification
import TradingStatus.Proofs.Json.Texts
import TradingStatus.Proofs.Signing.Payload
import TradingStatus.Proofs.Market.Holidays
import TradingStatus.Proofs.Schedule.Order
import TradingStatus.Proofs.Time.WallClocks
import TradingStatus.Proofs.Schedule.Coverage
import TradingStatus.Proofs.Service.Prospects
import TradingStatus.Proofs.Service.Unverified
import TradingStatus.Proofs.Service.Replies
import TradingStatus.Proofs.Service.WithoutOverrides
import TradingStatus.Proofs.CommandLine.Printed
import TradingStatus.Proofs.Service.Shown
import TradingStatus.Proofs.Service.Access
import TradingStatus.Proofs.Override.Spellings
import TradingStatus.Proofs.Service.Isolation
import TradingStatus.Proofs.Service.Instants
import TradingStatus.Proofs.Time.Offsets
import TradingStatus.Proofs.Market.Loaded
import TradingStatus.Proofs.Schedule.Totality
import TradingStatus.Proofs.Service.Dependable
import TradingStatus.Proofs.Receipt.Identifiers
import TradingStatus.Proofs.Service.Identifiers
import TradingStatus.Proofs.Settings.Secrets
import TradingStatus.Proofs.Json.Layouts
import TradingStatus.Proofs.Settings.Refusals
import TradingStatus.Proofs.Settings.Published
import TradingStatus.Proofs.Settings.StartUp
import TradingStatus.Proofs.Service.Plain
import TradingStatus.Proofs.CommandLine.Endings
import TradingStatus.Proofs.Time.Weekdays
import TradingStatus.Proofs.Schedule.Openings
import TradingStatus.Proofs.Text.Numerals
import TradingStatus.Proofs.Time.CivilDates
import TradingStatus.Proofs.Market.Exported
import TradingStatus.Proofs.Text.Upper
import TradingStatus.Proofs.Service.Reachable
import TradingStatus.Proofs.Override.Format
import TradingStatus.Proofs.Settings.Registry
import TradingStatus.Proofs.Settings.Reloading
import TradingStatus.Proofs.Time.Printed
import TradingStatus.Proofs.Signing.Exported
import TradingStatus.Proofs.Text.Utf8
import TradingStatus.Proofs.Text.Lines
import TradingStatus.Proofs.Time.LastDay
import TradingStatus.Proofs.Signing.Entries
import TradingStatus.Proofs.Json.Progress
import TradingStatus.Proofs.Json.Tokens
import TradingStatus.Proofs.Json.LineEnds
import TradingStatus.Proofs.Files.Loading
import TradingStatus.Proofs.Text.DigitOrder
import TradingStatus.Proofs.Time.Rendered
import TradingStatus.Proofs.Receipt.Lifetime
import TradingStatus.Proofs.Override.LastWritten
import TradingStatus.Proofs.Signing.Forms
import TradingStatus.Proofs.Text.Base64
import TradingStatus.Proofs.Signing.Pem
import TradingStatus.Proofs.Signing.Documents
