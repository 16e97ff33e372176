import TradingStatus.Json.Describe
import TradingStatus.Json.Reader
import TradingStatus.Text.Utf8
import TradingStatus.Time.Date

/-! What can go wrong: every cause with what there is to say about it, the kind it belongs to, and
its wording. Which kinds a caller recovers from is decided on the kind, never on the wording. -/

namespace TradingStatus

/-- The kinds of causes. -/
inductive FailureKind
  /-- A value is of the right sort but not acceptable. -/
  | value
  /-- A value is of the wrong sort. -/
  | sort
  /-- A result is beyond what can be held. -/
  | overflow
  | missingFile
  | directory
  | encoding
  | document
  | zoneName
  | unknownMarket
  | calendar
  | store
  | entry
  | signing
  | parameter
  /-- Something that the program relies on gives up: a collaborator, or the stack. -/
  | collaborator
deriving DecidableEq

/-- The kinds that are kinds of unacceptable values too. -/
def FailureKind.isValue : FailureKind → Bool
  | value | encoding | document | calendar | entry => true
  | _ => false

/-- The kinds that come from the file system. -/
def FailureKind.isFile : FailureKind → Bool
  | missingFile | directory => true
  | _ => false

/-- What went wrong. -/
inductive Failure
  -- dates and instants
  | date (error : DateError)
  | dateText (text : String)
  | dateNotText
  | hour
  | minute
  | second
  | microsecond
  /-- A clock that is a day ahead of UTC or behind it, or more. -/
  | offset (seconds : Int)
  | outOfRange
  | instantAbsent
  | instantNaive
  | mixedClocks
  /-- Two instants, one of which or both are absent, compared by a sign. -/
  | absentCompared (sign : String) (leftAbsent rightAbsent : Bool)
  | absentExtended
  | durationDays (days : Int)
  | durationHuge
  | durationNotNumber
  | durationInfinite
  -- time zones
  | zoneUnknown (name : String)
  | zoneAbsolute (name : String)
  | zoneNotNormalized (name : String)
  | zoneOutside (name : String)
  | zoneNul
  -- values of any origin
  | notText (field : String)
  | blank (field : String)
  | numeral (text : String) (error : Text.NumeralError)
  -- trading hours
  | clockForm (field : String)
  | clockRange (field : String)
  | hoursOrder
  | earlyCloseDay
  | earlyCloseEntry (mic : String) (value : Json)
  | earlyCloseDate (mic : String) (value : Json)
  -- markets
  | marketEntry (mic : String) (value : Json)
  | marketSessions (mic : String) (value : Json)
  | marketHours (label mic : String) (value : Json)
  | marketWithoutHours (mic : String)
  | marketEarlyCloses (mic : String) (value : Json)
  | marketHolidays (mic : String) (value : Json)
  | holidayYear (mic year : String)
  | holidayDates (mic year : String)
  | holidayStray (mic : String) (year : Int) (days : List Date)
  | timezone (name : String)
  | regularNotHours
  | lunchNotHours
  | lunchOutside (mic : String)
  | earlyCloseOutside (mic : String) (day : Date)
  -- calendars
  | marketsMissing
  | marketsInvalid (value : Json)
  | marketsEmpty
  | marketRepeated (mic : String)
  | marketNotMarket
  | unknownMarket (mic : String) (supported : List String)
  | notCalendar
  | lookahead
  | calendar (path : String) (cause : Failure)
  -- files and documents
  | pathAbsent
  | fileMissing (path : String)
  | isDirectory (path : String)
  | encoding (error : Text.Utf8.Error)
  | document (error : Json.ReadError)
  /-- A value that a message is to show cannot be shown. -/
  | unshown (error : Json.ShowError)
  -- overrides
  | overrideEntry (value : Json)
  | overrideStatus (value : Json)
  | overrideReason
  | overrideExpires (value : Json)
  | overrideExpiresText (text : String)
  | overrideNotJson (mic : String)
  | overrideFile (path : String)
  /-- The service that holds the overrides does not answer, for a reason of its own. -/
  | storeSilent (reason : String)
  -- signing
  | fieldsNotText
  | secretMissing
  | secretCorrupt
  | secretOtherKey
  | signing (reason : String)
  /-- The signing backend does not answer, for a reason of its own. -/
  | signingUnavailable (reason : String)
  -- keys
  | keyEntry (value : Json)
  | keyInstant (field : String) (value : Json)
  | keyInstantText (field text : String)
  | keyWithoutStart
  | keyWindow
  | keyRepeated (id : String)
  | keysNotList (path : String)
  -- receipts
  | statusName (value : Json)
  | sourceName (value : Json)
  | lifetime
  /-- The schedule does not answer, for a reason of its own. -/
  | engineBroken (reason : String)
  -- settings
  | parameterMissing (name : String)
  | variableNul
  | variableName
  | logLevel (name : String)

namespace Failure

/-- The kind of a cause. -/
def kind : Failure → FailureKind
  | dateNotText | instantAbsent | mixedClocks | absentCompared .. | absentExtended | notText _
  | earlyCloseDay | regularNotHours | lunchNotHours | marketNotMarket | notCalendar | pathAbsent
  | fieldsNotText => .sort
  | date (.size _) | outOfRange | durationDays _ | durationHuge | durationInfinite => .overflow
  | fileMissing _ => .missingFile
  | isDirectory _ => .directory
  | encoding _ => .encoding
  | document (.malformed ..) => .document
  | zoneUnknown _ => .zoneName
  | unknownMarket .. => .unknownMarket
  | calendar .. => .calendar
  | overrideEntry _ | overrideStatus _ | overrideReason | overrideExpires _
  | overrideExpiresText _ => .entry
  | overrideNotJson _ | overrideFile _ | storeSilent _ => .store
  | secretMissing | secretCorrupt | secretOtherKey | signing _ | signingUnavailable _ => .signing
  | document (.tooDeep _) | document .unpaired | unshown .tooDeep | engineBroken _ => .collaborator
  | parameterMissing _ => .parameter
  | _ => .value

/-- The wording for numbers that are too long. -/
def tooLongMessage (digits : Nat) : String :=
  "Exceeds the limit (" ++ toString Text.numeralLimit ++
    " digits) for integer string conversion: value has " ++ toString digits ++
    " digits; use sys.set_int_max_str_digits() to increase the limit"

/-- The wording for values that cannot be shown. -/
def unshownMessage : Json.ShowError → String
  | .tooLong =>
    "Exceeds the limit (" ++ toString Text.numeralLimit ++
      " digits) for integer string conversion; use sys.set_int_max_str_digits() to increase the limit"
  | .tooDeep => "maximum recursion depth exceeded while getting the repr of an object"

/-- The wording for bytes that are no text. -/
def encodingMessage (e : Text.Utf8.Error) : String :=
  let what := match e.flaw with
    | .start => "invalid start byte"
    | .continuation => "invalid continuation byte"
    | .cutOff => "unexpected end of data"
  let place :=
    if e.length = 1 then
      "byte 0x" ++ String.ofList (Text.hexDigits 2 e.byte.toNat) ++ " in position " ++
        toString e.position
    else
      "bytes in position " ++ toString e.position ++ "-" ++ toString (e.position + e.length - 1)
  "'utf-8' codec can't decode " ++ place ++ ": " ++ what

/-- The wording for a number that is too far from zero. -/
def excessMessage : Excess → String
  | .word => "Python int too large to convert to C long"
  | .above => "signed integer is greater than maximum"
  | .below => "signed integer is less than minimum"

/-- The wording for an offset of a day or more. -/
def offsetMessage (seconds : Int) : String :=
  let days := seconds / 86400
  let rest := seconds % 86400
  "offset must be a timedelta strictly between -timedelta(hours=24) and timedelta(hours=24), " ++
    "not datetime.timedelta(days=" ++ toString days ++
    (if rest = 0 then "" else ", seconds=" ++ toString rest) ++ ")."

/-- The wording for an instant in a comparison or a sum. -/
def instantName (absent : Bool) : String := if absent then "'NoneType'" else "'datetime.datetime'"

/-- The wording of a cause. -/
def message : Failure → String
  | date (.size excess) => excessMessage excess
  | date (.year value) => "year " ++ toString value ++ " is out of range"
  | date .month => "month must be in 1..12"
  | date .day => "day is out of range for month"
  | dateText text => "Invalid isoformat string: " ++ Text.quoted text
  | dateNotText => "fromisoformat: argument must be str"
  | hour => "hour must be in 0..23"
  | minute => "minute must be in 0..59"
  | second => "second must be in 0..59"
  | microsecond => "microsecond must be in 0..999999"
  | offset seconds => offsetMessage seconds
  | outOfRange => "date value out of range"
  | instantAbsent => "`instant` must be a `datetime`"
  | instantNaive => "`instant` must be timezone-aware"
  | mixedClocks => "can't compare offset-naive and offset-aware datetimes"
  | absentCompared sign leftAbsent rightAbsent =>
    "'" ++ sign ++ "' not supported between instances of " ++ instantName leftAbsent ++ " and " ++
      instantName rightAbsent
  | absentExtended =>
    "unsupported operand type(s) for +: " ++ instantName true ++ " and 'datetime.timedelta'"
  | durationDays days => "days=" ++ toString days ++ "; must have magnitude <= 999999999"
  | durationHuge => "Python int too large to convert to C int"
  | durationNotNumber => "cannot convert float NaN to integer"
  | durationInfinite => "cannot convert float infinity to integer"
  | zoneUnknown name => Text.quoted ("No time zone found with key " ++ name)
  | zoneAbsolute name => "ZoneInfo keys may not be absolute paths, got: " ++ name
  | zoneNotNormalized name => "ZoneInfo keys must be normalized relative paths, got: " ++ name
  | zoneOutside name => "ZoneInfo keys must refer to subdirectories of TZPATH, got: " ++ name
  | zoneNul | variableNul => "embedded null byte"
  | notText field => "`" ++ field ++ "` must be a string"
  | blank field => "`" ++ field ++ "` must be a non-empty string"
  | numeral text .malformed =>
    "invalid literal for int() with base 10: " ++
      String.ofList ((Text.quoted text).toList.take 200)
  | numeral _ (.tooLong digits) => tooLongMessage digits
  | clockForm field => "`" ++ field ++ "` must be in 'HH:MM' format"
  | clockRange field => "`" ++ field ++ "` must be a valid time between 00:00 and 23:59"
  | hoursOrder => "`open` must be < `close`"
  | earlyCloseDay => "`date` must be a `datetime.date`"
  | earlyCloseEntry mic value =>
    "Early close of '" ++ mic ++ "' is invalid: '" ++ value.describe ++ "'"
  | earlyCloseDate mic value =>
    "Early close date of '" ++ mic ++ "' is invalid: '" ++ value.describe ++ "'"
  | marketEntry mic value =>
    "Market entry of '" ++ mic ++ "' is invalid: '" ++ value.describe ++ "'"
  | marketSessions mic value =>
    "The sessions hours of '" ++ mic ++ "' are invalid: '" ++ value.describe ++ "'"
  | marketHours label mic value =>
    label ++ " hours of '" ++ mic ++ "' are invalid: '" ++ value.describe ++ "'"
  | marketWithoutHours mic => "The regular session of '" ++ mic ++ "' is not defined"
  | marketEarlyCloses mic value =>
    "Early closes of '" ++ mic ++ "' are invalid: '" ++ value.describe ++ "'"
  | marketHolidays mic value =>
    "Holidays of '" ++ mic ++ "' are invalid: '" ++ value.describe ++ "'"
  | holidayYear mic year => "Holiday year of '" ++ mic ++ "' is invalid: '" ++ year ++ "'"
  | holidayDates mic year => "Holidays of '" ++ mic ++ "' for " ++ year ++ " are invalid"
  | holidayStray mic year days =>
    "Holidays of '" ++ mic ++ "' for " ++ toString year ++ " contain dates of another year: " ++
      ", ".intercalate (days.map Date.isoText)
  | timezone name => "Invalid timezone: '" ++ name ++ "'"
  | regularNotHours => "`regular` must be an instance of `Hours`"
  | lunchNotHours => "`lunch_break` must be `Hours | None`"
  | lunchOutside mic => "`lunch_break` of '" ++ mic ++ "' must lie inside the regular session"
  | earlyCloseOutside mic day =>
    "Early close of '" ++ mic ++ "' on " ++ day.isoText ++ " must fall inside the regular session"
  | marketsMissing => "Parameter 'markets' is not defined"
  | marketsInvalid value => "Parameter 'markets' is invalid: " ++ value.describe
  | marketsEmpty => "Parameter 'markets' is empty"
  | marketRepeated mic => "Parameter 'markets' has duplicated items: " ++ mic
  | marketNotMarket => "`markets` must only contain `MarketConfig` instances"
  | unknownMarket mic _ => "Unsupported exchange: " ++ mic
  | notCalendar => "`calendar` must be an instance of `MarketCalendar`"
  | lookahead => "`lookahead_days` must be positive"
  | calendar path cause => "Market calendar " ++ path ++ " is invalid: " ++ cause.message
  | pathAbsent => "stat: path should be string, bytes, os.PathLike or integer, not NoneType"
  | fileMissing path => "File not found: " ++ path
  | isDirectory path => "[Errno 21] Is a directory: " ++ Text.quoted path
  | encoding error => encodingMessage error
  | document (.malformed complaint line column position) =>
    complaint.message ++ ": line " ++ toString line ++ " column " ++ toString column ++
      " (char " ++ toString position ++ ")"
  | document (.tooLong digits) => tooLongMessage digits
  | document (.tooDeep container) =>
    "maximum recursion depth exceeded while decoding a JSON " ++ container.name ++
      " from a unicode string"
  | document .unpaired => "half of a pair stands alone"
  | unshown error => unshownMessage error
  | overrideEntry value => "Override entry must be an object, got: " ++ value.inspect
  | overrideStatus value => "Override status is invalid: " ++ value.inspect
  | overrideReason => "Override reason must be a non-empty string"
  | overrideExpires value => "Override expires is invalid: " ++ value.inspect
  | overrideExpiresText text => "Override expires is not ISO-8601: " ++ Text.quoted text
  | overrideNotJson mic => "Override entry for " ++ mic ++ " is not JSON"
  | overrideFile path => "Override file " ++ path ++ " is unreadable"
  | storeSilent reason => reason
  | fieldsNotText => "Signed fields must map `str` to `str`"
  | secretMissing => "Missing private key secret"
  | secretCorrupt => "Private key secret is corrupt"
  | secretOtherKey => "Private key secret is not an Ed25519 key"
  | signing reason => "Signing failed: " ++ reason
  | signingUnavailable reason => reason
  | keyEntry value => "Signing key entry is invalid: '" ++ value.describe ++ "'"
  | keyInstant field value => "`" ++ field ++ "` is invalid: '" ++ value.describe ++ "'"
  | keyInstantText field text => "`" ++ field ++ "` is not ISO-8601: '" ++ text ++ "'"
  | keyWithoutStart => "`valid_from` is not defined"
  | keyWindow => "`valid_until` must be after `valid_from`"
  | keyRepeated id => "Duplicated signing key id: " ++ id
  | keysNotList path => "Key registry " ++ path ++ " must be a list"
  | statusName value => value.inspect ++ " is not a valid MarketStatus"
  | sourceName value => value.inspect ++ " is not a valid StatusSource"
  | lifetime => "`ttl_seconds` must be positive"
  | engineBroken reason => reason
  | parameterMissing name => Text.quoted name
  | variableName => "illegal environment variable name"
  | logLevel name => "Unknown level: " ++ Text.quoted name

end Failure

end TradingStatus
