import MaskedReport.Calendar
import MaskedReport.Document.Fault
import MaskedReport.Pattern.Fault
import MaskedReport.Text.Utf8

/-!
# Failures

The causes for which an operation fails, and their messages. The messages of the first group are
meant for the person who wrote the settings; a command ends with them. Parts of messages that show a
value hold its shown form.
-/

set_option autoImplicit false

namespace MaskedReport

/-- Why a file cannot be read as a document. -/
inductive FileFault where
  | absent (name : Text)
  | directory (name : Text)
  | belowFile (name : Text)
  | undecodable (fault : Utf8.Fault) (position : Nat) (bytes : List UInt8)
  | document (fault : Document.Fault)
  deriving DecidableEq

/-- Why a value is not a mask pattern. -/
inductive PatternFault where
  | malformed (fault : Pattern.Fault) (position : Option Nat)
  | notText
  | overBytes
  deriving DecidableEq

/-- Why the target of a request has no path. -/
inductive TargetFault where
  | brackets
  | bracketedV4
  | notAnAddress (host : String)
  | futureAddress
  deriving DecidableEq

/-- Why an operation fails. -/
inductive Failure where
  -- settings
  | settingsForm
  | listSetting (key kind : String)
  | flagSetting (key shown : String)
  | sourceEntry (shown : String)
  | sourceOrder (path : String)
  | unknownMode (shown : String)
  | sourceFile (path : Text) (why : FileFault)
  | settingsFile (path : Text) (why : FileFault)
  | sourceForm (path : Text) (kind : String)
  | invalidPattern (pattern : Text) (why : PatternFault)
  -- patterns
  | repetitionTooLarge
  | flagsConflict
  | keyNotText (kind : String)
  | keyOfBytes
  -- values
  | unhashable (kind : String)
  | notIterable (kind : String)
  | noEntries (kind : String)
  | notAPair (index : Nat)
  | pairLength (index length : Nat)
  | unordered (left right : String)
  | zoneMismatch
  | dateAgainstTime
  | noSuchKey (shown : String)
  /-- A whole number with more digits than are written. -/
  | numeralUnwritable
  | endlessNesting
  | infiniteOrder
  -- documents
  | scalar (why : Document.ScalarFault)
  | calendar (why : CalendarFault)
  -- files
  | pathKind (kind : String)
  | pathOfBytes
  | noHome
  | nullInName
  | nameUnencodable (why : Unencodable)
  -- output
  | circular
  | keyUnwritable (kind : String)
  | textUnencodable (why : Unencodable)
  -- requests and commands
  | target (why : TargetFault)
  | unknownLevel (name : Text)
  | levelKind (kind : String)
  /-- Raised by a hook or a source of the caller. -/
  | refused (message : String)
  deriving DecidableEq

/-- The message on a file. -/
def FileFault.message : FileFault → String
  | absent name => "[Errno 2] No such file or directory: " ++ Quoted.text name
  | directory name => "[Errno 21] Is a directory: " ++ Quoted.text name
  | belowFile name => "[Errno 20] Not a directory: " ++ Quoted.text name
  | undecodable fault position bytes =>
    let reason := match fault with
      | .start => "invalid start byte"
      | .continuation _ => "invalid continuation byte"
      | .ended => "unexpected end of data"
    let place := match bytes with
      | [b] => "byte 0x" ++ String.ofList (Quoted.hex 2 b.toNat) ++ " in position " ++
          toString position
      | _ => "bytes in position " ++ toString position ++ "-" ++
          toString (position + bytes.length - 1)
    "'utf-8' codec can't decode " ++ place ++ ": " ++ reason
  | document fault => fault.headline

/-- The message on a pattern. -/
def PatternFault.message (pattern : Text) : PatternFault → String
  | malformed fault position => fault.located pattern.toList position
  | notText => "pattern must be str or re.Pattern"
  | overBytes => "bytes patterns cannot match str keys"

/-- The message on letters that cannot be encoded. -/
def Unencodable.message (why : Unencodable) : String :=
  "'utf-8' codec can't encode " ++
    (if why.count = 1 then
      "character '\\u" ++ String.ofList (Quoted.hex 4 why.first.code) ++ "' in position " ++
        toString why.position
     else "characters in position " ++ toString why.position ++ "-" ++
        toString (why.position + why.count - 1)) ++
    ": surrogates not allowed"

/-- The message on a target. -/
def TargetFault.message : TargetFault → String
  | brackets => "Invalid IPv6 URL"
  | bracketedV4 => "An IPv4 address cannot be in brackets"
  | notAnAddress host =>
    Quoted.text host ++ " does not appear to be an IPv4 or IPv6 address"
  | futureAddress => "IPvFuture address is invalid"

/-- The message on a scalar. -/
def Document.ScalarFault.message : Document.ScalarFault → String
  | notBoolean word => Quoted.text word
  | noNumber => "string index out of range"
  | malformedInteger base numeral =>
    "invalid literal for int() with base " ++ toString base ++ ": " ++
      String.ofList ((Quoted.ofList numeral.toList).take 200)
  | malformedReal numeral => "could not convert string to float: " ++ Quoted.text numeral
  | numeralTooLong digits =>
    "Exceeds the limit (4300 digits) for integer string conversion: value has " ++
      toString digits ++ " digits; use sys.set_int_max_str_digits() to increase the limit"
  | placeTooLarge => "int too large to convert to float"
  | notInstant => "'NoneType' object has no attribute 'groupdict'"
  | instantOfMapping => "expected string or bytes-like object, got 'list'"
  | codePoint => "chr() arg not in range(0x110000)"
  | codeOverflow => "Python int too large to convert to C int"

namespace Failure

/-- Whether the settings are to blame. -/
def isOfSettings : Failure → Bool
  | settingsForm | listSetting _ _ | flagSetting _ _ | sourceEntry _ | sourceOrder _
  | unknownMode _ | sourceFile _ _ | settingsFile _ _ | sourceForm _ _
  | invalidPattern _ _ => true
  | _ => false

/-- The message on a failure. What cannot be encoded in a name stands there by its code. -/
def message : Failure → String
  | settingsForm => "env_endpoint config must be a mapping"
  | listSetting key kind => key ++ " must be a list or a string, got " ++ kind
  | flagSetting key shown => key ++ " must be true or false, got " ++ shown
  | sourceEntry shown => "property_sources entries need a 'path': " ++ shown
  | sourceOrder path => "Invalid order for property source " ++ path
  | unknownMode shown =>
    "Unknown masking mode " ++ shown ++ ", expected one of all, none, legacy"
  | sourceFile path why =>
    "Error reading property source " ++ Quoted.bare path ++ ": " ++ why.message
  | settingsFile path why =>
    "Error reading configuration file " ++ Quoted.bare path ++ ": " ++ why.message
  | sourceForm path kind =>
    "Property source " ++ Quoted.bare path ++ " must contain a mapping, got " ++ kind
  | invalidPattern pattern why =>
    "Invalid mask pattern " ++ Quoted.text pattern ++ ": " ++ why.message pattern
  | repetitionTooLarge => "the repetition number is too large"
  | flagsConflict => "ASCII and UNICODE flags are incompatible"
  | keyNotText kind => "expected string or bytes-like object, got '" ++ kind ++ "'"
  | keyOfBytes => "cannot use a string pattern on a bytes-like object"
  | unhashable kind => "unhashable type: '" ++ kind ++ "'"
  | notIterable kind => "'" ++ kind ++ "' object is not iterable"
  | noEntries kind => "'" ++ kind ++ "' object has no attribute 'items'"
  | notAPair index =>
    "cannot convert dictionary update sequence element #" ++ toString index ++ " to a sequence"
  | pairLength index length =>
    "dictionary update sequence element #" ++ toString index ++ " has length " ++
      toString length ++ "; 2 is required"
  | unordered left right =>
    "'<' not supported between instances of '" ++ left ++ "' and '" ++ right ++ "'"
  | zoneMismatch => "can't compare offset-naive and offset-aware datetimes"
  | dateAgainstTime => "can't compare datetime.datetime to datetime.date"
  | noSuchKey shown => shown
  | numeralUnwritable =>
    "Exceeds the limit (4300 digits) for integer string conversion; " ++
      "use sys.set_int_max_str_digits() to increase the limit"
  | endlessNesting => "maximum recursion depth exceeded while calling a Python object"
  | infiniteOrder => "cannot convert float infinity to integer"
  | scalar why => why.message
  | calendar why => why.message
  | pathKind kind => "expected str, bytes or os.PathLike object, not " ++ kind
  | pathOfBytes =>
    "argument should be a str object or an os.PathLike object returning str, " ++
      "not <class 'bytes'>"
  | noHome => "Could not determine home directory."
  | nullInName => "embedded null byte"
  | nameUnencodable why => why.message
  | circular => "Circular reference detected"
  | keyUnwritable kind => "keys must be str, int, float, bool or None, not " ++ kind
  | textUnencodable why => why.message
  | target why => why.message
  | unknownLevel name => "Unknown level: " ++ Quoted.text name
  | levelKind kind => "'" ++ kind ++ "' object has no attribute 'upper'"
  | refused text => text

end Failure

end MaskedReport
