import LogAssay.Cause
import LogAssay.Value

/-!
# Faults

Everything that can go wrong, by cause. A fault has a kind, which tells the class of failure, and a message,
worded in one place. Failed assertions carry the query that produced the entries, what was expected of
them, and the entries at fault as they are shown. A message that would show an integer with too many digits
cannot be worded, and then this is what goes wrong in the end, whatever the cause.
-/

namespace LogAssay

/-- A text for a reader, unless it cannot be written because it shows an integer with too many digits. -/
structure Wording where
  text : String
  writable : Bool := true
  deriving DecidableEq, Repr

instance : Coe String Wording := ⟨fun text => { text := text }⟩

/-- The classes of failure. -/
inductive FaultKind where
  | value
  | type
  | overflow
  | system
  | runtime
  | key
  | assertion
  | alreadyAttached
  | usage
  | pattern
  | member
  deriving DecidableEq, Repr

/-- The type of the errors of a class of failure. -/
def FaultKind.errorType : FaultKind → ErrorType
  | value => .value
  | type => .type
  | overflow => .overflow
  | system => .os
  | runtime => .runtime
  | key => .key
  | assertion => ErrorType.assertion.child "LogAssertionError"
  | alreadyAttached => ErrorType.runtime.child "AlreadyAttachedError"
  | usage => ErrorType.exception.child "UsageError"
  | pattern => ErrorType.exception.child "error"
  | member => .member

/-- A failure, by cause. -/
inductive Fault where
  /-- A severity was requested by something that is no name. -/
  | severityKind (kindName : String)
  /-- No severity has this name. -/
  | severityName (name : String)
  /-- A severity was compared with something else. -/
  | severityOrder (kindName : String)
  /-- The breakpoints of a threshold table do not increase. -/
  | breakpoints (values : List Value)
  /-- A metadata key is empty, or holds a blank or an equals sign. -/
  | metadataKey (key : String)
  /-- A metadata value was asked for without being given. -/
  | missingValue
  /-- A numeral is longer than integers may be read. -/
  | numeralLength (digits : Nat)
  /-- An integer has too many digits to be written. -/
  | unwritable
  /-- A text shows digits but is no numeral. -/
  | numeral (text : String)
  /-- An integer is too large for floating point. -/
  | integerRange
  /-- A message to be decoded is no text. -/
  | messageKind (kindName : String)
  /-- Something that is no mapping was asked for a field. -/
  | noFields (kindName : String)
  /-- A number of seconds is no timestamp. -/
  | timestamp (problem : Timestamp.Problem)
  /-- A message pattern is malformed; the problem tells where. -/
  | pattern (problem : String)
  /-- Fragments to search for are missing or empty. -/
  | fragments
  /-- Something that is no predicate was given as one. -/
  | notPredicate (kindName : String)
  /-- Something that cannot be run was to be run on an entry. -/
  | cannotRun (kindName : String)
  /-- Something that cannot be run was given as a verification. -/
  | notCallable (kindName : String)
  /-- Something that is no interceptor factory was given as one. -/
  | notFactory (kindName : String)
  /-- The entry that a view is cut at is not in the view. -/
  | notInView (entry : Wording)
  /-- An entry whose order is asserted was not captured. -/
  | notCaptured (entry : Wording)
  /-- An assertion on captured entries failed. -/
  | assertion (label : String) (expectation : Wording) (failing : List Wording)
  /-- A match was asked for at a negative index. -/
  | negativeIndex
  /-- An expectation was given a second count. -/
  | countSet
  /-- An expectation was given a negative count. -/
  | countNegative (count : Int)
  /-- A channel is named by something that is no text. -/
  | channelKind (kindName : String)
  /-- A section of a configuration is no mapping. -/
  | notMapping (title : String)
  /-- A section of a configuration has a key that is no text. -/
  | keyKind (title : String)
  /-- A configuration has keys that are not understood. -/
  | unknownKeys (keys : List String)
  /-- A configuration has a version that is not understood. -/
  | version (value : Value)
  /-- The level of a channel is no text. -/
  | levelKind (channel : String)
  /-- The switch for test ids is no boolean. -/
  | testIdSwitch
  /-- A level line has no equals sign. -/
  | levelLine (line : String)
  /-- A level marker has the wrong number of arguments. -/
  | markerArguments (arguments : List Value)
  /-- A channel is named by a value that can change, so that it cannot be looked up. -/
  | changeableKey (kindName : String)
  /-- There is no factory to choose from. -/
  | noFactories
  /-- A factory to be removed is not registered. -/
  | notRegistered
  /-- A channel is attached already. -/
  | alreadyAttached (channel : String)
  /-- A message template asks for more arguments than there are. -/
  | tooFewArguments
  /-- A message template leaves arguments over. -/
  | tooManyArguments
  /-- A message template asks for a number and gets something else. -/
  | notANumber (conversion : Char) (kindName : String)
  /-- A message template asks for an integer and gets something else. -/
  | notAnInteger (conversion : Char) (kindName : String)
  /-- A message template asks for a floating-point number and gets something else. -/
  | notReal (kindName : String)
  /-- A message template asks for a character and gets something else. -/
  | notACharacter
  /-- A message template asks for a character by a number that no character has. -/
  | characterRange
  /-- A width or a precision in a message template is no integer. -/
  | extentKind
  /-- A width or a precision in a message template is too large. -/
  | extentSize (precision : Bool)
  /-- A message template converts a number without an integer part. -/
  | noIntegerPart (infinite : Bool)
  /-- A message template names an argument that is not given. -/
  | missingName (name : String)
  /-- A message template names arguments but gets no mapping. -/
  | needsMapping
  /-- A message template ends inside a conversion. -/
  | incompleteTemplate
  /-- A message template ends inside the name of an argument. -/
  | incompleteName
  /-- A message template has an unknown conversion. -/
  | unknownConversion (conversion : Char) (index : Nat)
  /-- A backend refuses to attach to a channel. -/
  | cannotAttach (channel : String)
  /-- A backend is no longer there. -/
  | backendGone
  /-- A backend has no logger of this name. -/
  | noBackend (name : String)
  /-- A backend cannot remove a handler from a logger. -/
  | cannotRemove (name : String)
  /-- A scripted stage of a backend fails. -/
  | stageFailed (stage : String)
  /-- Code under test raised an error of the key class. -/
  | body (key : String)
  /-- A tag was to be taken back in a context that it was not set in. -/
  | foreignContext
  deriving Inhabited

namespace Fault

def kind : Fault → FaultKind
  | severityKind _ | severityOrder _ | messageKind _ | notPredicate _ | cannotRun _ | notCallable _
  | changeableKey _ | notFactory _ | channelKind _ | notMapping _ | keyKind _ | levelKind _ | testIdSwitch
  | tooFewArguments | tooManyArguments | notANumber _ _ | notAnInteger _ _ | notReal _ | notACharacter | extentKind
  | needsMapping => .type
  | severityName _ | breakpoints _ | metadataKey _ | missingValue | numeralLength _ | unwritable | numeral _
  | fragments | notInView _ | notCaptured _ | negativeIndex | countSet | countNegative _
  | unknownKeys _ | version _ | levelLine _ | noFactories | notRegistered | incompleteTemplate
  | incompleteName | unknownConversion _ _ | extentSize _ | foreignContext => .value
  | integerRange | characterRange => .overflow
  | timestamp problem =>
    match problem with
    | .notANumber => .value
    | .beyondClock => .overflow
    | .beyondCalendar => .system
    | .year _ => .value
    | .shifted => .overflow
  | pattern _ => .pattern
  | noFields _ => .member
  | assertion _ _ _ => .assertion
  | markerArguments _ => .usage
  | alreadyAttached _ => .alreadyAttached
  | noIntegerPart infinite => if infinite then .overflow else .value
  | missingName _ | body _ => .key
  | cannotAttach _ | backendGone | noBackend _ | cannotRemove _ | stageFailed _ => .runtime

/-- The greatest number of entries at fault that an assertion shows. -/
def sampleSize : Nat := 10

/-- Whether the message of a fault can be worded: none of the integers that it shows has too many digits. -/
def isWritable : Fault → Bool
  | breakpoints values | markerArguments values => Value.allWritable values
  | version value => value.isWritable
  | countNegative count => Decimal.isWritable count
  | notInView entry | notCaptured entry => entry.writable
  | assertion _ expectation failing => expectation.writable && (failing.take sampleSize).all (·.writable)
  | _ => true

/-- What goes wrong in the end: the fault itself, unless its message cannot be worded. -/
def raised (fault : Fault) : Fault := if fault.isWritable then fault else unwritable

def sample (failing : List String) : List String :=
  if failing.isEmpty then []
  else
    let heading := if failing.length ≤ sampleSize then "failing logs" else "first few failing logs"
    (heading ++ ":") :: (failing.take sampleSize).map ("  " ++ ·)

def assertionText (label expectation : String) (failing : List String) : String :=
  "\n".intercalate ((label ++ ": " ++ expectation) :: sample failing)

def timestampMessage : Timestamp.Problem → String
  | .notANumber => "Invalid value NaN (not a number)"
  | .beyondClock => "timestamp out of range for platform time_t"
  | .beyondCalendar => "[Errno 75] Value too large for defined data type"
  | .year year => "year " ++ year.numeral ++ " is out of range"
  | .shifted => "date value out of range"

def message : Fault → String
  | severityKind kindName => "severity must be a Severity or a level name, got " ++ kindName
  | severityName name => "unknown severity " ++ name.quoted
  | severityOrder kindName =>
    "'<' not supported between instances of 'Severity' and '" ++ kindName ++ "'"
  | breakpoints values =>
    "threshold breakpoints must be strictly increasing: " ++ (Value.tuple values).literal
  | metadataKey key => "invalid metadata key " ++ key.quoted
  | missingValue => "value must not be None (did you mean 'has_metadata_key(...)'?)"
  | numeralLength digits =>
    "Exceeds the limit (4300 digits) for integer string conversion: value has " ++ digits.numeral
      ++ " digits; use sys.set_int_max_str_digits() to increase the limit"
  | unwritable =>
    "Exceeds the limit (4300 digits) for integer string conversion; "
      ++ "use sys.set_int_max_str_digits() to increase the limit"
  | numeral text =>
    "invalid literal for int() with base 10: " ++ String.ofList (text.quoted.toList.take 200)
  | integerRange => "int too large to convert to float"
  | messageKind kindName =>
    if kindName = "bytes" then "cannot use a string pattern on a bytes-like object"
    else "expected string or bytes-like object, got '" ++ kindName ++ "'"
  | noFields kindName => "'" ++ kindName ++ "' object has no attribute 'get'"
  | timestamp problem => timestampMessage problem
  | pattern problem => problem
  | fragments => "at least one non-empty fragment is required"
  | notPredicate kindName => "expected a predicate, got " ++ kindName
  | cannotRun kindName => "'" ++ kindName ++ "' object is not callable"
  | notCallable kindName => "expected a callable, got " ++ kindName
  | notFactory kindName => "expected an InterceptorFactory, got " ++ kindName
  | notInView entry => "Provided log entry does not exist: " ++ entry.text
  | notCaptured entry => "log entry '" ++ entry.text ++ "' was not in the captured logs"
  | assertion label expectation failing => assertionText label expectation.text (failing.map (·.text))
  | negativeIndex => "match index must not be negative"
  | countSet => "the expected count has already been set"
  | countNegative count => "expected count must not be negative: " ++ count.numeral
  | channelKind kindName => "channel names must be strings, got " ++ kindName
  | notMapping title => title ++ " must be a mapping"
  | keyKind title => title ++ " keys must be strings"
  | unknownKeys keys =>
    "capture configuration has unsupported keys: " ++ (Value.list (keys.map Value.text)).literal
  | version value => "unsupported configuration version " ++ value.literal
  | levelKind channel => "level for channel " ++ channel.quoted ++ " must be a string"
  | testIdSwitch => "use_test_id must be a bool"
  | levelLine line => "expected 'channel=LEVEL', got " ++ line.quoted
  | markerArguments arguments =>
    "set_log_level takes (channel, level), got " ++ (Value.tuple arguments).literal
  | changeableKey kindName => "unhashable type: '" ++ kindName ++ "'"
  | noFactories => "no interceptor factories to choose from"
  | notRegistered => "list.remove(x): x not in list"
  | alreadyAttached channel => "channel " ++ channel.quoted ++ " is already attached"
  | tooFewArguments => "not enough arguments for format string"
  | tooManyArguments => "not all arguments converted during string formatting"
  | notANumber conversion kindName =>
    "%" ++ conversion.toString ++ " format: a real number is required, not " ++ kindName
  | notAnInteger conversion kindName =>
    "%" ++ conversion.toString ++ " format: an integer is required, not " ++ kindName
  | notReal kindName => "must be real number, not " ++ kindName
  | notACharacter => "%c requires int or char"
  | characterRange => "%c arg not in range(0x110000)"
  | extentKind => "* wants int"
  | extentSize precision => (if precision then "precision" else "width") ++ " too big"
  | noIntegerPart infinite =>
    if infinite then "cannot convert float infinity to integer"
    else "cannot convert float NaN to integer"
  | missingName name => name.quoted
  | needsMapping => "format requires a mapping"
  | incompleteTemplate => "incomplete format"
  | incompleteName => "incomplete format key"
  | unknownConversion conversion index =>
    let shown := if 31 ≤ conversion.toNat ∧ conversion.toNat ≤ 126 then conversion else '?'
    "unsupported format character '" ++ shown.toString ++ "' (0x"
      ++ String.ofList (Text.hexNumeral 'a' conversion.toNat) ++ ") at index " ++ index.numeral
  | cannotAttach channel => "cannot attach to " ++ channel.quoted
  | backendGone => "backend went away"
  | noBackend name => "no backend for " ++ name
  | cannotRemove name => "cannot remove handler from " ++ name
  | stageFailed stage => stage ++ " failed"
  | body key => key.quoted
  | foreignContext => "the tag was set in another context"

end Fault

/-! ## Writing values -/

namespace Value

/-- The plain text of a value, if it can be written. -/
def write (v : Value) : Except Fault String := if v.isWritable then .ok v.plain else .error .unwritable

theorem write_of_isWritable {v : Value} (h : v.isWritable = true) : v.write = .ok v.plain := if_pos h

theorem write_ok_iff {v : Value} {s : String} : v.write = .ok s ↔ v.isWritable = true ∧ s = v.plain := by
  unfold write
  by_cases h : v.isWritable = true
  · simp [h, eq_comm]
  · simp [h]

/-- The literal text of a value, if it can be written. -/
def writeLiteral (v : Value) : Except Fault String := if v.isWritable then .ok v.literal else .error .unwritable

/-- The scalar that captured metadata keeps of a value, if there is one. -/
def widen (v : Value) : Except Fault Scalar := if v.isWidened then .ok v.widened else .error .unwritable

theorem widen_of_isWidened {v : Value} (h : v.isWidened = true) : v.widen = .ok v.widened := if_pos h

theorem widen_ok_iff {v : Value} {s : Scalar} : v.widen = .ok s ↔ v.isWidened = true ∧ s = v.widened := by
  unfold widen
  by_cases h : v.isWidened = true
  · simp [h, eq_comm]
  · simp [h]

end Value

end LogAssay
