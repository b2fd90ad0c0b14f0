import LogAssay.Metadata.Decode
import LogAssay.Record
import LogAssay.TestId
import LogAssay.Text.Digit
import LogAssay.Threshold

/-!
# Dispatched records

Some backends hand each event to their handlers as a mapping with fields of fixed names. Such a record has no
call site and no cause. Its severity comes from its level number if that lies on the scale, else from its
level name, and is a warning if neither is of use. Threads are written as numbers, as numerals, or as
`ThreadId(…)` around a numeral, and one thread has one token however it is written.
-/

namespace LogAssay

/-- The integer that a value is; a boolean is zero or one. -/
def Value.integer? : Value → Option Int
  | .scalar (.bool b) => some (if b then 1 else 0)
  | .scalar (.int i) => some i
  | _ => none

namespace Dispatch

/-- The fields of a dispatched record, or of a part of it. -/
abbrev Fields := List (Value × Value)

/-- The level names with their places on the scale. -/
def levelPlaces : List (String × Nat) :=
  [("TRACE", 0), ("DEBUG", 1), ("INFO", 2), ("WARN", 3), ("WARNING", 3), ("ERROR", 4), ("CRITICAL", 5)]

def topPlace : Nat := 5

/-- The place of a level name, in any case. -/
def place? (name : String) : Option Nat :=
  levelPlaces.lookup (String.ofList (Text.capitals name.toList))

def levelName : Severity → String
  | .finest => "TRACE"
  | .fine => "DEBUG"
  | .info => "INFO"
  | .warning => "WARN"
  | .severe => "ERROR"

/-- The severity that the level name of a record gives. -/
def severityByName (record : Fields) : Severity :=
  match Value.find? record "level" with
  | some (.scalar (.text name)) =>
    match place? name with
    | some place => Thresholds.ordinal.classify (.int place)
    | none => .warning
  | _ => .warning

def severity (record : Fields) : Severity :=
  match (Value.find? record "levelno").bind Value.integer? with
  | some i => if 0 ≤ i ∧ i ≤ topPlace then Thresholds.ordinal.classify (.int i) else severityByName record
  | none => severityByName record

/-! ## Threads -/

/-- A thread's numeral without the name around it. -/
def unwrap (s : List Char) : List Char :=
  match Text.without? "ThreadId(".toList s with
  | some rest => if rest.getLast? = some ')' then rest.dropLast else s
  | none => s

/-- The number of decimal digits of any script. -/
def numberOf (digits : List Char) : Nat :=
  digits.foldl (fun n c => 10 * n + (Text.digitValue? c).getD 0) 0

/-- The number that a text of characters which show digits denotes. A text that begins with too many digits
is not read, and one with a character that is no decimal digit denotes nothing. -/
def readNumber (s : List Char) : Except Fault Nat :=
  let digits := s.takeWhile fun c => (Text.digitValue? c).isSome
  if Decimal.maxDigits < digits.length then .error (.numeralLength digits.length)
  else if digits = s then .ok (numberOf s)
  else .error (.numeral (String.ofList s))

/-- The token of a thread that is given as a text: its number, if it shows one, or else the text. -/
def threadOfText (text : String) : Except Fault Value :=
  let inner := unwrap (Text.trim text.toList)
  if inner ≠ [] ∧ inner.all Text.showsDigit then (readNumber inner).map fun n => .int n
  else .ok (.text text)

/-- The token of a record's thread. The thread's name stands in where there is no number. -/
def thread (metadata : Fields) : Except Fault Value :=
  match (Value.find? metadata "thread_id").getD .nothing with
  | .nothing => .ok ((Value.find? metadata "thread_name").getD .nothing)
  | .scalar (.bool b) => .ok (.bool b)
  | .scalar (.int i) => .ok (.int i)
  | v => v.write >>= threadOfText

/-! ## Conversion -/

/-- The time of a record: its timestamp, or the present if it has none that is a number. -/
def time (now : Timestamp) (metadata : Fields) : Except Fault Timestamp :=
  match Value.find? metadata "timestamp" with
  | some (.scalar (.int i)) => do
    let seconds ← Value.toBinary64 (.int i)
    (Timestamp.ofSeconds seconds).mapError .timestamp
  | some (.scalar (.float x)) => (Timestamp.ofSeconds x).mapError .timestamp
  | _ => .ok now

def fieldsOf : Value → Except Fault Fields
  | .mapping entries => .ok entries
  | v => .error (.noFields v.fullKindName)

/-- The metadata with a pair of a record behind it; only text keys count. -/
def withPair (m : Metadata) : Value × Value → Except Fault Metadata
  | (.scalar (.text key), value) => value.widen.map fun s => m.add key [s]
  | _ => .ok m

def withPairs (m : Metadata) (pairs : Fields) : Except Fault Metadata := pairs.foldlM withPair m

def pairsOf (metadata : Fields) : Fields :=
  match Value.find? metadata "key_values" with
  | some (.mapping pairs) => pairs
  | _ => []

/-- The level of a record; the name of its severity stands in where there is none. -/
def level (record : Fields) : Value := (Value.find? record "level").getD (.text (levelName (severity record)))

/-- The captured record of a dispatched one with its decoded message. -/
def complete (now : Timestamp) (record metadata : Fields) (decoded : Metadata.Decoded) :
    Except Fault Record := do
  let (className, methodName) := Record.siteNames none none
  let level ← (level record).write
  let time ← time now metadata
  let thread ← thread metadata
  let merged ← withPairs decoded.metadata (pairsOf metadata)
  return {
    className := className
    methodName := methodName
    levelName := level
    severity := severity record
    timestamp := time
    thread := thread
    message := decoded.message
    metadata := merged }

def convert (now : Timestamp) (record : Fields) : Reported Record :=
  match (Value.find? record "message").getD (.text "") with
  | .scalar (.text message) =>
    (Metadata.decode message).andThen fun decoded => do
      let metadata ← fieldsOf ((Value.find? record "metadata").getD (.mapping []))
      complete now record metadata decoded
  | v => ⟨[], .error (.messageKind v.fullKindName)⟩

/-! ## Handlers -/

/-- What a handler lets through. -/
structure Gate where
  least : Severity := .finest
  testId : String := ""

/-- What a handler captures of a record: nothing below its least severity and nothing of another test. -/
def Gate.capture (gate : Gate) (now : Timestamp) (record : Fields) : Reported (Option Record) :=
  if severity record < gate.least then ⟨[], .ok none⟩
  else
    (convert now record).andThen fun r =>
      .ok (if TestId.accepts r.metadata gate.testId then some r else none)

end Dispatch

end LogAssay
