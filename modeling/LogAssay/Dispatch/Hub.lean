import LogAssay.Attachment
import LogAssay.Directory
import LogAssay.Dispatch.Record

/-!
# Backends that dispatch records

A hub has loggers by name, each with a level and handlers. Attaching a channel lowers the level of its logger
to the requested one, if the level is higher or no level name, and adds a handler. Detaching removes the
handler and puts the level back, if it was lowered and had been a text. Any call to the hub may be refused;
a refused call does nothing.
-/

namespace LogAssay.Dispatch

/-- A handler of a logger. -/
structure Handler extends Gate where
  serial : Nat
  collector : Collector

/-- A logger of a hub. -/
structure Logger where
  level : Value := .text "INFO"
  handlers : List Handler := []

/-- The calls that a hub answers. -/
inductive Call where
  | getLogger (name : String)
  | setLevel (name : String)
  | addHandler (name : String)
  | removeHandler (name : String)
  deriving DecidableEq, Repr

/-- Loggers by name, the metadata that every event is dispatched with, the calls that are refused, and whether
events are dropped. -/
structure Hub where
  loggers : Directory Logger := { fallback := {} }
  common : Fields := []
  refusal : Call → Option Fault := fun _ => none
  drops : Bool := false

namespace Hub

def call (c : Call) (change : Hub → Hub) : Act Hub Unit := do
  match (← get).refusal c with
  | some fault => throw fault
  | none => modify change

/-- The logger of a name, made if there is none. -/
def getLogger (name : String) : Act Hub Logger := do
  call (.getLogger name) fun hub => { hub with loggers := hub.loggers.modify name id }
  return (← get).loggers.get name

def setLevel (name : String) (level : Value) : Act Hub Unit :=
  call (.setLevel name) fun hub =>
    { hub with loggers := hub.loggers.modify name fun logger => { logger with level := level } }

def addHandler (name : String) (handler : Handler) : Act Hub Unit :=
  call (.addHandler name) fun hub =>
    { hub with loggers := hub.loggers.modify name fun logger =>
        { logger with handlers := logger.handlers ++ [handler] } }

def removeHandler (name : String) (serial : Nat) : Act Hub Unit :=
  call (.removeHandler name) fun hub =>
    { hub with loggers := hub.loggers.modify name fun logger =>
        { logger with handlers := logger.handlers.filter (·.serial ≠ serial) } }

/-! ## Attaching -/

/-- What is needed to detach a channel: its logger's name, the handler, and the level to put back. -/
structure Detachment where
  name : String
  serial : Nat
  restored : Option String

/-- The place of a level on the scale, if it is a level name. -/
def placeOf : Value → Option Nat
  | .scalar (.text name) => place? name
  | _ => none

/-- Whether a level has to be lowered to let a severity through. -/
def lowers (level : Value) (least : Severity) : Bool :=
  match placeOf level with
  | some place => decide (least.rank < place)
  | none => true

/-- The text that a level is, if it is one. -/
def levelText : Value → Option String
  | .scalar (.text name) => some name
  | _ => none

def attach (request : Request) (serial : Nat) : Act Hub Detachment := do
  let level := (← getLogger request.channel).level
  let lowered := lowers level request.severity
  if lowered then setLevel request.channel (.text (levelName request.severity))
  addHandler request.channel ⟨⟨request.severity, request.testId⟩, serial, request.collector⟩
  return ⟨request.channel, serial, if lowered then levelText level else none⟩

def detach (d : Detachment) : Act Hub Unit := do
  removeHandler d.name d.serial
  match d.restored with
  | some level => setLevel d.name (.text level)
  | none => return

/-! ## Dispatching -/

/-- What came of handing a record to handlers in order: the records captured, up to the first handler that
failed. -/
structure Handover where
  reports : List Diagnostic := []
  captured : List (Collector × Record) := []
  failure : Option Fault := none

def handOver (now : Timestamp) (record : Fields) : List Handler → Handover
  | [] => {}
  | h :: others =>
    let conversion := h.toGate.capture now record
    match conversion.outcome with
    | .error fault => ⟨conversion.reports, [], some fault⟩
    | .ok captured =>
      let rest := handOver now record others
      ⟨conversion.reports ++ rest.reports,
        (captured.map fun r => (h.collector, r)).toList ++ rest.captured, rest.failure⟩

/-- The level names of events, lowest first. -/
def eventLevels : List String := ["TRACE", "DEBUG", "INFO", "WARN", "ERROR", "CRITICAL"]

/-- The place of a level among those of events; what is not listed counts as the lowest. -/
def eventPlace : Value → Nat
  | .scalar (.text name) => (eventLevels.findIdx? (· = name)).getD 0
  | _ => 0

def eventRecord (hub : Hub) (name level message : String) : Fields :=
  [(.text "logger", .text name), (.text "level", .text level),
   (.text "levelno", .int (eventPlace (.text level))), (.text "message", .text message),
   (.text "metadata", .mapping hub.common)]

def isOpen (hub : Hub) (name level : String) : Bool :=
  !hub.drops && eventPlace (hub.loggers.get name).level ≤ eventPlace (.text level)

def log (hub : Hub) (now : Timestamp) (name level message : String) : Handover :=
  if hub.isOpen name level then
    handOver now (hub.eventRecord name level message) (hub.loggers.get name).handlers
  else {}

end Hub

end LogAssay.Dispatch
