import LogAssay.Metadata.Decode
import LogAssay.Record
import LogAssay.Tags
import LogAssay.TestId
import LogAssay.Threshold

/-!
# Events

An event is logged with a level, a message and its arguments, perhaps a cause, from a call site that may be
known in part only. A handler captures it under the tags in force: it fills in the arguments, decodes the
message, and stamps the tags on the metadata. Each of these may fail, and an event that cannot be converted is
not captured. What was reported until then stays reported.
-/

namespace LogAssay

namespace Logger

/-- A frame of the call stack that an event is logged from. -/
structure Frame where
  module : Option String
  qualifiedName : String

/-- How many callers up a call site is looked for. -/
def searchDepth : Nat := 57

/-- The module and the qualified name of the frame that an event is attributed to, counted from the inside and
given the stack from the inside out. Beyond the search depth, or without a module, only the innermost part of
the name is known. -/
def siteOf (stack : List Frame) (level : Nat) : Option String × Option String :=
  match stack.drop (min level stack.length - 1) with
  | [] => (none, none)
  | frame :: _ =>
    if frame.module.isSome && level ≤ searchDepth then (frame.module, some frame.qualifiedName)
    else (none, some (String.ofList (Text.behindLast '.' frame.qualifiedName.toList)))

end Logger

/-- Something that is logged. -/
structure Event where
  level : Int
  message : Tags.Message
  cause : Option Cause := none
  module : Option String
  qualifiedName : Option String
  /-- Seconds since the start of 1970. -/
  created : Binary64
  thread : Value

namespace Event

def levelName (level : Int) : String :=
  if level = 0 then "NOTSET"
  else if level = 5 then "TRACE"
  else if level = 10 then "DEBUG"
  else if level = 20 then "INFO"
  else if level = 30 then "WARNING"
  else if level = 40 then "ERROR"
  else if level = 50 then "CRITICAL"
  else "Level " ++ level.numeral

def complete (tags : Tags) (e : Event) (decoded : Metadata.Decoded) : Except Fault Record := do
  let time ← (Timestamp.ofSeconds e.created).mapError .timestamp
  let metadata ← Tags.stamp decoded.metadata tags
  let (className, methodName) := Record.siteNames e.module e.qualifiedName
  return {
    className := className
    methodName := methodName
    levelName := levelName e.level
    severity := Thresholds.standard.classify (.int e.level)
    timestamp := time
    thread := e.thread
    message := decoded.message
    metadata := metadata
    cause := e.cause }

def convert (tags : Tags) (e : Event) : Reported Record :=
  match e.message.text with
  | .error fault => ⟨[], .error fault⟩
  | .ok text => (Metadata.decode text).andThen (e.complete tags)

/-- The cautions that converting an event brings: those of its call site, if it gets that far. -/
def note (latches : Site.Latches) (e : Event) (outcome : Except Fault Record) :
    Site.Latches × List Caution :=
  match outcome with
  | .ok _ => Record.noteSite latches e.module e.qualifiedName
  | .error _ => (latches, [])

end Event

end LogAssay
