import LogAssay.Metadata.Agreement
import LogAssay.Site

/-!
# Captured records

A record is what is captured of one log event. It can say of itself whether it carries some metadata, and it
is shown on one line: the innermost part of its class, its function, its level, the beginning of its message,
its cause and its metadata. An *entry* is a record together with its serial number. Two events with equal
records are still two entries, and entries are told apart by their numbers alone.
-/

namespace LogAssay

/-- What is captured of one log event. -/
structure Record where
  /-- The class of the call site, its module, or `<unknown>`. -/
  className : String
  /-- The function of the call site, or `<unknown>`. -/
  methodName : String
  /-- The backend's own name of the level. -/
  levelName : String
  severity : Severity
  timestamp : Timestamp
  /-- A token that identifies the thread. -/
  thread : Value
  /-- The message without its context block. -/
  message : String
  metadata : Metadata := []
  cause : Option Cause := none

namespace Record

/-- The class and the function of a site that may be known in part only. -/
def siteNames (module qualifiedName : Option String) : String × String :=
  match module, qualifiedName with
  | some module, some qualifiedName => Site.attributed module qualifiedName
  | _, none => (Site.unknown, Site.unknown)
  | none, some "" => (Site.unknown, Site.unknown)
  | none, some qualifiedName =>
    (Site.unknown, String.ofList (Text.behindLast '.' qualifiedName.toList))

/-- The reports that attributing a site brings; only a site known in full brings any. -/
def noteSite (latches : Site.Latches) (module qualifiedName : Option String) :
    Site.Latches × List Caution :=
  match module, qualifiedName with
  | some _, some qualifiedName => Site.note latches qualifiedName
  | _, _ => (latches, [])

def outerClass (r : Record) : String :=
  if r.className = Site.unknown then Site.unknown else Site.outerClass r.className

/-- Whether a key is there, with or without values. -/
def hasKey (r : Record) (key : String) : Bool := r.metadata.hasKey key

/-- Whether some value under a key agrees with the expected one, which has to be given. -/
def hasMetadata (r : Record) (key : String) (expected : Value) : Except Fault Bool :=
  match expected with
  | .nothing => .error .missingValue
  | expected => Scalar.anyAgrees (r.metadata.values key) expected

def sameThread (r other : Record) : Bool := r.thread.eq other.thread

/-- Whether two records come from one class, which has to be known. -/
def sameClass (r target : Record) : Bool :=
  r.className != Site.unknown && r.className == target.className

/-- Whether two records come from one outermost class; the class of the first has to be known. -/
def sameOuterClass (r target : Record) : Bool :=
  r.className != Site.unknown && r.outerClass == target.outerClass

/-- Whether two records come from one function of one class, both known. -/
def sameMethod (r target : Record) : Bool :=
  r.sameClass target && r.methodName != Site.unknown && r.methodName == target.methodName

/-! ## Display -/

/-- The greatest number of characters of a message that are shown. -/
def shownLength : Nat := 30

/-- The beginning of a message that is shown: at most one line and thirty characters. -/
def beginning (message : List Char) : List Char :=
  (message.take shownLength).takeWhile fun c => c != '\n' && c != '\r'

/-- A message as it is shown: its beginning, and dots if that is not all. -/
def shortened (message : String) : String :=
  let shown := beginning message.toList
  if shown.length = message.length then message else String.ofList shown ++ "..."

def snippet (r : Record) : String :=
  let level :=
    if r.levelName = r.severity.name then r.levelName
    else r.levelName ++ "(" ++ r.severity.name ++ ")"
  level ++ ": \"" ++ shortened r.message ++ "\""

/-- The metadata as a mapping from keys to lists of values. -/
def metadataValue (m : Metadata) : Value :=
  .mapping (m.map fun (key, vs) => (.text key, .list (vs.map Value.scalar)))

/-- The line that a record is shown on, which cannot be written if some integer of the metadata cannot. -/
def shown (r : Record) : Wording :=
  let site := Text.behindLast '.' (Text.behindLast ':' r.className.toList)
  let cause := match r.cause with
    | some c => ", cause=" ++ c.type.name
    | none => ""
  let context :=
    if r.metadata.isEmpty then "" else ", context=" ++ (metadataValue r.metadata).literal
  { text := String.ofList site ++ "#" ++ r.methodName ++ "@" ++ r.snippet ++ cause ++ context
    writable := (metadataValue r.metadata).isWritable }

end Record

/-- A captured record with the number that tells it from all others. -/
structure Entry extends Record where
  serial : Nat

/-- Whether two entries are the same event. -/
def Entry.same (a b : Entry) : Bool := a.serial == b.serial

end LogAssay
