import LogAssay.Severity.Request
import LogAssay.Text.Split

/-!
# Channel levels

Channels are requested with a severity, and a channel captures everything that any request for it asked for:
it keeps its place and the lowest severity requested. Requests come as values, as lines of the form
`channel=LEVEL`, or as markers with two arguments.
-/

namespace LogAssay

/-- The requested channels in the order of their first request, each with the lowest severity. -/
abbrev Levels := List (String × Severity)

namespace Levels

/-- The severity of a channel, if it is requested. -/
def find? (levels : Levels) (channel : String) : Option Severity := levels.lookup channel

def request (levels : Levels) (channel : String) (severity : Severity) : Levels :=
  match levels with
  | [] => [(channel, severity)]
  | (c, s) :: others =>
    if c = channel then (c, min s severity) :: others else (c, s) :: request others channel severity

def requestAll (levels requests : Levels) : Levels :=
  requests.foldl (fun levels (channel, severity) => levels.request channel severity) levels

def channelOf : Value → Except Fault String
  | .scalar (.text channel) => .ok channel
  | v => .error (.channelKind v.kindName)

def requestValue (levels : Levels) (channel severity : Value) : Except Fault Levels := do
  let channel ← channelOf channel
  let severity ← Severity.ofValue severity
  return levels.request channel severity

def requestValues (levels : Levels) : List (Value × Value) → Except Fault Levels
  | [] => .ok levels
  | (channel, severity) :: others => do
    let levels ← levels.requestValue channel severity
    requestValues levels others

/-- The request that a line makes: nothing for a blank line or a comment. -/
def lineRequest (line : List Char) : Except Fault (Option (String × Severity)) :=
  let line := Text.trim line
  if line = [] ∨ line.head? = some '#' then .ok none
  else
    match Text.cut? '=' line with
    | none => .error (.levelLine (String.ofList line))
    | some (channel, level) => do
      let severity ← Severity.ofValue (.text (String.ofList level))
      return some (String.ofList (Text.trim channel), severity)

def ofLinesFrom (levels : Levels) : List String → Except Fault Levels
  | [] => .ok levels
  | line :: others => do
    match ← lineRequest line.toList with
    | none => ofLinesFrom levels others
    | some (channel, severity) => ofLinesFrom (levels.request channel severity) others

def ofLines (lines : List String) : Except Fault Levels := ofLinesFrom [] lines

end Levels

/-! ## Markers -/

/-- The channels that markers request. A marker may name its channel by any value that does not change;
whether it is a text is seen when the channel is captured. -/
abbrev MarkerLevels := List (Value × Severity)

namespace MarkerLevels

def request (levels : MarkerLevels) (channel : Value) (severity : Severity) : MarkerLevels :=
  match levels with
  | [] => [(channel, severity)]
  | (c, s) :: others =>
    if c.eq channel then (c, min s severity) :: others
    else (c, s) :: request others channel severity

/-- The kind of the first part of a value that can change: lists and mappings can, by themselves and inside
tuples. -/
def changeableKind? : Value → Option String
  | .list _ => some "list"
  | .mapping _ => some "dict"
  | .tuple items => firstChangeable items
  | _ => none
where
  /-- The kind of the first changeable part of the items of a tuple. -/
  firstChangeable : List Value → Option String
    | [] => none
    | item :: others => (changeableKind? item).or (firstChangeable others)

/-- Checks that a marker may name a channel by a value. -/
def check (channel : Value) : Except Fault Unit :=
  match changeableKind? channel with
  | some kind => .error (.changeableKey kind)
  | none => .ok ()

/-- The channels that markers request, given by their arguments, on top of some others. -/
def ofMarkersFrom (levels : MarkerLevels) : List (List Value) → Except Fault MarkerLevels
  | [] => .ok levels
  | [channel, level] :: others => do
    let severity ← Severity.ofValue level
    check channel
    ofMarkersFrom (levels.request channel severity) others
  | arguments :: _ => .error (.markerArguments arguments)

/-- The channels that markers request, given by their arguments. -/
def ofMarkers (markers : List (List Value)) : Except Fault MarkerLevels := ofMarkersFrom [] markers

def toValues (levels : MarkerLevels) : List (Value × Value) :=
  levels.map fun (channel, severity) => (channel, .severity severity)

end MarkerLevels

end LogAssay
