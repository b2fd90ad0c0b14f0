import LogAssay.Settings.Levels
import LogAssay.Support

/-!
# Capture settings

Settings say which channels are captured at which severity, whether captures are told apart by test ids, and
which factory makes the interceptors. Each step makes new settings and leaves the old ones as they are.
Settings can also be read from a mapping; its sections are checked in a fixed order, and the first one that
is wrong is the one that is told.
-/

namespace LogAssay

/-- What is captured, and how. -/
structure Settings where
  levels : Levels := []
  useTestId : Bool := true
  factory : Option Factory := none

namespace Settings

def withLevel (s : Settings) (channel severity : Value) : Except Fault Settings := do
  return { s with levels := ← s.levels.requestValue channel severity }

def withLevels (s : Settings) (requests : List (Value × Value)) : Except Fault Settings := do
  return { s with levels := ← s.levels.requestValues requests }

def withTestId (s : Settings) (enabled : Bool) : Settings := { s with useTestId := enabled }

/-- The settings with a factory, or with the best one. -/
def withFactory (s : Settings) (factory : Option Factory) : Settings := { s with factory := factory }

/-- The settings with what a value that is no factory asks for: the best factory, if it is nothing. -/
def withFactoryValue (s : Settings) : Value → Except Fault Settings
  | .nothing => .ok { s with factory := none }
  | v => .error (.notFactory v.kindName)

def shown (s : Settings) : String :=
  let levels := Value.mapping (s.levels.map fun (c, l) => (.text c, .severity l))
  let factory := match s.factory with
    | none => "None"
    | some f => f.shown
  "CaptureConfig(levels=" ++ levels.literal ++ ", use_test_id=" ++ (Value.bool s.useTestId).literal
    ++ ", factory=" ++ factory ++ ")"

/-! ## Settings from a mapping -/

/-- The entries of a section that has to be a mapping with text keys. -/
def sectionEntries (title : String) : Value → Except Fault (List (Value × Value))
  | .mapping entries =>
    if entries.all fun (k, _) => k matches .scalar (.text _) then .ok entries
    else .error (.keyKind title)
  | _ => .error (.notMapping title)

def knownKeys : List String := ["version", "levels", "use_test_id"]

/-- The keys that are not understood, in order. -/
def unknownKeys (entries : List (Value × Value)) : List String :=
  (entries.filterMap fun (k, _) => match k with
    | .scalar (.text key) => if knownKeys.contains key then none else some key
    | _ => none).mergeSort fun a b => decide (a ≤ b)

/-- Checks that all keys and the version are understood. -/
def checkKeys (entries : List (Value × Value)) : Except Fault Unit := do
  let unknown := unknownKeys entries
  if !unknown.isEmpty then throw (.unknownKeys unknown)
  let version := (Value.find? entries "version").getD (.int 1)
  if !version.eq (.int 1) then throw (.version version)

/-- Adds the levels of a mapping; each one has to be a text or a severity. -/
def addLevels (levels : Levels) : List (Value × Value) → Except Fault Levels
  | [] => .ok levels
  | (channel, level) :: others => do
    match level with
    | .scalar (.text _) | .severity _ => pure ()
    | _ => throw (.levelKind channel.plain)
    let levels ← levels.requestValue channel level
    addLevels levels others

def ofValue (v : Value) : Except Fault Settings := do
  let entries ← sectionEntries "config" v
  checkKeys entries
  let requested ← sectionEntries "levels" ((Value.find? entries "levels").getD (.mapping []))
  let levels ← addLevels [] requested
  let useTestId ← match Value.find? entries "use_test_id" with
    | none => pure true
    | some (.scalar (.bool b)) => pure b
    | some _ => throw .testIdSwitch
  return { levels := levels, useTestId := useTestId }

/-- The settings that the options of a test run give: level lines, and the switch for test ids by its
truth. -/
def ofOptions (lines : List String) (useTestId : Value) : Except Fault Settings := do
  return { levels := ← Levels.ofLines lines, useTestId := useTestId.holds }

/-! ## Options of a test run -/

/-- An option that test runs are configured with. -/
structure RunOption where
  name : String
  help : String
  kind : String
  fallback : Value

/-- The options that are registered with the test runner. -/
def runOptions : List RunOption :=
  [⟨"logwitness_levels",
    "Channels captured by the logwitness fixture, one 'channel=LEVEL' per line.", "linelist",
    .list []⟩,
   ⟨"logwitness_use_test_id",
    "Tag each test's logs with a test id to isolate concurrent tests.", "bool", .bool true⟩]

/-- The lines that are added to options of the test runner, with the option. -/
def runnerLines : List (String × String) :=
  [("markers",
    "set_log_level(channel, level): capture 'channel' at 'level' and above "
      ++ "with the logwitness fixture")]

end Settings

end LogAssay
