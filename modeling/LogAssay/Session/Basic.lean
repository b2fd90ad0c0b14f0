import LogAssay.Capture.Basic
import LogAssay.Capture.Hook
import LogAssay.Registry
import LogAssay.Session.Surroundings

/-!
# Sessions

A session is everything that tests do with captures in one run of a program, with all names that they give:
interceptors, recorders, scopes of tags, captures, hooks and expectations. What is captured during a step is
entered in the archive at the end of the step, first what recorders and handlers of their own got, in order of
arrival, then what captures got, capture by capture in the order in which they were made. The archive numbers
the entries of the session.
-/

namespace LogAssay

/-- The kinds of interceptors. -/
inductive InterceptorKind where
  | made (factory : Factory)
  | noting (failsToAttach failsToDetach : Bool)
  deriving DecidableEq, Repr

/-- The backend of an interceptor of a kind, by the name of the interceptor. -/
def InterceptorKind.backend (name : String) : InterceptorKind → Backend Surroundings Detachment
  | made factory => Surroundings.backendOf factory
  | noting failsToAttach failsToDetach => Surroundings.notingBackend name failsToAttach failsToDetach

/-- An interceptor: its kind, and the channels that it has attached. -/
structure Interceptor where
  kind : InterceptorKind := .made .standard
  attached : List String := []
  deriving DecidableEq, Repr

/-- Everything in one run of a program. -/
structure Session where
  around : Surroundings
  tags : Tags := []
  pool : TestId.Pool := {}
  /-- The support level of the logger tree, once it is known. -/
  treeSupport : Option Support := none
  registry : Registry := {}
  interceptors : Directory Interceptor := { fallback := {} }
  /-- Recorders with the names of their interceptors. -/
  recorders : Directory (Option (String × Recorder Detachment)) := { fallback := none }
  /-- The tags that were in force when a scope was entered. -/
  scopes : Directory (Option Tags) := { fallback := none }
  /-- Captures with their names, in the order in which they were made. -/
  captures : List (String × Capture) := []
  hooks : Directory (Option (Hook Detachment)) := { fallback := none }
  expectations : Directory (Option (Nat × OpenExpectation)) := { fallback := none }
  /-- The hooks of tests that run. -/
  tests : Directory (Option (Hook Detachment)) := { fallback := none }
  archive : List Entry := []

namespace Session

/-- The part of a session that installations change. -/
def scene (s : Session) : Scene Surroundings :=
  { backend := s.around, tags := s.tags, pool := s.pool }

/-- The session with the part that installations change. -/
def withScene (s : Session) (scene : Scene Surroundings) : Session :=
  { s with around := scene.backend, tags := scene.tags, pool := scene.pool }

/-- A backend whose reports are logged under the tags in force. -/
def reporting (s : Session) (b : Backend Surroundings Detachment) : Backend Surroundings Detachment :=
  Surroundings.reporting b s.scene.toAmbience

/-- Logs reports. -/
def report (reports : List Diagnostic) : Act Session Unit :=
  modify fun s => { s with around := (s.reporting Surroundings.treeBackend).tellAll reports s.around }

def onSurroundings {α : Type} (a : Act Surroundings α) : Act Session α := do
  let s ← get
  let (outcome, around) := a.result s.around
  set { s with around := around }
  Act.ofExcept outcome

/-- The number of the latest capture of a name. -/
def captureIndex? (s : Session) (name : String) : Option Nat :=
  (s.captures.reverse.findIdx? (·.1 = name)).map (s.captures.length - 1 - ·)

def capture (s : Session) (name : String) : Capture :=
  match s.captureIndex? name with
  | some i => (s.captures[i]?.map (·.2)).getD {}
  | none => {}

/-- The session with the latest capture of a name changed. -/
def changeCapture (name : String) (f : Capture → Capture) : Act Session Unit :=
  modify fun s =>
    match s.captureIndex? name with
    | some i => { s with captures := s.captures.modify i fun (n, c) => (n, f c) }
    | none => s

/-! ## The archive -/

/-- The archive with more records, numbered on. -/
def enter (archive : List Entry) (records : List Record) : List Entry :=
  records.zipIdx archive.length |>.map fun (r, serial) => { r with serial := serial }

/-- The name of the recorder or handler of its own that a record arrived for. -/
def ownName : Collector → Option String
  | .named name => some name
  | _ => none

/-- The records of an arrival list that came for a capture. -/
def arrivedFor (arrivals : List (Collector × Record)) (index : Nat) : List Record :=
  (arrivals.filter (·.1 = .capture index)).map (·.2)

/-- Enters what came for the captures from a number on; the entries with the names of their captures. -/
def enterCaptures (arrivals : List (Collector × Record)) (archive : List Entry) (index : Nat) :
    List (String × Capture) → List (String × Capture) × List (String × Entry)
  | [] => ([], [])
  | (name, c) :: others =>
    let fresh := enter archive (arrivedFor arrivals index)
    let (captures, entries) := enterCaptures arrivals (archive ++ fresh) (index + 1) others
    ((name, fresh.foldl Capture.collect c) :: captures, fresh.map (name, ·) ++ entries)

/-- Enters everything that has arrived: the entries with the names of those who captured them. -/
def commit (s : Session) : List (String × Entry) × Session :=
  let arrivals := s.around.arrivals
  let own := arrivals.filterMap fun (collector, r) => (ownName collector).map (·, r)
  let ownEntries := (own.map (·.1)).zip (enter s.archive (own.map (·.2)))
  let archive := s.archive ++ ownEntries.map (·.2)
  let (captures, entries) := enterCaptures arrivals archive 0 s.captures
  (ownEntries ++ entries, { s with
    around := { s.around with arrivals := [] }
    captures := captures
    archive := archive ++ entries.map (·.2) })

/-! ## Attaching -/

/-- Attaches a channel through an interceptor; the recorder, under a name. -/
def attach (name interceptor channel : String) (severity : Severity) (testId : String) :
    Act Session (Recorder Detachment) := do
  let s ← get
  let i := s.interceptors.get interceptor
  let (outcome, station) := Station.attach (s.reporting (i.kind.backend interceptor))
    ⟨channel, severity, testId, .named name⟩ ⟨i.attached, s.around⟩
  set { s with
    around := station.backend
    interceptors := s.interceptors.put interceptor { i with attached := station.attached } }
  let recorder ← Act.ofExcept outcome
  modify fun s => { s with recorders := s.recorders.put name (some (interceptor, recorder)) }
  return recorder

def close (name : String) : Act Session (Option (Recorder Detachment)) := do
  let s ← get
  match s.recorders.get name with
  | none => return none
  | some (interceptor, recorder) =>
    let i := s.interceptors.get interceptor
    let (_, recorder, station) :=
      recorder.close (s.reporting (i.kind.backend interceptor)) ⟨i.attached, s.around⟩
    set { s with
      around := station.backend
      interceptors := s.interceptors.put interceptor { i with attached := station.attached }
      recorders := s.recorders.put name (some (interceptor, recorder)) }
    return some recorder

/-! ## Installing -/

/-- The best factory. The logger tree is the only registered one, and is tested when it is first asked for. -/
def bestFactory : Act Session Factory := do
  let s ← get
  let (support, tested, around) := s.around.supportOf s.tags s.treeSupport .standard
  let registry : Registry := { s.registry with factories := [⟨Factory.standard.shown, support⟩] }
  let (outcome, registry, reports) := registry.best
  set { s with around := around, treeSupport := some support, registry := registry }
  report (tested ++ reports)
  let _ ← Act.ofExcept outcome
  return .standard

/-- The channels of an installation: the root, if none is asked for. -/
def installedLevels (levels : Levels) : Levels := if levels.isEmpty then [("", .info)] else levels

def factoryOf (settings : Settings) : Act Session Factory :=
  match settings.factory with
  | some factory => return factory
  | none => bestFactory

/-- Installs a capture by its number, with more levels than its own. -/
def install (index : Nat) (settings : Settings) (extra : List (Value × Value)) :
    Act Session (Hook Detachment) := do
  let settings ← Act.ofExcept (settings.withLevels extra)
  let factory ← factoryOf settings
  let s ← get
  let (outcome, scene) := Hook.install (Surroundings.reporting (Surroundings.backendOf factory))
    (installedLevels settings.levels) settings.useTestId index s.scene
  set (s.withScene scene)
  Act.ofExcept outcome

/-- The check at the end of the capture of a number. -/
def checkOf (s : Session) (index : Nat) : Except Fault Unit :=
  match s.captures[index]? with
  | some (_, c) => c.verification s.archive
  | none => .ok ()

/-- Closes a hook. Any backend serves, because each detachment knows its own. What has been captured until the channels
are detached is checked. -/
def closeHook (sameContext verify : Bool) (h : Hook Detachment) :
    Act Session (Except Fault Unit × Hook Detachment) := do
  let s ← get
  let check (scene : Scene Surroundings) := ((s.withScene scene).commit.2).checkOf h.capture
  let (outcome, h, scene) := h.close (Surroundings.reporting Surroundings.treeBackend) sameContext
    (if verify then some check else none) s.scene
  set (s.withScene scene)
  return (outcome, h)

/-! ## Views -/

/-- The level of a logger of the tree, the level in force for it, and the number of its handlers. -/
def treeState (s : Session) (name : String) : Int × Int × Nat :=
  let t := s.around.tree
  ((t.logger name).level, t.effectiveLevel name, (t.logger name).handlers.length)

/-- The level of a logger of the hub, and the number of its handlers. -/
def hubState (s : Session) (name : String) : Value × Nat :=
  let logger := s.around.hub.loggers.get name
  (logger.level, logger.handlers.length)

end Session

end LogAssay
