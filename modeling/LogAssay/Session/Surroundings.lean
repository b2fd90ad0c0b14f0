import LogAssay.Capture.Hook
import LogAssay.Dispatch.Dispatcher
import LogAssay.Logger.Tree
import LogAssay.Probe.Basic

/-!
# Surroundings

The backends of a session: a logger tree, a hub that dispatches records, and interceptors that only note what is
asked of them. Whatever they capture arrives here in order, and so does what is reported meanwhile.

A report is logged on the tree like any event, under the tags in force, so whoever has attached its channel captures
it. Reports on how the metadata of a message was read are only noticed: they are about a record that is being
captured.
-/

namespace LogAssay

/-- The backends of a session, the present, and what has arrived since it was last looked at. -/
structure Surroundings where
  now : Timestamp
  tree : LoggerTree := {}
  hub : Dispatch.Hub := {}
  /-- What noting interceptors were asked for, by their names. -/
  notes : Directory (List String) := { fallback := [] }
  nextSerial : Nat := 0
  /-- The thread that everything is done in, unless an event tells its own. -/
  thread : Value := .nothing
  /-- How many errors have been reported as causes. -/
  failures : Nat := 0
  latches : Site.Latches := {}
  arrivals : List (Collector × Record) := []
  notices : List Notice := []

/-- What is needed to detach a channel from one of the backends. -/
inductive Detachment where
  | tree (d : LoggerTree.Detachment)
  | hub (d : Dispatch.Hub.Detachment)
  | noted (interceptor channel : String)

namespace Surroundings

/-- A number for a new handler. -/
def freshSerial : Act Surroundings Nat := do
  let s ← get
  set { s with nextSerial := s.nextSerial + 1 }
  return s.nextSerial

def onHub {α : Type} (a : Act Dispatch.Hub α) : Act Surroundings α := do
  let s ← get
  let (outcome, hub) := a.result s.hub
  set { s with hub := hub }
  Act.ofExcept outcome

theorem result_onHub {α : Type} (a : Act Dispatch.Hub α) (s : Surroundings) :
    (onHub a).result s = ((a.result s.hub).1, { s with hub := (a.result s.hub).2 }) := rfl

def receive (d : LoggerTree.Delivery) (s : Surroundings) : Surroundings :=
  { s with
    latches := d.latches
    arrivals := s.arrivals ++ d.captured
    notices := s.notices ++ d.notices }

/-- Logs an event on the tree, under the tags in force. -/
def log (tags : Tags) (name : String) (e : Event) (s : Surroundings) : Surroundings :=
  s.receive (s.tree.log tags s.latches name e)

/-- Hands an event to the handlers of a logger of the tree. -/
def handle (tags : Tags) (name : String) (e : Event) (s : Surroundings) : Surroundings :=
  s.receive (s.tree.handle tags s.latches name e)

/-- The event that a report is logged as. -/
def eventOf (d : Diagnostic) (s : Surroundings) : Event where
  level := d.weight.level
  message := { template := .text d.message }
  cause := d.fault?.map fun fault => ⟨fault.raised.kind.errorType, s.failures⟩
  module := some d.channel
  qualifiedName := some d.function
  created := Binary64.ofInt (s.now.micros / 1000000)
  thread := s.thread

/-- Logs a report on the tree. -/
def tell (tags : Tags) (d : Diagnostic) (s : Surroundings) : Surroundings :=
  let heard := s.log tags d.channel (s.eventOf d)
  { heard with
    notices := heard.notices ++ [.diagnostic d]
    failures := heard.failures + d.fault?.toList.length }

/-- Adds what handing a record over brought; the first fault on the way is passed on. -/
def accept (h : Dispatch.Hub.Handover) : Act Surroundings Unit := do
  modify fun s => { s with
    arrivals := s.arrivals ++ h.captured
    notices := s.notices ++ h.reports.map .diagnostic }
  match h.failure with
  | some fault => throw fault
  | none => return

def hubLog (name level message : String) : Act Surroundings Unit := do
  let _ ← onHub (Dispatch.Hub.getLogger name)
  let s ← get
  accept (s.hub.log s.now name level message)

/-- Hands a record to the handlers of a logger of the hub. -/
def hubDispatch (name : String) (record : Dispatch.Fields) : Act Surroundings Unit := do
  let logger ← onHub (Dispatch.Hub.getLogger name)
  accept (Dispatch.Hub.handOver (← get).now record logger.handlers)

/-! ## Backends -/

def detach : Detachment → Act Surroundings Unit
  | .tree d => modify fun s => { s with tree := s.tree.detach d }
  | .hub d => onHub (Dispatch.Hub.detach d)
  | .noted interceptor channel =>
    modify fun s => { s with
      notes := s.notes.modify interceptor (· ++ ["detach " ++ channel]) }

def attachTree (request : Request) : Act Surroundings Detachment := do
  let serial ← freshSerial
  modify fun s => { s with tree := s.tree.attach request serial }
  return .tree ⟨request.channel, serial⟩

def treeBackend : Backend Surroundings Detachment where
  start := attachTree
  stop := detach

/-- The tree, except that some channels cannot be attached. -/
def refusingBackend : Backend Surroundings Detachment where
  start request :=
    if request.channel.endsWith ".broken" then throw (.cannotAttach request.channel)
    else attachTree request
  stop := detach

def hubBackend : Backend Surroundings Detachment where
  start request := do
    let serial ← freshSerial
    let d ← onHub (Dispatch.Hub.attach request serial)
    return .hub d
  stop := detach

/-- What attaching to a hub gives: the detachment of the hub, with a number of its own. -/
theorem result_attachHub (request : Request) (s : Surroundings) :
    (hubBackend.start request).result s
      = (((Dispatch.Hub.attach request s.nextSerial).result s.hub).1.map .hub,
        { s with
          nextSerial := s.nextSerial + 1
          hub := ((Dispatch.Hub.attach request s.nextSerial).result s.hub).2 }) := by
  have hserial : (freshSerial).result s = (.ok s.nextSerial, { s with nextSerial := s.nextSerial + 1 }) := rfl
  show ((freshSerial >>= fun serial => onHub (Dispatch.Hub.attach request serial) >>= fun d =>
    pure (Detachment.hub d) : Act Surroundings Detachment)).result s = _
  rw [Act.result_bind_ok hserial]
  rcases hattach : (Dispatch.Hub.attach request s.nextSerial).result s.hub with ⟨fault | d, hub⟩
  · exact Act.result_bind_error (by rw [result_onHub, hattach])
  · refine (Act.result_bind_ok (by rw [result_onHub, hattach])).trans ?_
    rfl

/-- An interceptor that notes what is asked of it, and may fail to attach or to detach afterwards. -/
def notingBackend (interceptor : String) (failsToAttach failsToDetach : Bool) :
    Backend Surroundings Detachment where
  start request := do
    let line := "attach " ++ request.channel ++ " " ++ request.severity.name ++ " "
      ++ request.testId.quoted
    modify fun s => { s with notes := s.notes.modify interceptor (· ++ [line]) }
    if failsToAttach then throw (.cannotAttach request.channel)
    return .noted interceptor request.channel
  stop d := do
    detach d
    if failsToDetach then throw .backendGone

theorem silent_treeBackend : treeBackend.Silent := fun _ _ => rfl

theorem silent_hubBackend : hubBackend.Silent := fun _ _ => rfl

/-- A backend whose reports are logged on the tree, under the tags in force. -/
def reporting (b : Backend Surroundings Detachment) (a : Ambience) : Backend Surroundings Detachment :=
  { b with tell := tell a.tags }

/-- The backend of the interceptors that a factory makes. -/
def backendOf : Factory → Backend Surroundings Detachment
  | .standard => treeBackend
  | .refusing => refusingBackend
  | .dispatch _ => hubBackend

/-! ## Self-tests -/

/-- An action under self-test: the records that arrive for the test go to its collector. -/
def probed {α : Type} (a : Act Surroundings α) : Act (Probe.Collecting Surroundings) α := do
  let c ← get
  let (outcome, s) := a.result c.state
  set {
    state := { s with arrivals := s.arrivals.filter (·.1 ≠ Collector.probe) },
    records := c.records ++ (s.arrivals.filter (·.1 = Collector.probe)).map (·.2) : Probe.Collecting Surroundings }
  Act.ofExcept outcome

/-- The tree under self-test, with the tags in force. -/
def treeSubject (tags : Tags) (factory : Factory) : Probe.Subject Surroundings Detachment where
  shown := factory.shown
  configure := probed <| modify fun s => { s with
    tree := (s.tree.setLevel Probe.channel (Thresholds.standardLevel .info)).setPassing Probe.channel false }
  create := return
  backend := {
    start := fun request => probed ((backendOf factory).start request)
    stop := fun d => probed ((backendOf factory).stop d) }
  emit e := probed <| modify fun s => s.log tags Probe.channel {
    level := Thresholds.standardLevel e.severity
    message := { template := .text e.message }
    cause := e.cause
    module := some Probe.module
    qualifiedName := some Probe.function
    created := Binary64.ofInt (s.now.micros / 1000000)
    thread := s.thread }

/-- The hub as a dispatcher. Its loggers go by their names. -/
def hubDispatcher : Dispatch.Dispatcher Surroundings String where
  getLogger name := do
    let _ ← onHub (Dispatch.Hub.getLogger name)
    return name
  level name := do return ((← get).hub.loggers.get name).level
  setLevel name level := onHub (Dispatch.Hub.setLevel name (.text level))
  addHandler name handler := onHub (Dispatch.Hub.addHandler name handler)
  removeHandler name handler := onHub (Dispatch.Hub.removeHandler name handler.serial)
  log name level message := do
    let s ← get
    accept (s.hub.log s.now name level message)
  serial := freshSerial

/-- The hub under self-test. -/
def hubSubject (factory : Factory) : Probe.Subject Surroundings (Dispatch.Dispatcher.Detachment String) :=
  (hubDispatcher.map probed).subject factory.shown

/-- The error that a self-test emits. -/
def probeCause : Cause := ⟨.runtime, 0⟩

/-- The support level of a factory: the level, what was reported, and the surroundings behind it. -/
def supportOf (tags : Tags) (known : Option Support) (factory : Factory) (s : Surroundings) :
    Support × List Diagnostic × Surroundings :=
  match factory with
  | .dispatch name => Probe.supportLevel known (hubSubject (.dispatch name)) probeCause s
  | factory => Probe.supportLevel known (treeSubject tags factory) probeCause s

end Surroundings

end LogAssay
