import LogAssay.Dispatch.Hub
import LogAssay.Probe.Basic

/-!
# Dispatchers

A dispatcher is any backend that hands records to handlers: it has loggers by name, and a logger has a level and
handlers. An interceptor attaches a channel by lowering the level of its logger, if that is needed, and adding a
handler; detaching removes the handler and puts the level back, if it was lowered and had been a text. A factory tests
itself through the same calls, and an event loses its cause on the way.
-/

namespace LogAssay.Dispatch

/-- The calls that a backend answers. The state of the backend is `σ`, and `κ` are its loggers. -/
structure Dispatcher (σ κ : Type) where
  getLogger : String → Act σ κ
  /-- The level of a logger, or nothing if it has none. -/
  level : κ → Act σ Value
  setLevel : κ → String → Act σ Unit
  addHandler : κ → Handler → Act σ Unit
  removeHandler : κ → Handler → Act σ Unit
  /-- Logs a message at a level. -/
  log : κ → String → String → Act σ Unit
  /-- A number for a new handler. -/
  serial : Act σ Nat

namespace Dispatcher

variable {σ τ κ : Type}

/-- The same calls on another state. -/
def map (d : Dispatcher σ κ) (f : {α : Type} → Act σ α → Act τ α) : Dispatcher τ κ where
  getLogger name := f (d.getLogger name)
  level logger := f (d.level logger)
  setLevel logger level := f (d.setLevel logger level)
  addHandler logger handler := f (d.addHandler logger handler)
  removeHandler logger handler := f (d.removeHandler logger handler)
  log logger level message := f (d.log logger level message)
  serial := f d.serial

/-- What is needed to detach a channel: its logger, the handler, and the level to put back. -/
structure Detachment (κ : Type) where
  logger : κ
  handler : Handler
  restored : Option String

def attach (d : Dispatcher σ κ) (request : Request) : Act σ (Detachment κ) := do
  let serial ← d.serial
  let logger ← d.getLogger request.channel
  let level ← d.level logger
  let handler : Handler := ⟨⟨request.severity, request.testId⟩, serial, request.collector⟩
  let lowered := Hub.lowers level request.severity
  if lowered then d.setLevel logger (levelName request.severity)
  d.addHandler logger handler
  return ⟨logger, handler, if lowered then Hub.levelText level else none⟩

def detach (d : Dispatcher σ κ) (detachment : Detachment κ) : Act σ Unit := do
  d.removeHandler detachment.logger detachment.handler
  match detachment.restored with
  | some level => d.setLevel detachment.logger level
  | none => return

def backend (d : Dispatcher σ κ) : Backend σ (Detachment κ) where
  start := d.attach
  stop := d.detach

/-- Lets informational events of a channel through. -/
def configure (d : Dispatcher σ κ) (channel : String) : Act σ Unit := do
  d.setLevel (← d.getLogger channel) (levelName .info)

/-- Logs an event, without its cause. -/
def emit (d : Dispatcher σ κ) (channel : String) (e : Probe.Emission) : Act σ Unit := do
  d.log (← d.getLogger channel) (levelName e.severity) e.message

/-- The self-test of a factory, as it is shown. -/
def subject (d : Dispatcher (Probe.Collecting σ) κ) (shown : String) : Probe.Subject σ (Detachment κ) where
  shown := shown
  configure := d.configure Probe.channel
  create := return
  backend := d.backend
  emit := d.emit Probe.channel

end Dispatcher

end LogAssay.Dispatch
