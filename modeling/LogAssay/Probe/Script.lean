import LogAssay.Metadata.Decode
import LogAssay.Probe.Basic

/-!
# Scripted self-tests

A scripted subject delivers what its script says for each emission and may fail at one stage. It keeps a
transcript of the stages that were entered.
-/

namespace LogAssay.Probe

/-- The stages of a self-test. -/
inductive Stage where
  | configure
  | create
  | attach
  | emit
  | detach
  deriving DecidableEq, Repr

def Stage.name : Stage → String
  | configure => "configure"
  | create => "create"
  | attach => "attach"
  | emit => "emit"
  | detach => "detach"

/-- The cause that a delivered record shows. -/
inductive ShownCause where
  | same
  | other
  | missing
  deriving DecidableEq, Repr

/-- What is delivered for an emission; what is left out is as it should be. -/
structure Delivered where
  message : Option String := none
  metadata : Option Metadata := none
  className : String := module
  methodName : String := function
  severity : Option Severity := none
  cause : ShownCause := .same

/-- What a scripted subject does, and what it has been asked to do. -/
structure Script where
  deliveries : List (List Delivered) := []
  failing : Option Stage := none
  transcript : List String := []

namespace Script

/-- Enters a stage, which fails if the script says so. -/
def enter (stage : Stage) (line : String) : Act Script Unit := do
  let script ← get
  set { script with transcript := script.transcript ++ [line] }
  if script.failing = some stage then throw (.stageFailed stage.name)

def record (e : Emission) (d : Delivered) : Except Fault Record := do
  let decoded ← (Metadata.decode (d.message.getD e.message)).outcome
  let severity := d.severity.getD e.severity
  return {
    className := d.className
    methodName := d.methodName
    levelName := severity.name
    severity := severity
    timestamp := ⟨0⟩
    thread := .nothing
    message := decoded.message
    metadata := d.metadata.getD decoded.metadata
    cause := match d.cause with
      | .same => e.cause
      | .other => some ⟨.value, 1⟩
      | .missing => none }

def emitLine (e : Emission) : String :=
  let cause := match e.cause with
    | some c => c.type.name
    | none => Value.nothing.kindName
  "emit " ++ channel ++ " " ++ e.severity.name ++ " " ++ e.message ++ " " ++ cause

def emit (e : Emission) : Act (Collecting Script) Unit := do
  quietly (enter .emit (emitLine e))
  let c ← get
  let delivered ← Act.ofExcept ((c.state.deliveries.headD []).mapM (record e))
  set { state := { c.state with deliveries := c.state.deliveries.tail },
        records := c.records ++ delivered : Collecting Script }

def subject : Subject Script Unit where
  shown := "ScriptFactory()"
  configure := quietly (enter .configure ("configure " ++ channel))
  create := quietly (enter .create "create")
  backend := {
    start := fun r => quietly
      (enter .attach ("attach " ++ r.channel ++ " " ++ r.severity.name ++ " " ++ r.testId.quoted))
    stop := fun () => quietly (enter .detach "detach") }
  emit := emit

end Script

end LogAssay.Probe
