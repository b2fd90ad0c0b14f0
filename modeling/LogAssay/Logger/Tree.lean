import LogAssay.Attachment
import LogAssay.Directory
import LogAssay.Logger.Event

/-!
# Logger trees

Loggers form a tree by their dotted names, below one root. The level in force for a logger is that of the
nearest logger from it outwards that has one. An event that reaches this level goes to the handlers of its
logger, then to those of the enclosing loggers, as long as each logger on the way passes events on. A handler
has a threshold of its own.
-/

namespace LogAssay

/-- A handler that captures events. -/
structure Handler where
  serial : Nat
  threshold : Int
  testId : String
  collector : Collector
  deriving DecidableEq, Repr

/-- A logger. The level zero stands for none. -/
structure Logger where
  level : Int := 0
  passesOn : Bool := true
  handlers : List Handler := []
  deriving DecidableEq, Repr

namespace Logger

def rootName : String := "root"

/-- The name under which a logger is kept; the empty name is the root too. -/
def canonical (name : String) : String := if name = "" then rootName else name

/-- The names that stand in front of the dots of a name, which is given in reverse, innermost first. Every dot counts,
also among several in a row, but a dot at the very front has no name before it. -/
def enclosingReversed : List Char → List (List Char)
  | [] => []
  | c :: s => if c = '.' ∧ s ≠ [] then s.reverse :: enclosingReversed s else enclosingReversed s

/-- The names of the loggers around a logger, innermost first, without the root. -/
def enclosing (name : String) : List String :=
  ((enclosingReversed name.toList.reverse).map String.ofList).filter (· ≠ rootName)

/-- The names of a logger and all loggers around it, innermost first. -/
def outward (name : String) : List String :=
  if canonical name = rootName then [rootName] else name :: enclosing name ++ [rootName]

theorem outward_eq_cons (name : String) : ∃ others, outward name = canonical name :: others := by
  unfold outward
  split
  · next h => exact ⟨[], by rw [h]⟩
  · next h =>
    refine ⟨enclosing name ++ [rootName], ?_⟩
    have : name ≠ "" := fun e => h (by simp [canonical, e])
    simp [canonical, this]

end Logger

/-- What a level override needs to know: the level to put back, the level that was put in its place, and how
many attachments hold it. -/
structure Override where
  saved : Int
  applied : Option Int := none
  holders : Nat := 0
  deriving DecidableEq, Repr

/-- Loggers by name, and the overrides of their levels. -/
structure LoggerTree where
  loggers : Directory Logger := { fallback := {}, entries := [(Logger.rootName, { level := 30 })] }
  overrides : Directory (Option Override) := { fallback := none }

namespace LoggerTree

def logger (t : LoggerTree) (name : String) : Logger := t.loggers.get (Logger.canonical name)

def change (t : LoggerTree) (name : String) (f : Logger → Logger) : LoggerTree :=
  { t with loggers := t.loggers.modify (Logger.canonical name) f }

theorem logger_change (t : LoggerTree) (name other : String) (f : Logger → Logger) :
    (t.change name f).logger other
      = if Logger.canonical other = Logger.canonical name then f (t.logger name)
        else t.logger other := by
  simp [logger, change, Directory.modify, Directory.get_put]

def setLevel (t : LoggerTree) (name : String) (level : Int) : LoggerTree :=
  t.change name fun l => { l with level := level }

/-- The tree with a logger that passes events on or keeps them. -/
def setPassing (t : LoggerTree) (name : String) (passesOn : Bool) : LoggerTree :=
  t.change name fun l => { l with passesOn := passesOn }

/-- The first level that is set, from the inside out; zero if none is. -/
def firstLevel (t : LoggerTree) : List String → Int
  | [] => 0
  | name :: others => if (t.logger name).level = 0 then firstLevel t others else (t.logger name).level

def effectiveLevel (t : LoggerTree) (name : String) : Int := t.firstLevel (Logger.outward name)

/-! ## Routing -/

/-- The handlers that an event passes, in order. -/
def handlersFrom (t : LoggerTree) : List String → List Handler
  | [] => []
  | name :: others =>
    (t.logger name).handlers ++ if (t.logger name).passesOn then handlersFrom t others else []

/-- The handlers that take an event of a level on a logger. -/
def takers (t : LoggerTree) (name : String) (level : Int) : List Handler :=
  (t.handlersFrom (Logger.outward name)).filter (·.threshold ≤ level)

/-- Whether a logger lets an event of a level through. -/
def isOpen (t : LoggerTree) (name : String) (level : Int) : Bool :=
  0 < level && t.effectiveLevel name ≤ level

/-! ## Level overrides -/

/-- The tree with one more holder of a logger's override, and with the level lowered if the level in force is
too high. -/
def lower (t : LoggerTree) (name : String) (native : Int) : LoggerTree :=
  let key := Logger.canonical name
  let held := (t.overrides.get key).getD { saved := (t.logger name).level }
  let held := { held with holders := held.holders + 1 }
  if native < t.effectiveLevel name then
    { t.setLevel name native with overrides := t.overrides.put key (some { held with applied := some native }) }
  else { t with overrides := t.overrides.put key (some held) }

/-- The tree with one holder less of a logger's override. Without holders the override ends, and the level is
put back unless someone else has changed it. -/
def release (t : LoggerTree) (name : String) : LoggerTree :=
  let key := Logger.canonical name
  match t.overrides.get key with
  | none => t
  | some held =>
    if 1 < held.holders then
      { t with overrides := t.overrides.put key (some { held with holders := held.holders - 1 }) }
    else
      let t := { t with overrides := t.overrides.put key none }
      if held.applied = some (t.logger name).level then t.setLevel name held.saved else t

/-! ## Attaching -/

/-- What is needed to detach a channel. -/
structure Detachment where
  name : String
  serial : Nat
  deriving DecidableEq, Repr

/-- The tree with a channel attached through a handler. -/
def attach (t : LoggerTree) (request : Request) (serial : Nat) : LoggerTree :=
  let native := Thresholds.standardLevel request.severity
  (t.lower request.channel native).change request.channel fun l =>
    { l with handlers := l.handlers ++ [⟨serial, native, request.testId, request.collector⟩] }

def detach (t : LoggerTree) (d : Detachment) : LoggerTree :=
  (t.change d.name fun l =>
    { l with handlers := l.handlers.filter (·.serial ≠ d.serial) }).release d.name

/-! ## Logging -/

/-- What handling an event leaves: the latches of call sites, what was reported, and what was captured. -/
structure Delivery where
  latches : Site.Latches
  notices : List Notice := []
  captured : List (Collector × Record) := []

/-- What one handler makes of an event. An event that cannot be converted is not captured. -/
def receive (tags : Tags) (e : Event) (latches : Site.Latches) (h : Handler) : Delivery :=
  let conversion := e.convert tags
  let (latches, cautions) := e.note latches conversion.outcome
  ⟨latches, conversion.reports.map .diagnostic ++ cautions.map .caution,
    match conversion.outcome with
    | .ok r => if TestId.accepts r.metadata h.testId then [(h.collector, r)] else []
    | .error _ => []⟩

/-- What several handlers make of an event, one after the other. -/
def receiveAll (tags : Tags) (e : Event) (latches : Site.Latches) : List Handler → Delivery
  | [] => { latches := latches }
  | h :: others =>
    let first := receive tags e latches h
    let rest := receiveAll tags e first.latches others
    ⟨rest.latches, first.notices ++ rest.notices, first.captured ++ rest.captured⟩

/-- Hands an event to the handlers that take it, whatever the level of its logger. -/
def handle (t : LoggerTree) (tags : Tags) (latches : Site.Latches) (name : String) (e : Event) :
    Delivery :=
  receiveAll tags e latches (t.takers name e.level)

def log (t : LoggerTree) (tags : Tags) (latches : Site.Latches) (name : String) (e : Event) :
    Delivery :=
  if t.isOpen name e.level then t.handle tags latches name e else { latches := latches }

end LoggerTree

end LogAssay
