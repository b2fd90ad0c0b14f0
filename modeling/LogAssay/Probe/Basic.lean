import LogAssay.Attachment
import LogAssay.Metadata.Encode
import LogAssay.Record
import LogAssay.Support

/-!
# Self-tests

How much of an event a backend's interceptors capture is found out by a self-test. A channel of its own is
attached at `FINE`, and three events are emitted: one with a cause, one with metadata, and one below the
threshold. The backend has full support if it delivers exactly the first two, each in every detail; no support
if a stage fails, if nothing is delivered, or if a delivered message lacks its text; and partial support
otherwise. The channel is always detached again, and trouble with that does not count.

## Main statements

* `supportLevel_known`: a support level that is known is not tested again.
* `supportLevel_none`: one that is not known is found out by a self-test.
-/

namespace LogAssay.Probe

/-- The channel of self-tests. -/
def channel : String := "logwitness.probe"

def module : String := "logwitness.interceptor"

def function : String := "_emit_probe_logs"

def enabledText : String := "<<enabled message>>"

/-- The text of the event that is captured because the level is lowered. -/
def forcedText : String := "<<forced message>>"

/-- The text of the event that is not to be captured. -/
def disabledText : String := "<<disabled message>>"

def forcedKey : String := "forced"

def forcedMessage : String :=
  match Metadata.encode forcedText [(forcedKey, .bool true)] with
  | .ok message => message
  | .error _ => forcedText

/-- What is emitted in a self-test. -/
structure Emission where
  severity : Severity
  message : String
  cause : Option Cause := none

def emissions (cause : Cause) : List Emission :=
  [{ severity := .info, message := enabledText, cause := some cause },
   { severity := .fine, message := forcedMessage },
   { severity := .finest, message := disabledText }]

/-! ## Grading -/

/-- The support that one delivered record shows. -/
def gradeOne (r : Record) (severity : Severity) (text : String) (cause : Option Cause) : Support :=
  if !Text.occursIn text.toList r.message.toList then .none
  else if r.className = module ∧ r.methodName = function ∧ r.severity = severity ∧ r.cause = cause then
    .full
  else .partly

/-- Whether a record carries the metadata of the forced event. -/
def carriesForced (r : Record) : Bool := r.hasMetadata forcedKey (.bool true) matches .ok true

def grade (cause : Cause) : List Record → Support
  | [] => .none
  | [enabled, forced] =>
    min (min (gradeOne enabled .info enabledText (some cause)) (gradeOne forced .fine forcedText none))
      (if carriesForced forced then .full else .partly)
  | enabled :: _ => min (gradeOne enabled .info enabledText (some cause)) .partly

/-! ## Running -/

/-- The state of a backend under self-test, with the records that the collector of the test has been handed. -/
structure Collecting (σ : Type) where
  state : σ
  records : List Record := []

/-- A backend as a self-test uses it. Whatever it is asked for may bring records to the collector. -/
structure Subject (σ δ : Type) where
  shown : String
  configure : Act (Collecting σ) Unit
  create : Act (Collecting σ) Unit
  backend : Backend (Collecting σ) δ
  emit : Emission → Act (Collecting σ) Unit

variable {σ δ : Type}

/-- An action of the backend that brings nothing to the collector. -/
def quietly {α : Type} (a : Act σ α) : Act (Collecting σ) α := do
  let c ← get
  let (outcome, s) := a.result c.state
  set { c with state := s }
  Act.ofExcept outcome

def Subject.emitAll (subject : Subject σ δ) : List Emission → Act (Collecting σ) Unit
  | [] => return
  | e :: others => do
    subject.emit e
    subject.emitAll others

def request : Request := { channel := channel, severity := .fine, collector := .probe }

/-- Runs a self-test: the support, what was reported, and the state behind it with the collected records. -/
def run (subject : Subject σ δ) (cause : Cause) (s : σ) : Support × List Diagnostic × Collecting σ :=
  match (do subject.configure; subject.create : Act (Collecting σ) Unit).result { state := s } with
  | (.error fault, c) => (.none, [.probeFailed subject.shown fault], c)
  | (.ok (), c) =>
    match Station.attach subject.backend request { backend := c } with
    | (.error fault, station) => (.none, [.probeFailed subject.shown fault], station.backend)
    | (.ok recorder, station) =>
      let (outcome, c) := (subject.emitAll (emissions cause)).result station.backend
      let (reports, _, station) := recorder.close subject.backend { station with backend := c }
      match outcome with
      | .error fault => (.none, reports ++ [.probeFailed subject.shown fault], station.backend)
      | .ok () => (grade cause station.backend.records, reports, station.backend)

/-- The support level of a factory, from memory or from a self-test: the level, and what was reported. -/
def supportLevel (known : Option Support) (subject : Subject σ δ) (cause : Cause) (s : σ) :
    Support × List Diagnostic × σ :=
  match known with
  | some level => (level, [], s)
  | none =>
    let (level, reports, c) := run subject cause s
    (level, reports, c.state)

/-- A support level that is known is not tested again. -/
theorem supportLevel_known (level : Support) (subject : Subject σ δ) (cause : Cause) (s : σ) :
    supportLevel (some level) subject cause s = (level, [], s) := rfl

/-- A support level that is not known is found out by a self-test. -/
theorem supportLevel_none {subject : Subject σ δ} {cause : Cause} {s : σ} {level : Support}
    {reports : List Diagnostic} {c : Collecting σ} (h : run subject cause s = (level, reports, c)) :
    supportLevel none subject cause s = (level, reports, c.state) := by
  simp only [supportLevel, h]

end LogAssay.Probe
