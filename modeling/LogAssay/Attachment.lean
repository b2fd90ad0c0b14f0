import LogAssay.Act
import LogAssay.Diagnostic

/-!
# Attachments

An interceptor attaches channels of one backend, each of them at most once at a time. A recorder stands for
one attachment. Closing it frees the channel and never fails: a backend that cannot let go is reported.
Closing a recorder again does nothing, even if its channel has been attached anew.

Reports are log events themselves, so a backend is told of each one at the moment when it is made. A backend that
has attached the channel of a report captures it like any other event.

## Main statement

* `attach_attached`: attaching an attached channel leaves the backend alone.
-/

namespace LogAssay

/-- Who is handed the records of an attachment. -/
inductive Collector where
  /-- A recorder or handler of its own, by its name. -/
  | named (name : String)
  /-- A capture, by its number. -/
  | capture (index : Nat)
  /-- A self-test. -/
  | probe
  deriving DecidableEq, Repr

/-- What is asked for when a channel is attached. -/
structure Request where
  channel : String
  severity : Severity
  testId : String := ""
  collector : Collector

/-- How channels of a backend are attached and detached. The state of the backend is `σ`, and what is needed
to detach a channel is `δ`. -/
structure Backend (σ δ : Type) where
  start : Request → Act σ δ
  stop : δ → Act σ Unit
  /-- What a report changes when it is logged. A backend that does not say takes no notice of reports. -/
  tell : Diagnostic → σ → σ := fun _ s => s

/-- Logs reports, one after the other. -/
def Backend.tellAll {σ δ : Type} (b : Backend σ δ) (reports : List Diagnostic) (s : σ) : σ :=
  reports.foldl (fun s report => b.tell report s) s

/-- A backend that takes no notice of reports. -/
def Backend.Silent {σ δ : Type} (b : Backend σ δ) : Prop := ∀ report s, b.tell report s = s

theorem Backend.Silent.tellAll {σ δ : Type} {b : Backend σ δ} (silent : b.Silent) (reports : List Diagnostic) (s : σ) :
    b.tellAll reports s = s := by
  induction reports generalizing s with
  | nil => rfl
  | cons report reports ih =>
    rw [Backend.tellAll, List.foldl_cons, silent]
    exact ih s

/-- The channels that an interceptor has attached, and the state of its backend. -/
structure Station (σ : Type) where
  attached : List String := []
  backend : σ

/-- One attachment, as long as it can be detached. -/
structure Recorder (δ : Type) where
  channel : String
  detachment : Option δ

namespace Recorder

variable {σ δ : Type}

def closed (r : Recorder δ) : Bool := r.detachment.isNone

def shown (r : Recorder δ) : String :=
  "Recorder(" ++ r.channel.quoted ++ ", " ++ (if r.closed then "closed" else "attached") ++ ")"

def report (channel : String) : Except Fault Unit → List Diagnostic
  | .ok () => []
  | .error fault => [.detachFailed channel fault]

/-- A recorder after it was closed. -/
def ended (r : Recorder δ) : Recorder δ := { r with detachment := none }

/-- The recorder and the station after closing, with what was reported. -/
def close (b : Backend σ δ) (r : Recorder δ) (s : Station σ) :
    List Diagnostic × Recorder δ × Station σ :=
  match r.detachment with
  | none => ([], r, s)
  | some d =>
    let (outcome, backend) := (b.stop d).result s.backend
    let reports := report r.channel outcome
    (reports, r.ended, ⟨s.attached.filter (· ≠ r.channel), b.tellAll reports backend⟩)

end Recorder

namespace Station

variable {σ δ : Type}

/-- Attaches a channel, unless it is attached already. -/
def attach (b : Backend σ δ) (request : Request) (s : Station σ) :
    Except Fault (Recorder δ) × Station σ :=
  if s.attached.contains request.channel then (.error (.alreadyAttached request.channel), s)
  else
    match (b.start request).result s.backend with
    | (.error fault, backend) => (.error fault, { s with backend := backend })
    | (.ok d, backend) =>
      (.ok ⟨request.channel, some d⟩, ⟨request.channel :: s.attached, backend⟩)

/-- Attaching an attached channel leaves the backend alone. -/
theorem attach_attached (b : Backend σ δ) {request : Request} {s : Station σ}
    (h : request.channel ∈ s.attached) :
    s.attach b request = (.error (.alreadyAttached request.channel), s) := by
  simp [attach, h]

/-- Attaches channels one by one up to the first that fails: the fault, if there is one, and the recorders
made until then. -/
def attachAll (b : Backend σ δ) : List Request → Station σ →
    Option Fault × List (Recorder δ) × Station σ
  | [], s => (none, [], s)
  | request :: others, s =>
    match s.attach b request with
    | (.error fault, s) => (some fault, [], s)
    | (.ok r, s) =>
      let (fault, recorders, s) := attachAll b others s
      (fault, r :: recorders, s)

end Station

end LogAssay
