import LogAssay.Dispatch.Dispatcher
import LogAssay.Proofs.Probe.Grading

/-!
# Backends of any conduct

A backend that dispatches records is foreign code: in any call it may hand any records to any handlers, as often as it
likes, see what comes of that, and end with a result or a failure. Its conduct in one call is a tree with a branch for
everything that may come of handing a record over. A handler converts each record by itself, and a converted record
never tells a call site or a cause. So no conduct at all brings a self-test to full support.

## Main statements

* `capture_anonymous`: what a handler captures has no call site and no cause.
* `AllAnonymous.run_ne_full`: a self-test that collects such records only does not come to full support.
* `Dispatcher.Maintains.subject`: what every call of a dispatcher keeps, every stage of its self-test keeps.
* `Service.collected_anonymous`, `Service.ask_not_full`: what this means for a backend of any conduct.
-/

namespace LogAssay.Dispatch

/-! ## Converted records -/

/-- A record that tells neither a call site nor a cause. -/
structure Anonymous (r : Record) : Prop where
  className : r.className = "<unknown>"
  methodName : r.methodName = "<unknown>"
  cause : r.cause = none

theorem complete_anonymous {now : Timestamp} {record metadata : Fields} {decoded : Metadata.Decoded} {r : Record}
    (h : complete now record metadata decoded = .ok r) : Anonymous r := by
  obtain ⟨level, -, h⟩ := exists_ok_of_bind h
  obtain ⟨time, -, h⟩ := exists_ok_of_bind h
  obtain ⟨thread, -, h⟩ := exists_ok_of_bind h
  obtain ⟨merged, -, h⟩ := exists_ok_of_bind h
  obtain rfl := Except.ok.inj h
  exact ⟨rfl, rfl, rfl⟩

theorem convert_anonymous {now : Timestamp} {record : Fields} {r : Record} (h : (convert now record).outcome = .ok r) :
    Anonymous r := by
  unfold convert at h
  split at h
  · obtain ⟨decoded, -, h⟩ := exists_ok_of_bind h
    obtain ⟨metadata, -, h⟩ := exists_ok_of_bind h
    exact complete_anonymous h
  · cases h

/-- **What a handler captures is anonymous**, whatever record it is handed. -/
theorem capture_anonymous {gate : Gate} {now : Timestamp} {record : Fields} {r : Record}
    (h : (gate.capture now record).outcome = .ok (some r)) : Anonymous r := by
  unfold Gate.capture at h
  split at h
  · cases h
  · obtain ⟨converted, hconverted, h⟩ := exists_ok_of_bind h
    have hanonymous := convert_anonymous hconverted
    split at h
    · cases h
      exact hanonymous
    · cases h

/-! ## Self-tests that collect converted records -/

open Probe (Collecting)

section SelfTests

variable {σ κ : Type}

/-- All records that were collected are anonymous. -/
def AllAnonymous (c : Collecting σ) : Prop := ∀ r ∈ c.records, Anonymous r

/-- Anonymous records do not show the events of a self-test. -/
theorem AllAnonymous.not_fullSupport {c : Collecting σ} (h : AllAnonymous c) (cause : Cause)
    (stages : List (Probe.Stage × Option Fault)) : ¬Probe.FullSupport cause stages c.records := by
  rintro ⟨-, first, second, hrecords, hfirst, -, -⟩
  have hunknown := (h first (hrecords ▸ List.mem_cons_self)).className
  rw [hfirst.className] at hunknown
  exact absurd hunknown (by decide)

/-- **A self-test that collects anonymous records only does not come to full support.** -/
theorem AllAnonymous.run_ne_full {δ : Type} {subject : Probe.Subject σ δ} {cause : Cause} {s : σ}
    (h : AllAnonymous (Probe.run subject cause s).2.2) : (Probe.run subject cause s).1 ≠ .full := by
  obtain ⟨level, reports, c, stages, hrun, -, hcourse⟩ := Probe.run_noted subject cause s
  rw [hrun] at h ⊢
  exact fun hfull => h.not_fullSupport cause stages (hcourse.full_iff.1 hfull)

namespace Dispatcher

/-- What every call of a dispatcher keeps, whether it fails or not. -/
structure Maintains (d : Dispatcher σ κ) (P : σ → Prop) : Prop where
  getLogger : ∀ name, (d.getLogger name).Maintains P
  level : ∀ logger, (d.level logger).Maintains P
  setLevel : ∀ logger level, (d.setLevel logger level).Maintains P
  addHandler : ∀ logger handler, (d.addHandler logger handler).Maintains P
  removeHandler : ∀ logger handler, (d.removeHandler logger handler).Maintains P
  log : ∀ logger level message, (d.log logger level message).Maintains P
  serial : d.serial.Maintains P

/-- **What every call keeps, every stage of a self-test keeps.** -/
theorem Maintains.subject {d : Dispatcher (Collecting σ) κ} {P : Collecting σ → Prop} (h : d.Maintains P)
    (shown : String) : (d.subject shown).Maintains P where
  configure := (h.getLogger _).bind fun _ => h.setLevel _ _
  create := .pure ()
  start := by
    intro request
    refine h.serial.bind fun serial => (h.getLogger _).bind fun logger => (h.level logger).bind fun level => ?_
    dsimp only
    split
    · exact (h.setLevel _ _).bind fun _ => (h.addHandler _ _).bind fun _ => .pure _
    · exact (h.addHandler _ _).bind fun _ => .pure _
  stop := by
    intro detachment
    refine (h.removeHandler _ _).bind fun _ => ?_
    split
    · exact h.setLevel _ _
    · exact .pure ()
  tell := fun _ _ hc => hc
  emit := fun _ => (h.getLogger _).bind fun _ => h.log _ _ _

/-- The same calls on another state keep what they are made to keep there. -/
theorem Maintains.map {τ : Type} {d : Dispatcher σ κ} {P : σ → Prop} {Q : τ → Prop} (h : d.Maintains P)
    {f : {α : Type} → Act σ α → Act τ α} (hf : ∀ {α : Type} {a : Act σ α}, a.Maintains P → (f a).Maintains Q) :
    (d.map f).Maintains Q where
  getLogger name := hf (h.getLogger name)
  level logger := hf (h.level logger)
  setLevel logger level := hf (h.setLevel logger level)
  addHandler logger handler := hf (h.addHandler logger handler)
  removeHandler logger handler := hf (h.removeHandler logger handler)
  log logger level message := hf (h.log logger level message)
  serial := hf h.serial

end Dispatcher

end SelfTests

/-! ## Conduct -/

/-- What the code of a backend does in one call: it ends, or it hands a record to a handler at some time and goes on by
what came of that. -/
inductive Conduct (σ α : Type) where
  | done (outcome : Except Fault α) (state : σ)
  | dispatch (handler : Handler) (now : Timestamp) (record : Fields) (next : Reported Unit → Conduct σ α)

/-- What the collector of a self-test is handed by a handler. -/
def Handler.probed (h : Handler) (now : Timestamp) (record : Fields) : List Record :=
  match (h.toGate.capture now record).outcome with
  | .ok (some r) => if h.collector = .probe then [r] else []
  | _ => []

theorem Handler.probed_anonymous (h : Handler) (now : Timestamp) (record : Fields) :
    ∀ r ∈ h.probed now record, Anonymous r := by
  intro r hr
  unfold Handler.probed at hr
  split at hr
  · next captured hcapture =>
    split at hr
    · obtain rfl := List.mem_singleton.1 hr
      exact capture_anonymous hcapture
    · cases hr
  · cases hr

namespace Conduct

variable {σ α : Type}

/-- Carries a call out, for a collector that has been handed some records already. -/
def run : Conduct σ α → List Record → Except Fault α × Collecting σ
  | done outcome state, records => (outcome, { state, records })
  | dispatch h now record next, records =>
    let capture := h.toGate.capture now record
    run (next ⟨capture.reports, capture.outcome.map fun _ => ()⟩) (records ++ h.probed now record)

/-- The call as an action. -/
def act (code : σ → Conduct σ α) : Act (Collecting σ) α := ExceptT.mk fun c => (code c.state).run c.records

/-- **Whatever a backend does in a call, only anonymous records are collected.** -/
theorem run_anonymous (code : Conduct σ α) (records : List Record) (h : ∀ r ∈ records, Anonymous r) :
    AllAnonymous (code.run records).2 := by
  induction code generalizing records with
  | done outcome state => exact h
  | dispatch handler now record next ih =>
    refine ih _ _ fun r hr => ?_
    rcases List.mem_append.1 hr with hr | hr
    · exact h r hr
    · exact Handler.probed_anonymous handler now record r hr

theorem maintains_act (code : σ → Conduct σ α) : (act code).Maintains AllAnonymous :=
  fun c hc => run_anonymous (code c.state) c.records hc

end Conduct

/-! ## Self-tests with any conduct -/

/-- A backend by its conduct in each call. The state of the backend is `σ`, and `κ` are its loggers. -/
structure Service (σ κ : Type) where
  getLogger : String → σ → Conduct σ κ
  level : κ → σ → Conduct σ Value
  setLevel : κ → String → σ → Conduct σ Unit
  addHandler : κ → Handler → σ → Conduct σ Unit
  removeHandler : κ → Handler → σ → Conduct σ Unit
  log : κ → String → String → σ → Conduct σ Unit
  serial : σ → Nat

namespace Service

open Conduct

variable {σ κ : Type}

def dispatcher (b : Service σ κ) : Dispatcher (Collecting σ) κ where
  getLogger name := act (b.getLogger name)
  level logger := act (b.level logger)
  setLevel logger level := act (b.setLevel logger level)
  addHandler logger handler := act (b.addHandler logger handler)
  removeHandler logger handler := act (b.removeHandler logger handler)
  log logger level message := act (b.log logger level message)
  serial := do return b.serial (← get).state

theorem maintains_dispatcher (b : Service σ κ) : b.dispatcher.Maintains AllAnonymous where
  getLogger _ := maintains_act _
  level _ := maintains_act _
  setLevel _ _ := maintains_act _
  addHandler _ _ := maintains_act _
  removeHandler _ _ := maintains_act _
  log _ _ _ := maintains_act _
  serial := fun _ hc => hc

/-- **Whatever a backend does in any call, a self-test collects anonymous records only.** -/
theorem collected_anonymous (b : Service σ κ) (shown : String) (cause : Cause) (s : σ) :
    AllAnonymous (Probe.run (b.dispatcher.subject shown) cause s).2.2 :=
  (b.maintains_dispatcher.subject shown).run cause fun _ hr => absurd hr List.not_mem_nil

/-- However often its factory is asked, a backend does not have full support. -/
theorem ask_not_full (b : Service σ κ) (shown : String) (cause : Cause) (s : σ) (betweens : List (σ → σ)) :
    ∀ level ∈ ((b.dispatcher.subject shown).ask cause betweens none s).1, level = .partly ∨ level = .none := by
  intro level hlevel
  cases betweens with
  | nil => cases hlevel
  | cons between others =>
    have hnotFull := (b.collected_anonymous shown cause (between s)).run_ne_full
    rcases hrun : Probe.run (b.dispatcher.subject shown) cause (between s) with ⟨first, reports, c⟩
    rw [Probe.ask_unknown hrun] at hlevel
    obtain rfl := List.eq_of_mem_replicate hlevel
    rw [hrun] at hnotFull
    exact Support.partly_or_none_of_ne_full hnotFull

end Service

end LogAssay.Dispatch
