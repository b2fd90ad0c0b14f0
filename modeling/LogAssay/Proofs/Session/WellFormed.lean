import LogAssay.Proofs.Capture.Lowering
import LogAssay.Proofs.Dispatch.Conduct
import LogAssay.Proofs.Session.Quiet

/-!
# Sessions stay well-formed

Whatever is done in a session, the handlers of its tree have numbers below the next one, and the overrides of its tree
have holders: recorders are attached and closed, captures are installed and hooks closed in any context, factories
test themselves, and levels are set by anyone.

## Main statements

* `Backend.Maintains.install`, `Backend.Maintains.close`: what a backend keeps in each call, installing a capture and
  closing its hook keep.
* `Session.wellFormed_run`: every run of commands keeps a session well-formed.
-/

namespace LogAssay

/-! ## What backends keep -/

section Maintains

variable {σ δ : Type} {P : σ → Prop}

/-- What a backend keeps in each call, whether it fails or not, and when it is told of a report. -/
structure Backend.Maintains (b : Backend σ δ) (P : σ → Prop) : Prop where
  start : ∀ request, (b.start request).Maintains P
  stop : ∀ d, (b.stop d).Maintains P
  tell : ∀ report s, P s → P (b.tell report s)

namespace Backend.Maintains

section Station

variable {b : Backend σ δ} (h : b.Maintains P)
include h

theorem tellAll : ∀ (reports : List Diagnostic) {s : σ}, P s → P (b.tellAll reports s)
  | [], _, hs => hs
  | report :: reports, s, hs => tellAll reports (h.tell report s hs)

theorem attach (request : Request) {s : Station σ} (hs : P s.backend) : P (s.attach b request).2.backend := by
  rw [Station.attach]
  split
  · exact hs
  · have hstart := h.start request s.backend hs
    split
    · next hresult =>
      rw [hresult] at hstart
      exact hstart
    · next hresult =>
      rw [hresult] at hstart
      exact hstart

theorem attachAll : ∀ (requests : List Request) {s : Station σ}, P s.backend →
    P (Station.attachAll b requests s).2.2.backend
  | [], _, hs => hs
  | request :: requests, s, hs => by
    have hfirst := h.attach request hs
    rw [Station.attachAll]
    split
    · next hresult =>
      rw [hresult] at hfirst
      exact hfirst
    · next hresult =>
      rw [hresult] at hfirst
      exact attachAll requests hfirst

theorem closeRecorder (r : Recorder δ) {s : Station σ} (hs : P s.backend) : P (r.close b s).2.2.backend := by
  rw [Recorder.close]
  split
  · exact hs
  · next d _ => exact h.tellAll _ (h.stop d s.backend hs)

end Station

/-! ### Hooks -/

section Hook

variable {b : Ambience → Backend σ δ} (h : ∀ a, (b a).Maintains P) (sameContext : Bool)
include h

theorem perform (u : Undoing δ) {d : Desk σ} (hd : P d.scene.backend) :
    P (u.perform b sameContext d).2.scene.backend := by
  cases u with
  | release testId => exact hd
  | untag earlier =>
    rw [Undoing.perform]
    split
    · exact hd
    · exact hd
  | detach recorder => exact (h _).closeRecorder recorder hd

theorem unwind : ∀ (us : List (Undoing δ)) {d : Desk σ}, P d.scene.backend →
    P (unwind b sameContext us d).desk.scene.backend
  | [], _, hd => hd
  | u :: us, _, hd => unwind us (perform h sameContext u hd)

/-- **Installing a capture** keeps what the calls of its backend keep. -/
theorem install (levels : Levels) (useTestId : Bool) (capture : Nat) {scene : Scene σ} (hs : P scene.backend) :
    P (Hook.install b levels useTestId capture scene).2.backend := by
  have hentered : P (Hook.enter b useTestId scene).2.backend := (h _).tellAll _ hs
  have hattached := (h (Hook.enter b useTestId scene).2.toAmbience).attachAll
    (Hook.requests levels capture (Hook.enter b useTestId scene).1)
    (s := { backend := (Hook.enter b useTestId scene).2.backend }) hentered
  unfold Hook.install
  dsimp only
  split
  · exact hattached
  · exact unwind h true _ hattached

/-- **Closing a hook** keeps what the calls of its backend keep. -/
theorem close (check : Option (Scene σ → Except Fault Unit)) (hook : Hook δ) {scene : Scene σ} (hs : P scene.backend) :
    P (hook.close b sameContext check scene).2.2.backend := by
  rw [Hook.close]
  split
  · exact hs
  · exact unwind h sameContext _ hs

end Hook

end Backend.Maintains

end Maintains

/-! ## Surroundings -/

namespace Surroundings

/-- Surroundings with a well-formed tree. -/
def WellFormed (s : Surroundings) : Prop := s.tree.WellFormed s.nextSerial

variable {α : Type}

theorem wellFormed_onHub (a : Act Dispatch.Hub α) : (onHub a).Maintains WellFormed := fun _ h => h

theorem wellFormed_accept (h : Dispatch.Hub.Handover) : (accept h).Maintains WellFormed := by
  refine Act.Maintains.bind (fun _ hs => hs) fun _ => ?_
  split
  · exact fun _ hs => hs
  · exact .pure ()

theorem wellFormed_detach : ∀ d : Detachment, (detach d).Maintains WellFormed
  | .tree d => fun _ h => h.detach d
  | .hub d => wellFormed_onHub (Dispatch.Hub.detach d)
  | .noted .. => fun _ h => h

theorem wellFormed_attachTree (request : Request) : (attachTree request).Maintains WellFormed :=
  fun _ h => LoggerTree.WellFormed.attach h request

theorem wellFormed_backendOf (factory : Factory) : (backendOf factory).Maintains WellFormed := by
  cases factory with
  | standard => exact ⟨wellFormed_attachTree, wellFormed_detach, fun _ _ h => h⟩
  | refusing =>
    refine ⟨fun request => ?_, wellFormed_detach, fun _ _ h => h⟩
    show (ite _ _ _ : Act Surroundings Detachment).Maintains WellFormed
    split
    · exact fun _ h => h
    · exact wellFormed_attachTree request
  | dispatch name =>
    refine ⟨fun request s h => ?_, wellFormed_detach, fun _ _ h => h⟩
    show WellFormed ((hubBackend.start request).result s).2
    rw [result_attachHub]
    exact ⟨fun name y hy => Nat.lt_succ_of_lt (h.serials name y hy), h.holders⟩

theorem wellFormed_kind (name : String) (kind : InterceptorKind) : (kind.backend name).Maintains WellFormed := by
  cases kind with
  | made factory => exact wellFormed_backendOf factory
  | noting failsToAttach failsToDetach =>
    refine ⟨fun request => ?_, fun d => (wellFormed_detach d).bind fun _ => ?_, fun _ _ h => h⟩
    · cases failsToAttach with
      | false => exact fun _ h => h
      | true => exact fun _ h => h
    · cases failsToDetach with
      | false => exact fun _ h => h
      | true => exact fun _ h => h

/-- Logging a report leaves the tree alone. -/
theorem wellFormed_reporting {b : Backend Surroundings Detachment} (h : b.Maintains WellFormed) (a : Ambience) :
    (reporting b a).Maintains WellFormed := ⟨h.start, h.stop, fun _ _ hs => hs⟩

/-! ### Self-tests -/

theorem wellFormed_probed {a : Act Surroundings α} (h : a.Maintains WellFormed) :
    (probed a).Maintains fun c => c.state.WellFormed := fun c hc => h c.state hc

theorem wellFormed_log {s : Surroundings} (h : s.WellFormed) (tags : Tags) (name : String) (e : Event) :
    (s.log tags name e).WellFormed := h

theorem wellFormed_treeSubject (tags : Tags) (factory : Factory) :
    (treeSubject tags factory).Maintains fun c => c.state.WellFormed where
  configure := by
    dsimp only [treeSubject]
    exact wellFormed_probed (.of_modify fun _ h => (LoggerTree.WellFormed.setLevel h ..).setPassing ..)
  create := .pure ()
  start request := wellFormed_probed ((wellFormed_backendOf factory).start request)
  stop d := wellFormed_probed ((wellFormed_backendOf factory).stop d)
  tell _ _ h := h
  emit _ := by
    dsimp only [treeSubject]
    exact wellFormed_probed (.of_modify fun _ h => wellFormed_log h ..)

theorem wellFormed_hubDispatcher : hubDispatcher.Maintains WellFormed where
  getLogger _ := (wellFormed_onHub _).bind fun _ => .pure _
  level _ := fun _ h => h
  setLevel name level := wellFormed_onHub (Dispatch.Hub.setLevel name (.text level))
  addHandler name handler := wellFormed_onHub (Dispatch.Hub.addHandler name handler)
  removeHandler name handler := wellFormed_onHub (Dispatch.Hub.removeHandler name handler.serial)
  log _ _ _ := Act.Maintains.bind (fun _ h => h) fun _ => wellFormed_accept _
  serial _ h := ⟨fun name y hy => Nat.lt_succ_of_lt (h.serials name y hy), h.holders⟩

/-- A self-test keeps what its subject keeps. -/
theorem wellFormed_supportLevel {δ : Type} {subject : Probe.Subject Surroundings δ}
    (hsubject : subject.Maintains fun c => c.state.WellFormed) (known : Option Support) {s : Surroundings}
    (h : s.WellFormed) : (Probe.supportLevel known subject probeCause s).2.2.WellFormed := by
  cases known with
  | some level =>
    rw [Probe.supportLevel_known]
    exact h
  | none => exact hsubject.run probeCause h

theorem wellFormed_supportOf (tags : Tags) (known : Option Support) (factory : Factory) {s : Surroundings}
    (h : s.WellFormed) : (supportOf tags known factory s).2.2.WellFormed := by
  cases factory with
  | dispatch name =>
    exact wellFormed_supportLevel ((wellFormed_hubDispatcher.map wellFormed_probed).subject _) known h
  | standard => exact wellFormed_supportLevel (wellFormed_treeSubject tags .standard) known h
  | refusing => exact wellFormed_supportLevel (wellFormed_treeSubject tags .refusing) known h

end Surroundings

/-! ## Sessions -/

namespace Session

open Surroundings (wellFormed_accept wellFormed_backendOf wellFormed_kind wellFormed_onHub wellFormed_reporting
  wellFormed_supportOf)

/-- A session with a well-formed tree. -/
def WellFormed (s : Session) : Prop := s.around.WellFormed

theorem wellFormed_new {now : Timestamp} {captures : List (String × Capture)} :
    ({ around := { now := now }, captures := captures } : Session).WellFormed := LoggerTree.wellFormed_new 0

section Actions

variable {α : Type}

theorem Quiet.wellFormed {a : Act Session α} (h : Quiet a) : a.Maintains WellFormed := by
  intro s hs
  have hstill := h s
  rw [WellFormed, Surroundings.WellFormed, hstill.tree, hstill.nextSerial]
  exact hs

theorem wellFormed_onSurroundings {a : Act Surroundings α} (h : a.Maintains Surroundings.WellFormed) :
    (onSurroundings a).Maintains WellFormed := fun s hs => h s.around hs

theorem wellFormed_report (reports : List Diagnostic) : (report reports).Maintains WellFormed :=
  .of_modify fun _ h => (wellFormed_reporting (wellFormed_backendOf .standard) _).tellAll reports h

theorem wellFormed_feed (name : String) (gate : Dispatch.Gate) :
    ∀ records : List Dispatch.Fields, (feed name gate records).Maintains WellFormed
  | [] => .pure ()
  | _ :: others =>
    (wellFormed_onSurroundings (.get_bind fun s h => wellFormed_accept _ s h)).bind fun _ =>
      wellFormed_feed name gate others

theorem wellFormed_addCapture (name : String) (settings : Settings) :
    (addCapture name settings).Maintains WellFormed := fun _ h => h

theorem wellFormed_attach (name interceptor channel : String) (severity : Severity) (testId : String) :
    (attach name interceptor channel severity testId).Maintains WellFormed := by
  refine .get_bind fun s h => ?_
  refine Act.Maintains.set_bind (P := WellFormed) s ?_ ((Act.Maintains.ofExcept _).bind fun _ => ?_)
  · exact (wellFormed_reporting (wellFormed_kind interceptor _) _).attach _ h
  · exact Act.Maintains.bind (fun _ h => h) fun _ => .pure _

theorem wellFormed_close (name : String) : (close name).Maintains WellFormed := by
  refine .get_bind fun s h => ?_
  split
  · exact h
  · refine Act.Maintains.set_bind (P := WellFormed) s ?_ (.pure _)
    exact (wellFormed_reporting (wellFormed_kind _ _) _).closeRecorder _ h

theorem wellFormed_bestFactory : bestFactory.Maintains WellFormed := by
  refine .get_bind fun s h => ?_
  refine Act.Maintains.set_bind (P := WellFormed) s (wellFormed_supportOf s.tags s.treeSupport .standard h) ?_
  exact (wellFormed_report _).bind fun _ => (Act.Maintains.ofExcept _).bind fun _ => .pure _

theorem wellFormed_factoryOf (settings : Settings) : (factoryOf settings).Maintains WellFormed := by
  rw [factoryOf]
  split
  · exact .pure _
  · exact wellFormed_bestFactory

theorem wellFormed_install (index : Nat) (settings : Settings) (extra : List (Value × Value)) :
    (install index settings extra).Maintains WellFormed := by
  refine (Act.Maintains.ofExcept _).bind fun final => (wellFormed_factoryOf final).bind fun factory => ?_
  refine .get_bind fun s h => Act.Maintains.set_bind (P := WellFormed) s ?_ (.ofExcept _)
  exact Backend.Maintains.install (wellFormed_reporting (wellFormed_backendOf factory)) _ _ _ h

theorem wellFormed_closeHook (sameContext verify : Bool) (hook : Hook Detachment) :
    (closeHook sameContext verify hook).Maintains WellFormed := by
  refine .get_bind fun s h => Act.Maintains.set_bind (P := WellFormed) s ?_ (.pure _)
  exact Backend.Maintains.close (wellFormed_reporting (wellFormed_backendOf .standard)) sameContext _ hook h

theorem wellFormed_endHook (ending : Ending) (hook : Hook Detachment) :
    (endHook ending hook).Maintains WellFormed := by
  cases ending with
  | plain verify => exact wellFormed_closeHook true verify hook
  | elsewhere verify => exact wellFormed_closeHook false verify hook
  | afterError key => exact (wellFormed_closeHook true false hook).bind fun _ => .pure _

theorem wellFormed_startTest (name : String) (markers : List (List Value)) (lines : List String) (useTestId : Value) :
    (startTest name markers lines useTestId).Maintains WellFormed := by
  refine Act.Maintains.bind (fun _ h => h) fun before => ?_
  refine (Act.Maintains.ofExcept _).bind fun settings => (Act.Maintains.ofExcept _).bind fun extra => ?_
  refine (wellFormed_addCapture name settings).bind fun index => ?_
  refine ((wellFormed_install index settings extra.toValues).tryCatch fun fault => ?_).bind fun hook => ?_
  · exact fun _ h => h
  · exact fun _ h => h

theorem wellFormed_finishTest (name : String) (reports : List (String × Bool)) :
    (finishTest name reports).Maintains WellFormed := by
  refine Act.Maintains.bind (fun _ h => h) fun before => ?_
  split
  · exact .pure _
  · exact (wellFormed_endHook _ _).bind fun _ _ h => h

/-- **Every command keeps a session well-formed**, whether it fails or not. -/
theorem wellFormed_carryOut (command : Command) : (carryOut command).Maintains WellFormed := by
  by_cases hquiet : command.isQuiet = true
  · exact (quiet_carryOut command hquiet).wellFormed
  cases command with
  | setLevel logger level => exact fun _ h => LoggerTree.WellFormed.setLevel h logger level
  | setPassing logger passesOn => exact fun _ h => LoggerTree.WellFormed.setPassing h logger passesOn
  | enterScope name tags | leaveScope name | hubMode mode | feedDirectly | release testId => exact fun _ h => h
  | attach name interceptor channel severity testId =>
    exact (wellFormed_attach name interceptor channel severity testId).bind fun _ => .pure _
  | close name asBlock =>
    refine Act.Maintains.bind (fun _ h => h) fun before => (wellFormed_close name).bind fun after => ?_
    split
    · exact .pure _
    · exact .pure _
  | hubLevel logger level => exact (wellFormed_onSurroundings (wellFormed_onHub _)).bind fun _ => .pure _
  | hubLog logger level message =>
    refine (wellFormed_onSurroundings ((wellFormed_onHub _).bind fun _ => ?_)).bind fun _ => .pure _
    exact Act.Maintains.bind (fun _ h => h) fun _ => wellFormed_accept _
  | hubDispatch logger record =>
    refine (wellFormed_onSurroundings ((wellFormed_onHub _).bind fun _ => ?_)).bind fun _ => .pure _
    exact Act.Maintains.bind (fun _ h => h) fun _ => wellFormed_accept _
  | feed name gate records => exact (wellFormed_feed name gate records).bind fun _ => .pure _
  | install name capture extra =>
    refine Act.Maintains.bind (fun _ h => h) fun before => ?_
    split
    · exact .pure _
    · exact (wellFormed_install _ _ extra).bind fun _ _ h => h
  | closeHook name ending =>
    refine Act.Maintains.bind (fun _ h => h) fun before => ?_
    split
    · exact .pure _
    · exact (wellFormed_endHook ending _).bind fun _ _ h => h
  | claim =>
    refine .get_bind fun s h => Act.Maintains.set_bind (P := WellFormed) s h ?_
    exact (wellFormed_report _).bind fun _ => .pure _
  | startTest name markers lines useTestId =>
    exact (wellFormed_startTest name markers lines useTestId).bind fun _ => .pure _
  | finishTest name reports => exact (wellFormed_finishTest name reports).bind fun _ => .pure _
  | _ => exact absurd rfl hquiet

end Actions

/-- The session after some commands. -/
def run (s : Session) (commands : List Command) : Session := commands.foldl (fun s command => (s.step command).2) s

theorem wellFormed_step {s : Session} (h : s.WellFormed) (command : Command) : (s.step command).2.WellFormed := by
  rw [(step_eq command rfl).2]
  exact wellFormed_carryOut command s h

/-- **Every run of commands keeps a session well-formed.** -/
theorem wellFormed_run : ∀ (commands : List Command) {s : Session}, s.WellFormed → (s.run commands).WellFormed
  | [], _, h => h
  | command :: commands, _, h => wellFormed_run commands (wellFormed_step h command)

end Session

end LogAssay
