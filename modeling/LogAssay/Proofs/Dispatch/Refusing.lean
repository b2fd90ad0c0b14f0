import LogAssay.Proofs.Attachment.Bench
import LogAssay.Proofs.Dispatch.Levels
import LogAssay.Session.Surroundings

/-!
# Refused calls

A hub may refuse any call, and a refused call does nothing. Attaching and detaching make their calls one after the
other, stop at the first one that is refused, and take nothing back. So a logger keeps a level that nobody asks for if
the call behind a change of the level is refused: the handler is added after the level was lowered, and the level is
put back after the handler was removed.

## Main statements

* `Hub.Performs.bind`: a chain of calls goes as far as the first one that is refused.
* `Hub.result_attach_steps`, `Hub.performs_detach`: the calls of attaching and detaching, and what each of them does.
* `Station.level_kept_iff`: when refused calls leave the level of a logger as it was before.
-/

namespace LogAssay

namespace Dispatch.Hub

variable {hub hub' hub'' : Hub} {name : String} {logger logger' : Logger}

/-! ## What a call changes -/

/-- A hub with a logger of a name, and otherwise as another hub is. -/
structure Becomes (hub : Hub) (name : String) (logger : Logger) (hub' : Hub) : Prop where
  refusal : hub'.refusal = hub.refusal
  get : ∀ other, hub'.loggers.get other = if other = name then logger else hub.loggers.get other

namespace Becomes

theorem same (hub : Hub) (name : String) : Becomes hub name (hub.loggers.get name) hub where
  refusal := rfl
  get other := by
    split
    · next h => rw [h]
    · rfl

theorem get_self (h : Becomes hub name logger hub') : hub'.loggers.get name = logger := by
  rw [h.get, if_pos rfl]

theorem trans (h : Becomes hub name logger hub') (h' : Becomes hub' name logger' hub'') :
    Becomes hub name logger' hub'' where
  refusal := h'.refusal.trans h.refusal
  get other := by
    rw [h'.get, h.get]
    split
    · rfl
    · rfl

theorem modify (hub : Hub) (name : String) (f : Logger → Logger) :
    Becomes hub name (f (hub.loggers.get name)) { hub with loggers := hub.loggers.modify name f } where
  refusal := rfl
  get other := by rw [Directory.modify, Directory.get_put]

end Becomes

theorem result_call_refused {c : Call} {fault : Fault} (h : hub.refusal c = some fault) (change : Hub → Hub) :
    (call c change).result hub = (.error fault, hub) := by
  unfold call
  rw [Act.result_bind_ok (Act.result_get hub), h]
  rfl

theorem result_call_accepted {c : Call} (h : hub.refusal c = none) (change : Hub → Hub) :
    (call c change).result hub = (.ok (), change hub) := by
  unfold call
  rw [Act.result_bind_ok (Act.result_get hub), h]
  rfl

/-! ## Chains of calls -/

/-- A call, and what it does to a logger if it is not refused. -/
structure Step where
  call : Call
  effect : Logger → Logger

/-- The call of a step on a logger. -/
def Step.perform (step : Step) (name : String) : Act Hub Unit :=
  Hub.call step.call fun hub => { hub with loggers := hub.loggers.modify name step.effect }

/-- The first step that is refused, with its fault. -/
def firstRefusal (refusal : Call → Option Fault) (steps : List Step) : Option (Call × Fault) :=
  steps.findSome? fun step => (refusal step.call).map fun fault => (step.call, fault)

/-- A logger after some steps, up to the first one that is refused. -/
def after (refusal : Call → Option Fault) : List Step → Logger → Logger
  | [], logger => logger
  | step :: others, logger =>
    match refusal step.call with
    | some _ => logger
    | none => after refusal others (step.effect logger)

/-- What an action gives that takes some steps. -/
def outcome {α : Type} (refusal : Call → Option Fault) (steps : List Step) (x : α) : Except Fault α :=
  match firstRefusal refusal steps with
  | some (_, fault) => .error fault
  | none => .ok x

section Steps

variable {refusal : Call → Option Fault} {step : Step} {fault : Fault}

theorem firstRefusal_of_refused (h : refusal step.call = some fault) (others : List Step) :
    firstRefusal refusal (step :: others) = some (step.call, fault) := by
  simp [firstRefusal, h]

theorem firstRefusal_of_accepted (h : refusal step.call = none) (others : List Step) :
    firstRefusal refusal (step :: others) = firstRefusal refusal others := by
  simp [firstRefusal, h]

theorem after_of_refused (h : refusal step.call = some fault) (others : List Step) (logger : Logger) :
    after refusal (step :: others) logger = logger := by
  rw [after, h]

theorem after_of_accepted (h : refusal step.call = none) (others : List Step) (logger : Logger) :
    after refusal (step :: others) logger = after refusal others (step.effect logger) := by
  rw [after, h]

/-- A single step that is refused does nothing. -/
theorem after_single_refused {c : Call} (h : firstRefusal refusal [step] = some (c, fault)) (logger : Logger) :
    c = step.call ∧ after refusal [step] logger = logger := by
  cases hstep : refusal step.call with
  | some other =>
    rw [firstRefusal_of_refused hstep] at h
    exact ⟨(Prod.mk.inj (Option.some.inj h)).1.symm, after_of_refused hstep [] logger⟩
  | none =>
    rw [firstRefusal_of_accepted hstep] at h
    cases h

/-- Steps of which none is refused are all taken. -/
theorem after_of_none {steps : List Step} (h : firstRefusal refusal steps = none) (logger : Logger) :
    after refusal steps logger = steps.foldl (fun logger step => step.effect logger) logger := by
  induction steps generalizing logger with
  | nil => rfl
  | cons step others ih =>
    cases hstep : refusal step.call with
    | some fault =>
      rw [firstRefusal_of_refused hstep] at h
      cases h
    | none =>
      rw [firstRefusal_of_accepted hstep] at h
      rw [after_of_accepted hstep, ih h]
      rfl

end Steps

/-- An action takes steps on a logger one after the other, and gives something in the end, unless one of them is
refused: then it fails, and the steps from this one on are not taken. -/
def Performs {α : Type} (a : Act Hub α) (name : String) (steps : List Step) (x : α) : Prop :=
  ∀ hub, ∃ hub', a.result hub = (outcome hub.refusal steps x, hub') ∧
    Becomes hub name (after hub.refusal steps (hub.loggers.get name)) hub'

theorem Performs.pure {α : Type} (name : String) (x : α) : Performs (Pure.pure x) name [] x :=
  fun hub => ⟨hub, rfl, .same hub name⟩

/-- **A chain of calls** goes on after a step that is not refused. -/
theorem Performs.bind {α : Type} {a : Act Hub α} {steps : List Step} {x : α} (step : Step)
    (h : Performs a name steps x) : Performs (step.perform name >>= fun _ => a) name (step :: steps) x := by
  intro hub
  unfold outcome
  cases hstep : hub.refusal step.call with
  | some fault =>
    rw [firstRefusal_of_refused hstep, after_of_refused hstep]
    exact ⟨hub, Act.result_bind_error (result_call_refused hstep _), .same hub name⟩
  | none =>
    have hbecomes := Becomes.modify hub name step.effect
    obtain ⟨hub', ha, hrest⟩ := h { hub with loggers := hub.loggers.modify name step.effect }
    rw [hbecomes.get_self] at hrest
    rw [firstRefusal_of_accepted hstep, after_of_accepted hstep]
    exact ⟨hub', (Act.result_bind_ok (result_call_accepted hstep _)).trans ha, hbecomes.trans hrest⟩

theorem Performs.perform (step : Step) : Performs (step.perform name) name [step] () := by
  have h := Performs.bind step (.pure name ())
  rwa [bind_pure] at h

/-! ## Attaching and detaching -/

namespace Step

/-- Getting a logger, which leaves it as it is. -/
def find (name : String) : Step := ⟨.getLogger name, id⟩

/-- Setting the level of a logger. -/
def level (name : String) (level : Value) : Step := ⟨.setLevel name, fun logger => { logger with level := level }⟩

/-- Adding the handler of an attachment. -/
def add (request : Request) (serial : Nat) : Step :=
  ⟨.addHandler request.channel, fun logger => { logger with
    handlers := logger.handlers ++ [⟨⟨request.severity, request.testId⟩, serial, request.collector⟩] }⟩

/-- Removing the handler of a detachment. -/
def remove (d : Detachment) : Step :=
  ⟨.removeHandler d.name, fun logger => { logger with handlers := logger.handlers.filter (·.serial ≠ d.serial) }⟩

end Step

/-- The steps that change a logger of a level to attach its channel. -/
def changeSteps (level : Value) (request : Request) (serial : Nat) : List Step :=
  if lowers level request.severity then
    [.level request.channel (.text (levelName request.severity)), .add request serial]
  else [.add request serial]

/-- The steps of an attachment. -/
def attachSteps (level : Value) (request : Request) (serial : Nat) : List Step :=
  .find request.channel :: changeSteps level request serial

/-- The steps of a detachment. -/
def detachSteps (d : Detachment) : List Step :=
  .remove d ::
    match d.restored with
    | some level => [.level d.name (.text level)]
    | none => []

/-- What is done to attach a channel once the level of its logger has been read. -/
def attachAt (level : Value) (request : Request) (serial : Nat) : Act Hub Detachment := do
  if lowers level request.severity then setLevel request.channel (.text (levelName request.severity))
  addHandler request.channel ⟨⟨request.severity, request.testId⟩, serial, request.collector⟩
  return ⟨request.channel, serial, found level request.severity⟩

theorem performs_attachAt (level : Value) (request : Request) (serial : Nat) :
    Performs (attachAt level request serial) request.channel (changeSteps level request serial)
      ⟨request.channel, serial, found level request.severity⟩ := by
  unfold attachAt changeSteps
  have hadd := Performs.bind (.add request serial)
    (.pure request.channel (⟨request.channel, serial, found level request.severity⟩ : Detachment))
  cases lowers level request.severity with
  | true => exact .bind (.level request.channel (.text (levelName request.severity))) hadd
  | false => exact hadd

/-- **Detaching** removes the handler and then puts the level back, if one is remembered. -/
theorem performs_detach (d : Detachment) : Performs (detach d) d.name (detachSteps d) () := by
  unfold detach detachSteps
  cases d.restored with
  | some level => exact .bind (.remove d) (.perform (.level d.name (.text level)))
  | none => exact .bind (.remove d) (.pure d.name ())

/-- The level of a logger is read where the logger was got. -/
theorem result_attach_eq (hub : Hub) (request : Request) (serial : Nat) :
    (attach request serial).result hub = ((Step.find request.channel).perform request.channel >>= fun _ =>
      attachAt (hub.level request.channel) request serial).result hub := by
  let got : Hub := { hub with loggers := hub.loggers.modify request.channel id }
  unfold attach
  cases hget : hub.refusal (.getLogger request.channel) with
  | some fault =>
    have hfind : ((Step.find request.channel).perform request.channel).result hub = (.error fault, hub) :=
      result_call_refused hget _
    have hgetLogger : (getLogger request.channel).result hub = (.error fault, hub) := Act.result_bind_error hfind
    rw [Act.result_bind_error hgetLogger, Act.result_bind_error hfind]
  | none =>
    have hfind : ((Step.find request.channel).perform request.channel).result hub = (.ok (), got) :=
      result_call_accepted hget _
    have hgetLogger : (getLogger request.channel).result hub = (.ok (got.loggers.get request.channel), got) :=
      Act.result_bind_ok hfind
    have hlogger : got.loggers.get request.channel = hub.loggers.get request.channel :=
      (Becomes.modify hub request.channel id).get_self
    rw [Act.result_bind_ok hgetLogger, Act.result_bind_ok hfind, hlogger]
    rfl

/-- **Attaching** gets the logger and takes the steps that its level asks for. -/
theorem result_attach_steps (hub : Hub) (request : Request) (serial : Nat) : ∃ hub',
    (attach request serial).result hub
        = (outcome hub.refusal (attachSteps (hub.level request.channel) request serial)
            ⟨request.channel, serial, found (hub.level request.channel) request.severity⟩, hub') ∧
      Becomes hub request.channel (after hub.refusal (attachSteps (hub.level request.channel) request serial)
        (hub.loggers.get request.channel)) hub' := by
  rw [result_attach_eq]
  exact (performs_attachAt (hub.level request.channel) request serial).bind (.find request.channel) hub

/-! ## What refused calls leave behind -/

section After

variable {refusal : Call → Option Fault} {request : Request} {serial : Nat} {c : Call} {fault : Fault}

/-- An attachment that fails adds no handler, and has lowered the level if the handler could not be added. -/
theorem after_attachSteps_refused
    (h : firstRefusal refusal (attachSteps logger.level request serial) = some (c, fault)) :
    after refusal (attachSteps logger.level request serial) logger = { logger with
      level := if c = .addHandler request.channel then lowered logger.level request.severity else logger.level } := by
  unfold attachSteps changeSteps lowered at *
  cases hfind : refusal (Step.find request.channel).call with
  | some other =>
    rw [firstRefusal_of_refused hfind] at h
    obtain ⟨rfl, rfl⟩ := Prod.mk.inj (Option.some.inj h)
    rw [after_of_refused hfind, if_neg (by simp [Step.find])]
  | none =>
    rw [firstRefusal_of_accepted hfind] at h
    rw [after_of_accepted hfind]
    cases hlowers : lowers logger.level request.severity with
    | false =>
      rw [hlowers, if_neg Bool.false_ne_true] at h
      obtain ⟨rfl, hafter⟩ := after_single_refused h logger
      simp only [Bool.false_eq_true, if_false, ite_self]
      exact hafter
    | true =>
      rw [hlowers, if_pos rfl] at h
      simp only [if_true]
      cases hlevel : refusal (Step.level request.channel (.text (levelName request.severity))).call with
      | some other =>
        rw [firstRefusal_of_refused hlevel] at h
        obtain ⟨rfl, rfl⟩ := Prod.mk.inj (Option.some.inj h)
        rw [after_of_refused hlevel, if_neg (by simp [Step.level])]
        rfl
      | none =>
        rw [firstRefusal_of_accepted hlevel] at h
        obtain ⟨rfl, hafter⟩ := after_single_refused h { logger with level := .text (levelName request.severity) }
        have hadd : (Step.add request serial).call = .addHandler request.channel := rfl
        rw [after_of_accepted hlevel, if_pos hadd]
        exact hafter

/-- An attachment that succeeds lowers the level if it has to. -/
theorem level_after_attachSteps (h : firstRefusal refusal (attachSteps logger.level request serial) = none) :
    (after refusal (attachSteps logger.level request serial) logger).level = lowered logger.level request.severity := by
  rw [after_of_none h]
  unfold attachSteps changeSteps lowered
  cases lowers logger.level request.severity with
  | true => rfl
  | false => rfl

/-- A detachment puts a level back unless one of its calls is refused. -/
theorem level_after_detachSteps (refusal : Call → Option Fault) (d : Detachment) (logger : Logger) :
    (after refusal (detachSteps d) logger).level
      = if firstRefusal refusal (detachSteps d) = none then d.restored.elim logger.level .text else logger.level := by
  cases hfirst : firstRefusal refusal (detachSteps d) with
  | none =>
    rw [if_pos rfl, after_of_none hfirst]
    unfold detachSteps
    cases d.restored with
    | none => rfl
    | some level => rfl
  | some refused =>
    rw [if_neg (by simp)]
    unfold detachSteps at hfirst ⊢
    cases hremove : refusal (Step.remove d).call with
    | some fault => rw [after_of_refused hremove]
    | none =>
      rw [firstRefusal_of_accepted hremove] at hfirst
      rw [after_of_accepted hremove]
      cases hd : d.restored with
      | none =>
        rw [hd] at hfirst
        cases hfirst
      | some level =>
        rw [hd] at hfirst
        rw [(after_single_refused hfirst _).2]
        rfl

theorem firstRefusal_detachSteps_iff (refusal : Call → Option Fault) (d : Detachment) :
    firstRefusal refusal (detachSteps d) = none ↔
      refusal (.removeHandler d.name) = none ∧ (d.restored.isSome → refusal (.setLevel d.name) = none) := by
  unfold detachSteps
  cases d.restored <;> simp [firstRefusal, Step.remove, Step.level]

end After

/-- A known level is a text, and so it is remembered if it was lowered. -/
theorem found_eq_of_lowers {level : Value} {place : Nat} (hknown : placeOf level = some place) {asked : Severity}
    (hlowers : lowers level asked = true) : ∃ text, level = .text text ∧ found level asked = some text := by
  unfold placeOf at hknown
  split at hknown
  · next text =>
    refine ⟨text, rfl, ?_⟩
    rw [found, if_pos hlowers]
    rfl
  · cases hknown

/-- The level behind an attachment and a detachment. -/
theorem level_after_detach {level : Value} {place : Nat} (hknown : placeOf level = some place) {asked : Severity}
    (hlevel : logger.level = lowered level asked) (refusal : Call → Option Fault) (name : String) (serial : Nat) :
    (after refusal (detachSteps ⟨name, serial, found level asked⟩) logger).level
      = if refusal (.removeHandler name) = none ∧ refusal (.setLevel name) = none then level
        else lowered level asked := by
  rw [level_after_detachSteps, hlevel]
  simp only [firstRefusal_detachSteps_iff]
  cases hlowers : lowers level asked with
  | false =>
    have hlowered : lowered level asked = level := by simp [lowered, hlowers]
    have hfound : found level asked = none := by simp [found, hlowers]
    rw [hlowered, hfound, Option.elim_none, ite_self, ite_self]
  | true =>
    obtain ⟨text, htext, hfound⟩ := found_eq_of_lowers hknown hlowers
    rw [hfound, Option.elim_some, Option.isSome_some, ← htext]
    simp

theorem lowered_eq_self_iff {level : Value} {place : Nat} (hknown : placeOf level = some place) {asked : Severity} :
    lowered level asked = level ↔ lowers level asked = false := by
  unfold lowered
  cases hlowers : lowers level asked with
  | false => simp
  | true =>
    -- the level that is asked for has a lower place than the one that was found
    refine iff_of_false (fun heq => ?_) (by simp)
    have hlt := rank_lt_of_lowers hlowers hknown
    rw [← heq, if_pos rfl, placeOf_levelName] at hknown
    exact absurd hlt (by rw [Option.some.inj hknown]; exact Nat.lt_irrefl place)

end Dispatch.Hub

/-! ## Recorders -/

open Dispatch

namespace Station

variable {s s' : Station Surroundings} {request : Request} {place : Nat}

/-- A logger of the hub. -/
def logger (s : Station Surroundings) (name : String) : Dispatch.Logger := s.backend.hub.loggers.get name

/-- The station with a hub that refuses other calls. -/
def refusing (s : Station Surroundings) (refusal : Call → Option Fault) : Station Surroundings :=
  { s with backend := { s.backend with hub := { s.backend.hub with refusal := refusal } } }

/-- The first call that is refused when a channel is to be attached. -/
def refused (s : Station Surroundings) (request : Request) : Option (Call × Fault) :=
  Hub.firstRefusal s.backend.hub.refusal
    (Hub.attachSteps (s.logger request.channel).level request s.backend.nextSerial)

/-- What an attachment leaves behind that fails at a call: everything as it was, except for a level that was lowered
for a handler which could not be added. -/
structure Abandoned (s : Station Surroundings) (request : Request) (c : Call) (s' : Station Surroundings) : Prop where
  attached : s'.attached = s.attached
  others : ∀ name, name ≠ request.channel → s'.logger name = s.logger name
  handlers : (s'.logger request.channel).handlers = (s.logger request.channel).handlers
  level : (s'.logger request.channel).level =
    if c = .addHandler request.channel then Hub.lowered (s.logger request.channel).level request.severity
    else (s.logger request.channel).level

/-- What an attachment leaves behind that was closed while a hub refused some calls: the level from before unless one
of the calls was refused by which it is put back. -/
structure Released (s : Station Surroundings) (request : Request) (refusal : Call → Option Fault)
    (s' : Station Surroundings) : Prop where
  attached : s'.attached = s.attached
  others : ∀ name, name ≠ request.channel → s'.logger name = s.logger name
  level : (s'.logger request.channel).level =
    if refusal (.removeHandler request.channel) = none ∧ refusal (.setLevel request.channel) = none
    then (s.logger request.channel).level
    else Hub.lowered (s.logger request.channel).level request.severity

/-- The hub behind an attachment. -/
theorem attach_hub (hfree : request.channel ∉ s.attached) : ∃ around,
    Hub.Becomes s.backend.hub request.channel
      (Hub.after s.backend.hub.refusal (Hub.attachSteps (s.logger request.channel).level request s.backend.nextSerial)
        (s.logger request.channel)) around.hub ∧
    s.attach Surroundings.hubBackend request =
      match s.refused request with
      | some (_, fault) => (.error fault, ⟨s.attached, around⟩)
      | none => (.ok ⟨request.channel, some (.hub ⟨request.channel, s.backend.nextSerial,
          Hub.found (s.logger request.channel).level request.severity⟩)⟩, ⟨request.channel :: s.attached, around⟩) := by
  obtain ⟨hub, hattach, hbecomes⟩ := Hub.result_attach_steps s.backend.hub request s.backend.nextSerial
  refine ⟨{ s.backend with nextSerial := s.backend.nextSerial + 1, hub := hub }, hbecomes, ?_⟩
  have hnot : ¬s.attached.contains request.channel = true := by simpa using hfree
  unfold attach refused
  rw [if_neg hnot, Surroundings.result_attachHub, hattach]
  unfold Hub.outcome
  have hlevel : (s.logger request.channel).level = s.backend.hub.level request.channel := rfl
  rw [hlevel]
  cases Hub.firstRefusal s.backend.hub.refusal
      (Hub.attachSteps (s.backend.hub.level request.channel) request s.backend.nextSerial) with
  | none => rfl
  | some refused => rfl

/-- **An attachment that fails.** -/
theorem attach_abandoned (hfree : request.channel ∉ s.attached) {c : Call} {fault : Fault}
    (hrefused : s.refused request = some (c, fault)) : ∃ s',
    s.attach Surroundings.hubBackend request = (.error fault, s') ∧ Abandoned s request c s' := by
  obtain ⟨around, hbecomes, hattach⟩ := attach_hub hfree
  rw [hrefused] at hattach
  have hafter := hbecomes.get_self
  rw [Hub.after_attachSteps_refused hrefused] at hafter
  refine ⟨_, hattach, rfl, ?_, ?_, ?_⟩
  · intro name hname
    exact (hbecomes.get name).trans (if_neg hname)
  · exact (congrArg Dispatch.Logger.handlers hafter :)
  · exact (congrArg Dispatch.Logger.level hafter :)

/-- The hub behind a recorder that was closed, and what is reported. -/
theorem close_hub (s : Station Surroundings) {r : Recorder Detachment} {d : Hub.Detachment}
    (hopen : r.detachment = some (.hub d)) : ∃ hub,
    Hub.Becomes s.backend.hub d.name
      (Hub.after s.backend.hub.refusal (Hub.detachSteps d) (s.logger d.name)) hub ∧
    r.close Surroundings.hubBackend s
      = (Recorder.report r.channel (Hub.outcome s.backend.hub.refusal (Hub.detachSteps d) ()), r.ended,
        ⟨s.attached.filter (· ≠ r.channel), { s.backend with hub := hub }⟩) := by
  obtain ⟨hub, hdetach, hbecomes⟩ := Hub.performs_detach d s.backend.hub
  have hstop : (Surroundings.hubBackend.stop (.hub d)).result s.backend
      = (Hub.outcome s.backend.hub.refusal (Hub.detachSteps d) (), { s.backend with hub := hub }) := by
    have hdetach' : Surroundings.hubBackend.stop (.hub d) = Surroundings.onHub (Hub.detach d) := rfl
    rw [hdetach', Surroundings.result_onHub, hdetach]
  refine ⟨hub, hbecomes, ?_⟩
  rw [Recorder.close_open _ hopen, Recorder.letGo_silent Surroundings.silent_hubBackend hopen, hstop]

/-- Freeing a channel that was free before it was attached. -/
theorem filter_attached (hfree : request.channel ∉ s.attached) :
    (request.channel :: s.attached).filter (· ≠ request.channel) = s.attached := by
  rw [List.filter_cons_of_neg (by simp), List.filter_eq_self]
  intro channel hchannel
  have hne : channel ≠ request.channel := fun heq => hfree (heq ▸ hchannel)
  simpa using hne

/-- **An attachment that is closed again**, whatever the hub refuses by then. -/
theorem attach_released (hfree : request.channel ∉ s.attached)
    (hknown : Hub.placeOf (s.logger request.channel).level = some place) (hrefused : s.refused request = none) :
    ∃ r s', s.attach Surroundings.hubBackend request = (.ok r, s') ∧ ∀ refusal reports closed after,
      r.close Surroundings.hubBackend (s'.refusing refusal) = (reports, closed, after) →
        closed.closed = true ∧ Released s request refusal after := by
  obtain ⟨around, hbecomes, hattach⟩ := attach_hub hfree
  rw [hrefused] at hattach
  refine ⟨_, _, hattach, fun refusal reports closed after hclose => ?_⟩
  have hlevel : (around.hub.loggers.get request.channel).level
      = Hub.lowered (s.logger request.channel).level request.severity := by
    rw [hbecomes.get_self]
    exact Hub.level_after_attachSteps hrefused
  obtain ⟨hub, hreleased, hclose'⟩ := close_hub
    (refusing ⟨request.channel :: s.attached, around⟩ refusal) (r := ⟨request.channel, _⟩) rfl
  obtain ⟨-, rfl, rfl⟩ : _ ∧ closed = _ ∧ after = _ := by simpa only [Prod.mk.injEq] using hclose.symm.trans hclose'
  refine ⟨rfl, filter_attached hfree, ?_, ?_⟩
  · intro name hname
    exact ((hreleased.get name).trans (if_neg hname)).trans ((hbecomes.get name).trans (if_neg hname))
  · exact (congrArg Dispatch.Logger.level hreleased.get_self).trans
      (Hub.level_after_detach hknown hlevel refusal request.channel s.backend.nextSerial)

/-- **When refused calls leave the level of a logger as it was.** A hub may refuse any calls when a channel is
attached to a logger with a known level, and any others when the attachment is closed. A channel that is attached
already makes no call. For another one, if no call of the attachment is refused, it succeeds; closing it then always
closes it, and the level is the one from before, unless it was lowered and either the handler could not be removed or
the level could not be set. If a call is refused, the attachment fails with the fault of the first one. All handlers
are then those from before, and so is the level, unless it was lowered and this first call was the one that adds the
handler. No other logger is changed in any case. -/
theorem level_kept_iff (s : Station Surroundings) (request : Request)
    (hknown : Hub.placeOf (s.logger request.channel).level = some place) :
    (request.channel ∈ s.attached →
      s.attach Surroundings.hubBackend request = (.error (.alreadyAttached request.channel), s)) ∧
    (request.channel ∉ s.attached → s.refused request = none →
      ∃ r s', s.attach Surroundings.hubBackend request = (.ok r, s') ∧
      ∀ refusal reports closed after, r.close Surroundings.hubBackend (s'.refusing refusal) = (reports, closed, after) →
        closed.closed = true ∧ Released s request refusal after ∧
        ((after.logger request.channel).level = (s.logger request.channel).level ↔
          (Hub.lowers (s.logger request.channel).level request.severity = true →
            refusal (.removeHandler request.channel) = none ∧ refusal (.setLevel request.channel) = none))) ∧
    (request.channel ∉ s.attached → ∀ c fault, s.refused request = some (c, fault) →
      ∃ s', s.attach Surroundings.hubBackend request = (.error fault, s') ∧ Abandoned s request c s' ∧
      ((s'.logger request.channel).level = (s.logger request.channel).level ↔
        ¬(Hub.lowers (s.logger request.channel).level request.severity = true ∧
          c = .addHandler request.channel))) := by
  refine ⟨attach_attached Surroundings.hubBackend, ?_, ?_⟩
  · intro hfree hrefused
    obtain ⟨r, s', hattach, hreleased⟩ := attach_released hfree hknown hrefused
    refine ⟨r, s', hattach, fun refusal reports closed after hclose => ?_⟩
    obtain ⟨hclosed, hreleased⟩ := hreleased refusal reports closed after hclose
    refine ⟨hclosed, hreleased, ?_⟩
    rw [hreleased.level]
    split
    · next haccepted => exact iff_of_true rfl fun _ => haccepted
    · next hnot =>
      rw [Hub.lowered_eq_self_iff hknown, ← Bool.not_eq_true]
      exact ⟨fun hkept hlowers => absurd hlowers hkept, fun himp hlowers => hnot (himp hlowers)⟩
  · intro hfree c fault hrefused
    obtain ⟨s', hattach, habandoned⟩ := attach_abandoned hfree hrefused
    refine ⟨s', hattach, habandoned, ?_⟩
    rw [habandoned.level]
    split
    · next hadd =>
      rw [Hub.lowered_eq_self_iff hknown, ← Bool.not_eq_true]
      exact not_congr (and_iff_left hadd).symm
    · next hnot => exact iff_of_true rfl fun h => hnot h.2

/-- A new hub that refuses a call. -/
def refusingCall (c : Call) : Station Surroundings :=
  { backend := { now := ⟨0⟩, hub := { refusal := fun call => if call = c then some .backendGone else none } } }

/-- A class below the level of a new logger. -/
def fine : Request := ⟨"app", .fine, "", .named "a"⟩

/-- The level stays if it cannot be set, and comes back if everything is accepted when the attachment is closed. -/
theorem level_kept_iff_fine :
    (∃ s', (refusingCall (.setLevel "app")).attach Surroundings.hubBackend fine = (.error .backendGone, s') ∧
      (s'.logger "app").level = .text "INFO") ∧
    ∃ r s', (refusingCall (.removeHandler "app")).attach Surroundings.hubBackend fine = (.ok r, s') ∧
      ∀ reports closed after, r.close Surroundings.hubBackend (s'.refusing fun _ => none) = (reports, closed, after) →
        (after.logger "app").level = .text "INFO" := by
  have hknown : Hub.placeOf (.text "INFO") = some 2 := by decide
  have hset : (refusingCall (.setLevel "app")).refused fine = some (.setLevel "app", .backendGone) := rfl
  have hremove : (refusingCall (.removeHandler "app")).refused fine = none := rfl
  obtain ⟨-, -, hrefused⟩ := level_kept_iff (refusingCall (.setLevel "app")) fine hknown
  obtain ⟨-, haccepted, -⟩ := level_kept_iff (refusingCall (.removeHandler "app")) fine hknown
  obtain ⟨s', hattach, -, hkept⟩ := hrefused List.not_mem_nil _ _ hset
  obtain ⟨r, t, hattach', hclosed⟩ := haccepted List.not_mem_nil hremove
  refine ⟨⟨s', hattach, hkept.2 (by simp)⟩, r, t, hattach', ?_⟩
  intro reports closed after hclose
  exact (hclosed _ _ _ _ hclose).2.2.2 fun _ => ⟨rfl, rfl⟩

/-- A handler that cannot be added leaves the level lowered, though the attachment failed, and one that cannot be
removed leaves it lowered behind a closed recorder. -/
theorem not_level_kept_of_handler :
    ((refusingCall (.addHandler "app")).logger "app").level = .text "INFO" ∧
    (∃ s', (refusingCall (.addHandler "app")).attach Surroundings.hubBackend fine = (.error .backendGone, s') ∧
      (s'.logger "app").level = .text "DEBUG" ∧ (s'.logger "app").handlers = []) ∧
    ((refusingCall (.removeHandler "app")).logger "app").level = .text "INFO" ∧
    ∃ r s' reports closed after,
      (refusingCall (.removeHandler "app")).attach Surroundings.hubBackend fine = (.ok r, s') ∧
      r.close Surroundings.hubBackend s' = (reports, closed, after) ∧ closed.closed = true ∧
      (after.logger "app").level = .text "DEBUG" :=
  ⟨rfl, ⟨_, rfl, rfl, rfl⟩, rfl, _, _, _, _, _, rfl, rfl, rfl, rfl⟩

end Station

end LogAssay
