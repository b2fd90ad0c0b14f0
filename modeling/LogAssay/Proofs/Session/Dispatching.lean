import LogAssay.Proofs.Dispatch.Conduct
import LogAssay.Session.Surroundings

/-!
# The hub of a session

A backend that dispatches records does not have full support, whatever it does in its calls. A session has one hub, and
the hub is a dispatcher: what the session asks of it directly is what is asked of any dispatcher, since a channel is
attached and detached by the calls that every dispatcher answers. So the hub does not have full support either.

## Main statements

* `start_hubBackend`, `stop_hubBackend`: the backend of the hub is that of its dispatcher.
* `emit_hubDispatcher`: an event of a self-test is logged as any other message.
* `supportOf_dispatch`: the hub does not have full support.
* `Dispatch.support_not_full`: neither does any other backend that dispatches records.
-/

namespace LogAssay

namespace Surroundings

variable {α β : Type}

/-! ## Actions on the hub -/

theorem onHub_pure (x : α) : onHub (pure x) = pure x := rfl

theorem onHub_bind (a : Act Dispatch.Hub α) (f : α → Act Dispatch.Hub β) :
    onHub (a >>= f) = onHub a >>= fun x => onHub (f x) := by
  refine funext fun s => ?_
  show (onHub (a >>= f)).result s = (onHub a >>= fun x => onHub (f x)).result s
  rcases ha : a.result s.hub with ⟨fault | x, hub⟩
  · have hfirst : (onHub a).result s = (.error fault, { s with hub := hub }) := by rw [result_onHub, ha]
    rw [result_onHub, Act.result_bind_error ha, Act.result_bind_error hfirst]
  · have hfirst : (onHub a).result s = (.ok x, { s with hub := hub }) := by rw [result_onHub, ha]
    rw [result_onHub, Act.result_bind_ok ha, Act.result_bind_ok hfirst, result_onHub]

theorem onHub_ite (p : Bool) (a b : Act Dispatch.Hub α) :
    onHub (if p then a else b) = if p then onHub a else onHub b := apply_ite onHub (p = true) a b

/-- The level that a dispatcher reads is that of the logger which the hub gave. -/
theorem getLogger_bind_level (name : String) (f : String → Value → Act Surroundings α) :
    (onHub (Dispatch.Hub.getLogger name) >>= fun logger => f name logger.level)
      = hubDispatcher.getLogger name >>= fun name => hubDispatcher.level name >>= f name := by
  simp only [hubDispatcher, Dispatch.Hub.getLogger, onHub_bind, bind_assoc, pure_bind]
  rfl

/-! ## The backend of the hub -/

/-- What is needed to detach a channel, as the hub keeps it. -/
def ofDispatcher (d : Dispatch.Dispatcher.Detachment String) : Detachment :=
  .hub ⟨d.logger, d.handler.serial, d.restored⟩

/-- **Attaching to the hub is attaching to its dispatcher.** -/
theorem start_hubBackend (request : Request) :
    hubBackend.start request = hubDispatcher.attach request >>= fun d => pure (ofDispatcher d) := by
  simp only [hubBackend, Dispatch.Hub.attach, Dispatch.Dispatcher.attach, onHub_bind, onHub_pure, onHub_ite, bind_assoc]
  refine congrArg (freshSerial >>= ·) (funext fun serial => ?_)
  refine Eq.trans (congrArg (_ >>= ·) (funext fun logger => ?_)) (getLogger_bind_level request.channel _)
  cases Dispatch.Hub.lowers logger.level request.severity with
  | false | true =>
    simp only [hubDispatcher, ofDispatcher, if_true, Bool.false_eq_true, if_false, bind_assoc, pure_bind]

/-- **Detaching from the hub is detaching from its dispatcher.** -/
theorem stop_hubBackend (d : Dispatch.Dispatcher.Detachment String) :
    hubBackend.stop (ofDispatcher d) = hubDispatcher.detach d := by
  obtain ⟨name, handler, restored⟩ := d
  show onHub (Dispatch.Hub.detach ⟨name, handler.serial, restored⟩) = _
  rw [Dispatch.Hub.detach, onHub_bind]
  cases restored <;> rfl

/-- **An event of a self-test is logged as any other message.** -/
theorem emit_hubDispatcher (channel : String) (e : Probe.Emission) :
    hubDispatcher.emit channel e = hubLog channel (Dispatch.levelName e.severity) e.message := by
  simp only [Dispatch.Dispatcher.emit, hubLog, hubDispatcher, bind_assoc, pure_bind]

/-! ## Its self-test -/

open Dispatch (Anonymous AllAnonymous)

/-- What has arrived for a self-test is anonymous. -/
def ArrivesAnonymous (s : Surroundings) : Prop := ∀ arrival ∈ s.arrivals, arrival.1 = .probe → Anonymous arrival.2

theorem maintains_onHub (a : Act Dispatch.Hub α) : (onHub a).Maintains ArrivesAnonymous := fun _ h => h

theorem handOver_anonymous (now : Timestamp) (record : Dispatch.Fields) (handlers : List Dispatch.Handler) :
    ∀ arrival ∈ (Dispatch.Hub.handOver now record handlers).captured, Anonymous arrival.2 := by
  induction handlers with
  | nil => exact fun _ h => absurd h List.not_mem_nil
  | cons h others ih =>
    intro arrival harrival
    unfold Dispatch.Hub.handOver at harrival
    dsimp only at harrival
    split at harrival
    · cases harrival
    · next captured hcapture =>
      rcases List.mem_append.1 harrival with hfirst | hrest
      · rw [Option.mem_toList, Option.map_eq_some_iff] at hfirst
        obtain ⟨r, rfl, rfl⟩ := hfirst
        exact Dispatch.capture_anonymous hcapture
      · exact ih arrival hrest

theorem log_anonymous (hub : Dispatch.Hub) (now : Timestamp) (name level message : String) :
    ∀ arrival ∈ (hub.log now name level message).captured, Anonymous arrival.2 := by
  unfold Dispatch.Hub.log
  split
  · exact handOver_anonymous _ _ _
  · exact fun _ h => absurd h List.not_mem_nil

theorem accept_anonymous {h : Dispatch.Hub.Handover} (hcaptured : ∀ arrival ∈ h.captured, Anonymous arrival.2) :
    (accept h).Maintains ArrivesAnonymous := by
  have hadd : (modify fun s => { s with
      arrivals := s.arrivals ++ h.captured
      notices := s.notices ++ h.reports.map .diagnostic } : Act Surroundings Unit).Maintains ArrivesAnonymous := by
    intro s hs arrival harrival
    rcases List.mem_append.1 harrival with hbefore | hnew
    · exact hs arrival hbefore
    · exact fun _ => hcaptured arrival hnew
  refine hadd.bind fun _ => ?_
  split
  · exact fun _ hs => hs
  · exact .pure ()

theorem maintains_log (name level message : String) :
    (hubDispatcher.log name level message).Maintains ArrivesAnonymous := by
  intro s hs
  have hlog : (hubDispatcher.log name level message).result s
      = (accept (s.hub.log s.now name level message)).result s := Act.result_bind_ok (Act.result_get s)
  rw [hlog]
  exact accept_anonymous (log_anonymous s.hub s.now name level message) s hs

theorem maintains_hubDispatcher : hubDispatcher.Maintains ArrivesAnonymous where
  getLogger _ := (maintains_onHub _).bind fun _ => .pure _
  level _ := fun _ h => h
  setLevel name level := maintains_onHub (Dispatch.Hub.setLevel name (.text level))
  addHandler name handler := maintains_onHub (Dispatch.Hub.addHandler name handler)
  removeHandler name handler := maintains_onHub (Dispatch.Hub.removeHandler name handler.serial)
  log := maintains_log
  serial := fun _ h => h

/-- What arrives is collected, if it is for the self-test. -/
theorem maintains_probed {a : Act Surroundings α} (h : a.Maintains ArrivesAnonymous) :
    (probed a).Maintains fun c => ArrivesAnonymous c.state ∧ AllAnonymous c := by
  intro c ⟨hstate, hrecords⟩
  have hafter := h c.state hstate
  refine ⟨fun arrival harrival => hafter arrival (List.mem_filter.1 harrival).1, fun r hr => ?_⟩
  rcases List.mem_append.1 hr with hbefore | hnew
  · exact hrecords r hbefore
  · obtain ⟨arrival, harrival, rfl⟩ := List.mem_map.1 hnew
    obtain ⟨hmem, hprobe⟩ := List.mem_filter.1 harrival
    exact hafter arrival hmem (of_decide_eq_true hprobe)

/-- **The hub does not have full support**, in whatever state it is, if nothing has arrived for a self-test before. -/
theorem supportOf_dispatch (tags : Tags) (name : String) (s : Surroundings)
    (h : ∀ r, (Collector.probe, r) ∉ s.arrivals) :
    (supportOf tags none (.dispatch name) s).1 = .partly ∨ (supportOf tags none (.dispatch name) s).1 = .none := by
  have hstart : ArrivesAnonymous s := fun ⟨_, r⟩ hr hprobe => absurd (hprobe ▸ hr) (h r)
  have hsubject := (maintains_hubDispatcher.map maintains_probed).subject (Factory.dispatch name).shown
  have hcollected := hsubject.run probeCause ⟨hstart, fun _ hr => absurd hr List.not_mem_nil⟩
  exact Support.partly_or_none_of_ne_full (AllAnonymous.run_ne_full hcollected.2)

end Surroundings

/-! ## Any backend that dispatches records -/

namespace Dispatch

open Surroundings (hubBackend hubDispatcher hubLog ofDispatcher supportOf)

/-- **A backend that dispatches records never has full support**, whatever it does in any call and however often its
factory is asked. What any handler captures tells no call site and no cause, and so does all that a self-test collects.
The hub of a session is such a backend: it attaches and detaches channels and logs events by the calls of a dispatcher,
and does not have full support. -/
theorem support_not_full :
    (∀ (σ κ : Type) (b : Service σ κ) (name : String) (cause : Cause) (s : σ),
      let subject := b.dispatcher.subject (Factory.dispatch name).shown
      (∀ gate now record r, (Gate.capture gate now record).outcome = .ok (some r) → Anonymous r) ∧
      AllAnonymous (Probe.run subject cause s).2.2 ∧
      ∀ (betweens : List (σ → σ)), ∀ level ∈ (subject.ask cause betweens none s).1, level = .partly ∨ level = .none) ∧
    (∀ request, hubBackend.start request = hubDispatcher.attach request >>= fun d => pure (ofDispatcher d)) ∧
    (∀ d, hubBackend.stop (ofDispatcher d) = hubDispatcher.detach d) ∧
    (∀ channel e, hubDispatcher.emit channel e = hubLog channel (levelName e.severity) e.message) ∧
    ∀ (tags : Tags) (name : String) (s : Surroundings), (∀ r, (Collector.probe, r) ∉ s.arrivals) →
      (supportOf tags none (.dispatch name) s).1 = .partly ∨ (supportOf tags none (.dispatch name) s).1 = .none := by
  refine ⟨fun σ κ b name cause s => ⟨fun _ _ _ _ => capture_anonymous, ?_, ?_⟩, Surroundings.start_hubBackend,
    Surroundings.stop_hubBackend, Surroundings.emit_hubDispatcher, Surroundings.supportOf_dispatch⟩
  · exact b.collected_anonymous _ cause s
  · exact b.ask_not_full _ cause s

end Dispatch

end LogAssay
