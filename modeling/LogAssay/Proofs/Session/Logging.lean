import LogAssay.Proofs.Logger.Delivery
import LogAssay.Proofs.Session.Archive

/-!
# Logging in a session

Events are logged in the context of a session, under the tags in force there, or in other contexts with tags of
their own. Either way nothing changes but what is noticed and captured.

## Main statements

* `Collected.logAll_silent`: nothing is captured without an attachment.
* `Collected.logAll_attached`: an attachment captures the events of its logger from its severity on.
-/

namespace LogAssay

namespace Session

/-! ## Steps -/

/-- The session at the end of a step. -/
def settle (s : Session) : Session :=
  { s.commit.2 with around := { s.commit.2.around with notices := [] } }

theorem step_eq {s s' : Session} (command : Command) {outcome : Except Fault Reply}
    (h : (carryOut command).result s = (outcome, s')) :
    (s.step command).1.outcome = outcome ∧ (s.step command).2 = s'.settle := by
  rw [step, h]
  exact ⟨rfl, rfl⟩

theorem arrivals_settle (s : Session) : s.settle.around.arrivals = [] := rfl

theorem Collected.settle {s : Session} {name : String} {index : Nat} {settings : Settings}
    {records : List Record} (h : s.Collected name index settings records) :
    s.settle.Collected name index settings (records ++ arrivedFor s.around.arrivals index) :=
  h.commit.congr rfl

theorem arrivedFor_append (arrivals more : List (Collector × Record)) (index : Nat) :
    arrivedFor (arrivals ++ more) index = arrivedFor arrivals index ++ arrivedFor more index := by
  rw [arrivedFor, List.filter_append, List.map_append]
  rfl

theorem mem_arrivedFor {arrivals : List (Collector × Record)} {index : Nat} {r : Record} :
    r ∈ arrivedFor arrivals index ↔ (.capture index, r) ∈ arrivals := by
  simp [arrivedFor]

/-- A step in which nothing is captured leaves a capture as it is. -/
theorem Collected.settle_of_eq {s s' : Session} {name : String} {index : Nat} {settings : Settings}
    {records : List Record} (h : s.Collected name index settings records)
    (hnone : arrivedFor s.around.arrivals index = []) (hcaptures : s'.captures = s.captures)
    (harrivals : arrivedFor s'.around.arrivals index = arrivedFor s.around.arrivals index) :
    s'.settle.Collected name index settings records := by
  have hsettled := (h.congr hcaptures).settle
  rwa [harrivals, hnone, List.append_nil] at hsettled

/-! ## Logging -/

/-- Logs an event on a logger in the context of the session, or in another context with tags of its own. -/
def logIn (channel : String) (s : Session) : Option Tags × Event → Session
  | (none, e) => (s.step (.log channel e)).2
  | (some tags, e) => { (({ s with tags := tags } : Session).step (.log channel e)).2 with tags := s.tags }

/-- Logs events on a logger, one after the other. -/
def logAll (channel : String) (s : Session) (events : List (Option Tags × Event)) : Session :=
  events.foldl (logIn channel) s

/-- Logging an event changes nothing but what is noticed and captured. -/
theorem logIn_eq (channel : String) (s : Session) (context : Option Tags) (e : Event) :
    s.logIn channel (context, e)
      = settle { s with around := s.around.log (context.getD s.tags) channel e } := by
  cases context with
  | none => exact (step_eq (.log channel e) rfl).2
  | some tags =>
    rw [logIn, (step_eq (.log channel e) rfl).2]
    rfl

/-- Two sessions with one tree, one pool of test ids, the same tags in force and the same hooks. -/
structure Alike (s s' : Session) : Prop where
  tree : s'.around.tree = s.around.tree
  tags : s'.tags = s.tags
  pool : s'.pool = s.pool
  hooks : s'.hooks = s.hooks

theorem Alike.trans {s s' s'' : Session} (h : s.Alike s') (h' : s'.Alike s'') : s.Alike s'' :=
  ⟨h'.tree.trans h.tree, h'.tags.trans h.tags, h'.pool.trans h.pool, h'.hooks.trans h.hooks⟩

theorem alike_logIn (channel : String) (s : Session) (event : Option Tags × Event) :
    s.Alike (s.logIn channel event) := by
  obtain ⟨context, e⟩ := event
  rw [logIn_eq]
  exact ⟨rfl, rfl, rfl, rfl⟩

theorem arrivals_logIn (channel : String) (s : Session) (event : Option Tags × Event) :
    (s.logIn channel event).around.arrivals = [] := by
  obtain ⟨context, e⟩ := event
  rw [logIn_eq]
  exact arrivals_settle _

/-- Logging leaves the tree, the pool of test ids, the tags in force and the hooks as they are. -/
theorem alike_logAll (channel : String) : ∀ (events : List (Option Tags × Event)) (s : Session),
    s.Alike (s.logAll channel events)
  | [], _ => ⟨rfl, rfl, rfl, rfl⟩
  | event :: events, s => (alike_logIn channel s event).trans (alike_logAll channel events _)

theorem arrivedFor_logAll (channel : String) {index : Nat} : ∀ (events : List (Option Tags × Event))
    {s : Session}, arrivedFor s.around.arrivals index = [] →
    arrivedFor (s.logAll channel events).around.arrivals index = []
  | [], _, h => h
  | event :: events, s, _ => arrivedFor_logAll channel events (by rw [arrivals_logIn]; rfl)

namespace Collected

variable {s : Session} {name channel : String} {index : Nat} {settings : Settings} {records : List Record}

theorem logIn (h : s.Collected name index settings records) (hnone : arrivedFor s.around.arrivals index = [])
    (channel : String) (context : Option Tags) (e : Event) :
    (s.logIn channel (context, e)).Collected name index settings (records ++ arrivedFor
      (s.around.tree.log (context.getD s.tags) s.around.latches channel e).captured index) := by
  have hlogged : Collected { s with around := s.around.log (context.getD s.tags) channel e }
      name index settings records := h.congr rfl
  have harrived : arrivedFor (s.around.log (context.getD s.tags) channel e).arrivals index
      = arrivedFor (s.around.tree.log (context.getD s.tags) s.around.latches channel e).captured index := by
    show arrivedFor (s.around.arrivals ++ _) index = _
    rw [arrivedFor_append, hnone, List.nil_append]
  rw [logIn_eq, ← harrived]
  exact hlogged.settle

/-- What a capture gets of events that are logged, if it is known what it gets of each. -/
theorem logAll {f : Tags → Event → List Record} : ∀ (events : List (Option Tags × Event)) {s : Session}
    {records : List Record}, s.Collected name index settings records →
    arrivedFor s.around.arrivals index = [] →
    (∀ tags latches e, arrivedFor (s.around.tree.log tags latches channel e).captured index = f tags e) →
    (s.logAll channel events).Collected name index settings
      (records ++ events.flatMap fun (context, e) => f (context.getD s.tags) e)
  | [], _, _, h, _, _ => by
    rw [List.flatMap_nil, List.append_nil]
    exact h
  | (context, e) :: events, s, records, h, hnone, hf => by
    have halike := alike_logIn channel s (context, e)
    have hfirst := h.logIn hnone channel context e
    have hnone' : arrivedFor (s.logIn channel (context, e)).around.arrivals index = [] := by
      rw [arrivals_logIn]
      rfl
    rw [hf] at hfirst
    -- the tree is still the same, so the rest is captured alike
    have hrest := logAll events hfirst hnone' (by rw [halike.tree]; exact hf)
    rw [halike.tags, List.append_assoc] at hrest
    rw [List.flatMap_cons]
    exact hrest

/-- **Nothing is captured without an attachment.** -/
theorem logAll_silent (h : s.Collected name index settings records)
    (hnone : arrivedFor s.around.arrivals index = []) (hsilent : s.around.tree.Silent (.capture index))
    (channel : String) (events : List (Option Tags × Event)) :
    (s.logAll channel events).Collected name index settings records := by
  have hlogged := h.logAll (f := fun _ _ => []) events hnone
    fun tags latches e => hsilent.captured_log tags latches channel e
  have hnil : events.flatMap (fun _ => ([] : List Record)) = [] := by simp
  rw [hnil, List.append_nil] at hlogged
  exact hlogged

/-- **An attachment captures the events of its logger from its severity on.** -/
theorem logAll_attached (h : s.Collected name index settings records)
    (hnone : arrivedFor s.around.arrivals index = []) {severity : Severity} {testId : String} {serial : Nat}
    (hattached : s.around.tree.Attached ⟨channel, severity, testId, .capture index⟩ serial)
    (events : List (Option Tags × Event)) :
    (s.logAll channel events).Collected name index settings (records ++
      events.filterMap fun (context, e) => e.capturedAt severity (context.getD s.tags) testId) := by
  rw [List.filterMap_eq_flatMap_toList]
  exact h.logAll (f := fun tags e => (e.capturedAt severity tags testId).toList) events hnone
    fun tags latches e => hattached.captured_log tags latches e

end Collected

end Session

end LogAssay
