import LogAssay.Proofs.Logger.Ledger

/-!
# What attachments capture

An event is captured through the handlers that it passes. What a handler makes of an event depends on the event,
on the tags in force, and on the test id of the handler alone: neither on the other handlers nor on what was
reported before.

## Main statements

* `captured_for`: what a collector gets of an event comes from its own handlers, in their order.
* `Attached.captured_log`: an attachment captures an event on its logger if the event reaches its severity.
* `Attached.silent_detach`: once detached, it captures nothing.
-/

namespace LogAssay

/-- What the record of a converted event is made of. -/
theorem Event.exists_of_convert {e : Event} {tags : Tags} {r : Record} (h : (e.convert tags).outcome = .ok r) :
    ∃ text decoded time metadata, e.message.text = .ok text ∧ (Metadata.decode text).outcome = .ok decoded ∧
      Tags.stamp decoded.metadata tags = .ok metadata ∧
      r = {
        className := (Record.siteNames e.module e.qualifiedName).1
        methodName := (Record.siteNames e.module e.qualifiedName).2
        levelName := levelName e.level
        severity := Thresholds.standard.classify (.int e.level)
        timestamp := time
        thread := e.thread
        message := decoded.message
        metadata := metadata
        cause := e.cause } := by
  rw [convert] at h
  cases htext : e.message.text with
  | error fault =>
    rw [htext] at h
    cases h
  | ok text =>
    rw [htext] at h
    obtain ⟨decoded, hdecoded, hcomplete⟩ := exists_ok_of_bind h
    obtain ⟨time, -, hrest⟩ := exists_ok_of_bind hcomplete
    obtain ⟨metadata, hstamp, hrecord⟩ := exists_ok_of_bind hrest
    exact ⟨text, decoded, time, metadata, rfl, hdecoded, hstamp, (Except.ok.inj hrecord).symm⟩

/-- The record of an event under some tags, if there is one and it belongs to a test. -/
def Event.recordFor (e : Event) (tags : Tags) (testId : String) : Option Record :=
  match (e.convert tags).outcome with
  | .ok r => if TestId.accepts r.metadata testId then some r else none
  | .error _ => none

/-- The record that a handler makes of an event under some tags. -/
def Event.recordBy (e : Event) (tags : Tags) (h : Handler) : Option Record := e.recordFor tags h.testId

/-- What is captured for a test of an event, from a severity on. -/
def Event.capturedAt (e : Event) (severity : Severity) (tags : Tags) (testId : String) : Option Record :=
  if Thresholds.standardLevel severity ≤ e.level then e.recordFor tags testId else none

namespace LoggerTree

open Logger

variable {t : LoggerTree} {request : Request} {serial : Nat} {c : Collector}

/-! ## Collectors -/

theorem captured_receive (tags : Tags) (e : Event) (latches : Site.Latches) (h : Handler) :
    (receive tags e latches h).captured = ((e.recordBy tags h).map (h.collector, ·)).toList := by
  show (match (e.convert tags).outcome with
    | .ok r => if TestId.accepts r.metadata h.testId = true then [(h.collector, r)] else []
    | .error _ => []) = _
  rw [Event.recordBy, Event.recordFor]
  cases (e.convert tags).outcome with
  | error fault => rfl
  | ok r =>
    show (if TestId.accepts r.metadata h.testId = true then [(h.collector, r)] else [])
      = (Option.map _ (if TestId.accepts r.metadata h.testId = true then some r else none)).toList
    split
    · rfl
    · rfl

theorem captured_receiveAll (tags : Tags) (e : Event) : ∀ (hs : List Handler) (latches : Site.Latches),
    (receiveAll tags e latches hs).captured
      = hs.filterMap fun h => (e.recordBy tags h).map (h.collector, ·)
  | [], _ => rfl
  | h :: hs, latches => by
    rw [receiveAll, captured_receive, captured_receiveAll tags e hs]
    cases hr : e.recordBy tags h with
    | none =>
      rw [List.filterMap_cons_none (by rw [hr]; rfl)]
      rfl
    | some r =>
      rw [List.filterMap_cons_some (by rw [hr]; rfl)]
      rfl

/-- **What a collector gets of an event comes from its own handlers, in their order.** -/
theorem captured_for (tags : Tags) (e : Event) (latches : Site.Latches) (c : Collector) (hs : List Handler) :
    ((receiveAll tags e latches hs).captured.filter (·.1 = c)).map (·.2)
      = (hs.filter (·.collector = c)).filterMap (e.recordBy tags) := by
  rw [captured_receiveAll]
  induction hs with
  | nil => rfl
  | cons h hs ih =>
    cases hr : e.recordBy tags h with
    | none =>
      rw [List.filterMap_cons_none (by rw [hr]; rfl), ih]
      by_cases hc : h.collector = c
      · rw [List.filter_cons_of_pos (by simp [hc]), List.filterMap_cons_none hr]
      · rw [List.filter_cons_of_neg (by simp [hc])]
    | some r =>
      rw [List.filterMap_cons_some (by rw [hr]; rfl)]
      by_cases hc : h.collector = c
      · rw [List.filter_cons_of_pos (by simp [hc]), List.filter_cons_of_pos (by simp [hc]),
          List.filterMap_cons_some hr, List.map_cons, ih]
      · rw [List.filter_cons_of_neg (by simp [hc]), List.filter_cons_of_neg (by simp [hc]), ih]

/-! ## Silence -/

/-- No handler hands anything to a collector. -/
def Silent (t : LoggerTree) (c : Collector) : Prop :=
  ∀ name, ∀ h ∈ (t.logger name).handlers, h.collector ≠ c

theorem handlersFrom_silent : ∀ {path : List String},
    (∀ name ∈ path, ∀ h ∈ (t.logger name).handlers, h.collector ≠ c) →
    (t.handlersFrom path).filter (·.collector = c) = []
  | [], _ => rfl
  | name :: path, hsilent => by
    have hown : (t.logger name).handlers.filter (·.collector = c) = [] := by
      rw [List.filter_eq_nil_iff]
      intro h hmem
      simpa using hsilent name (by simp) h hmem
    rw [handlersFrom, List.filter_append, hown, List.nil_append]
    split
    · exact handlersFrom_silent fun m hm => hsilent m (by simp [hm])
    · rfl

theorem takers_filter (t : LoggerTree) (name : String) (level : Int) (c : Collector) :
    (t.takers name level).filter (·.collector = c)
      = ((t.handlersFrom (outward name)).filter (·.collector = c)).filter (·.threshold ≤ level) := by
  rw [takers, List.filter_filter, List.filter_filter]
  simp only [Bool.and_comm]

theorem Silent.captured_log (h : t.Silent c) (tags : Tags) (latches : Site.Latches) (name : String)
    (e : Event) : ((t.log tags latches name e).captured.filter (·.1 = c)).map (·.2) = [] := by
  unfold log
  split
  · rw [handle, captured_for, takers_filter, handlersFrom_silent fun m _ => h m]
    rfl
  · rfl

/-! ## Attachments -/

/-- One attachment is all that there is of its collector, and events that reach its severity pass its logger. -/
structure Attached (t : LoggerTree) (request : Request) (serial : Nat) : Prop where
  passes : t.effectiveLevel request.channel ≤ Thresholds.standardLevel request.severity
  here : (t.logger request.channel).handlers.filter (·.collector = request.collector)
    = [(Holder.mk serial request).handler]
  elsewhere : ∀ name, canonical name ≠ canonical request.channel →
    ∀ h ∈ (t.logger name).handlers, h.collector ≠ request.collector

theorem level_attach_self (t : LoggerTree) (request : Request) (serial : Nat) :
    (t.attach request serial).effectiveLevel request.channel ≤ Thresholds.standardLevel request.severity := by
  have hpos := Thresholds.standardLevel_pos request.severity
  by_cases hlow : Thresholds.standardLevel request.severity < t.effectiveLevel request.channel
  · have hlevel : ((t.attach request serial).logger request.channel).level
        = Thresholds.standardLevel request.severity := by
      rw [logger_attach, if_pos rfl]
      exact if_pos hlow
    exact Int.le_of_eq ((effectiveLevel_of_ne_zero (by omega)).trans hlevel)
  · have hsame : ∀ m, ((t.attach request serial).logger m).level = (t.logger m).level := by
      intro m
      rw [logger_attach, if_neg hlow]
      split
      · rfl
      · rfl
    rw [effectiveLevel, firstLevel_congr fun m _ => hsame m]
    exact Int.not_lt.1 hlow

/-- **Attaching a collector that nothing goes to.** -/
theorem Silent.attached (h : t.Silent request.collector) (serial : Nat) :
    (t.attach request serial).Attached request serial where
  passes := level_attach_self t request serial
  here := by
    have hnone : (t.logger request.channel).handlers.filter (·.collector = request.collector) = [] := by
      rw [List.filter_eq_nil_iff]
      intro x hx
      simpa using h request.channel x hx
    rw [logger_attach, if_pos rfl, List.filter_append, hnone, List.filter_cons_of_pos (by simp)]
    rfl
  elsewhere name hname x hx := by
    rw [logger_attach, if_neg hname] at hx
    exact h name x hx

namespace Attached

/-- The handler of the attachment is the only one of its collector on the way out: its logger is met once. -/
theorem handlersFrom_outward (h : t.Attached request serial) :
    (t.handlersFrom (outward request.channel)).filter (·.collector = request.collector)
      = [(Holder.mk serial request).handler] := by
  obtain ⟨others, hothers⟩ := outward_eq_cons request.channel
  have hpath := isPath_outward request.channel
  rw [hothers] at hpath
  rw [hothers, handlersFrom, logger_canonical, List.filter_append, h.here]
  split
  · rw [handlersFrom_silent, List.append_nil]
    intro name hmem
    refine h.elsewhere name ?_
    intro hname
    -- a name on the way out is canonical, so it would be that of the logger itself
    rw [hpath.canonical_eq name (List.mem_cons_of_mem _ hmem)] at hname
    exact notMem_of_outward hothers (hname ▸ hmem)
  · rfl

/-- **An attachment captures an event on its logger if the event reaches its severity.** -/
theorem captured_log (h : t.Attached request serial) (tags : Tags) (latches : Site.Latches) (e : Event) :
    ((t.log tags latches request.channel e).captured.filter (·.1 = request.collector)).map (·.2)
      = (e.capturedAt request.severity tags request.testId).toList := by
  have hpos := Thresholds.standardLevel_pos request.severity
  have hpasses := h.passes
  have htakers : (t.takers request.channel e.level).filter (·.collector = request.collector)
      = if Thresholds.standardLevel request.severity ≤ e.level then [(Holder.mk serial request).handler]
        else [] := by
    rw [takers_filter, h.handlersFrom_outward]
    split
    · next hlevel => rw [List.filter_cons_of_pos (by exact decide_eq_true hlevel), List.filter_nil]
    · next hlevel => rw [List.filter_cons_of_neg (by exact fun h => hlevel (of_decide_eq_true h)), List.filter_nil]
  unfold log
  by_cases hlevel : Thresholds.standardLevel request.severity ≤ e.level
  · have hopen : t.isOpen request.channel e.level = true := isOpen_iff.2 ⟨by omega, Int.le_trans hpasses hlevel⟩
    rw [if_pos hopen, handle, captured_for, htakers, if_pos hlevel, Event.capturedAt, if_pos hlevel]
    have hrecord : e.recordFor tags request.testId = e.recordBy tags (Holder.mk serial request).handler := rfl
    rw [hrecord]
    cases hr : e.recordBy tags (Holder.mk serial request).handler with
    | none => exact List.filterMap_cons_none hr
    | some r => exact List.filterMap_cons_some hr
  · rw [Event.capturedAt, if_neg hlevel]
    split
    · rw [handle, captured_for, htakers, if_neg hlevel]
      rfl
    · rfl

end Attached

/-! ## Detaching -/

/-- **A detached collector gets nothing any more.** -/
theorem Attached.silent_detach (h : t.Attached request serial) :
    (t.detach ⟨request.channel, serial⟩).Silent request.collector := by
  intro name x hx
  rw [handlers_detach] at hx
  split at hx
  · next hname =>
    obtain ⟨hmem, hserial⟩ := List.mem_filter.1 hx
    rw [t.logger_congr hname] at hmem
    intro hcollector
    -- the only handler of the collector is the one that was removed
    have hown : x ∈ (t.logger request.channel).handlers.filter (·.collector = request.collector) :=
      List.mem_filter.2 ⟨hmem, decide_eq_true hcollector⟩
    rw [h.here, List.mem_singleton] at hown
    rw [hown] at hserial
    exact absurd rfl (of_decide_eq_true hserial)
  · next hname => exact h.elsewhere name hname x hx

end LoggerTree

end LogAssay
