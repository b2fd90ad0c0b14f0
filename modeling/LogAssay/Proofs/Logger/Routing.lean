import LogAssay.Proofs.Logger.Roster

/-!
# Which attachments an event meets

An event passes its logger and the loggers around it, as far as each passes events on. It meets every handler on
its way once, so it meets an attachment exactly if it passes the logger of the attachment.

## Main statements

* `Staffed.captured_perm`: what a collector gets of an event comes from its attachments that the event meets.
* `IsPath.mem_outward_or`: of two loggers on one way out, one lies around the other.
-/

namespace LogAssay

namespace Logger

/-! ## Loggers on one way out -/

theorem mem_outward_self (name : String) : canonical name ∈ outward name := by
  obtain ⟨others, hothers⟩ := outward_eq_cons name
  rw [hothers]
  exact List.mem_cons_self

theorem IsPath.nodup {path : List String} (h : IsPath path) : path.Nodup := by
  induction h with
  | nil => exact List.nodup_nil
  | @cons name rest hname hrest ih =>
    obtain ⟨others, hothers⟩ := outward_eq_cons name
    obtain ⟨hself, rfl⟩ := List.cons.inj (hothers.symm.trans hname)
    rw [List.nodup_cons]
    refine ⟨?_, ih⟩
    rw [← hself]
    exact notMem_of_outward hothers

/-- What lies beyond a logger on a path is its own way out. -/
theorem IsPath.outward_suffix {path : List String} (h : IsPath path) {name : String} (hmem : name ∈ path) :
    outward name <:+ path := by
  induction h with
  | nil => cases hmem
  | @cons m rest hm hrest ih =>
    rcases List.mem_cons.1 hmem with rfl | hmem
    · exact ⟨[], hm⟩
    · exact (ih hmem).trans (List.suffix_cons _ _)

/-- **Of two loggers on one way out, one lies around the other.** -/
theorem IsPath.mem_outward_or {path : List String} (h : IsPath path) {a b : String} (ha : a ∈ path)
    (hb : b ∈ path) : a ∈ outward b ∨ b ∈ outward a := by
  have hself : ∀ name ∈ path, name ∈ outward name := by
    intro name hname
    have hmem := mem_outward_self name
    rwa [h.canonical_eq name hname] at hmem
  rcases List.suffix_or_suffix_of_suffix (h.outward_suffix ha) (h.outward_suffix hb) with hsub | hsub
  · exact .inl (hsub.subset (hself a ha))
  · exact .inr (hsub.subset (hself b hb))

end Logger

namespace LoggerTree

open Logger

variable {t₀ t : LoggerTree} {hs : List Holder} {c : Collector}

/-! ## The way of an event -/

/-- The loggers on a path that an event passes: the first one, and the next ones if it passes events on. -/
def passed (t : LoggerTree) : List String → List String
  | [] => []
  | name :: others => name :: if (t.logger name).passesOn then passed t others else []

theorem handlersFrom_eq_flatMap (t : LoggerTree) : ∀ path : List String,
    t.handlersFrom path = (t.passed path).flatMap fun name => (t.logger name).handlers
  | [] => rfl
  | name :: path => by
    rw [handlersFrom, passed, List.flatMap_cons]
    split
    · rw [handlersFrom_eq_flatMap t path]
    · rfl

theorem passed_isPrefix (t : LoggerTree) : ∀ path : List String, t.passed path <+: path
  | [] => List.nil_prefix
  | name :: path => by
    rw [passed, List.prefix_cons_inj]
    split
    · exact passed_isPrefix t path
    · exact List.nil_prefix

/-! ## The attachments on it -/

/-- The attachments of several loggers, logger by logger. -/
theorem flatMap_on_perm (hs : List Holder) : ∀ {names : List String}, names.Nodup →
    (∀ name ∈ names, canonical name = name) →
    (names.flatMap (on hs)).Perm (hs.filter (canonical ·.request.channel ∈ names))
  | [], _, _ => by
    have hnone : hs.filter (canonical ·.request.channel ∈ ([] : List String)) = [] := by simp
    rw [hnone, List.flatMap_nil]
  | name :: names, unique, hcanonical => by
    rw [List.nodup_cons] at unique
    have hrest := flatMap_on_perm hs unique.2 fun m hm => hcanonical m (List.mem_cons_of_mem _ hm)
    have hname := hcanonical name List.mem_cons_self
    have hon : (hs.filter (canonical ·.request.channel ∈ name :: names)).filter
        (canonical ·.request.channel = name) = on hs name := by
      rw [List.filter_filter, on]
      refine List.filter_congr fun x _ => ?_
      by_cases hx : canonical x.request.channel = name
      · simp [hx, hname]
      · simp [hx, hname]
    have hothers : (hs.filter (canonical ·.request.channel ∈ name :: names)).filter
        (fun x => !decide (canonical x.request.channel = name))
        = hs.filter (canonical ·.request.channel ∈ names) := by
      rw [List.filter_filter]
      refine List.filter_congr fun x _ => ?_
      by_cases hx : canonical x.request.channel = name
      · simp [hx, unique.1]
      · simp [hx]
    rw [List.flatMap_cons]
    refine (hrest.append_left (on hs name)).trans ?_
    rw [← hon, ← hothers]
    exact List.filter_append_perm _ _

/-- The attachments that an event of a level meets on its way out from a logger. -/
def met (t : LoggerTree) (hs : List Holder) (name : String) (level : Int) : List Holder :=
  hs.filter fun x => canonical x.request.channel ∈ t.passed (outward name) ∧
    Thresholds.standardLevel x.request.severity ≤ level

/-- The handlers of a collector that take an event are those of its attachments that the event meets. -/
theorem Staffed.takers_perm (h : Staffed t₀ t hs) (silent : t₀.Silent c) (name : String) (level : Int) :
    ((t.takers name level).filter (·.collector = c)).Perm
      (((t.met hs name level).filter (·.request.collector = c)).map Holder.handler) := by
  have hpath := isPath_outward name
  have hpassed := t.passed_isPrefix (outward name)
  have hperm := flatMap_on_perm hs (hpath.nodup.sublist hpassed.sublist)
    fun m hm => hpath.canonical_eq m (hpassed.subset hm)
  -- the other handlers on the way are none of the collector
  have hown : (t.handlersFrom (outward name)).filter (·.collector = c)
      = (((t.passed (outward name)).flatMap (on hs)).map Holder.handler).filter (·.collector = c) := by
    rw [handlersFrom_eq_flatMap, List.map_flatMap, List.filter_flatMap, List.filter_flatMap]
    refine List.flatMap_congr fun m _ => ?_
    have hnone : (t₀.logger m).handlers.filter (·.collector = c) = [] := by
      rw [List.filter_eq_nil_iff]
      intro y hy
      simpa using silent m y hy
    rw [h m, List.filter_append, hnone, List.nil_append]
  have hmet : ((t.met hs name level).filter (·.request.collector = c)).map Holder.handler
      = (((hs.filter (canonical ·.request.channel ∈ t.passed (outward name))).map Holder.handler).filter
          (·.collector = c)).filter (·.threshold ≤ level) := by
    rw [List.filter_map, List.filter_map, met, List.filter_filter, List.filter_filter, List.filter_filter]
    refine congrArg (List.map _) (List.filter_congr fun x _ => ?_)
    simp only [Function.comp_apply, Holder.handler, Bool.decide_and]
    ac_rfl
  rw [takers_filter, hown, hmet]
  exact (((hperm.map _).filter _).filter _)

/-- **What a collector gets of an event comes from its attachments that the event meets**, one record of each. -/
theorem Staffed.captured_perm (h : Staffed t₀ t hs) (silent : t₀.Silent c) (tags : Tags)
    (latches : Site.Latches) (name : String) (e : Event) :
    (((t.log tags latches name e).captured.filter (·.1 = c)).map (·.2)).Perm
      (if t.isOpen name e.level then
        ((t.met hs name e.level).filter (·.request.collector = c)).filterMap fun x =>
          e.recordFor tags x.request.testId
      else []) := by
  unfold log
  split
  · rw [handle, captured_for]
    refine ((h.takers_perm silent name e.level).filterMap _).trans ?_
    rw [List.filterMap_map]
    exact List.Perm.refl _
  · exact List.Perm.refl _

end LoggerTree

end LogAssay
