import LogAssay.Proofs.Capture.Lab
import LogAssay.Proofs.Logger.Routing
import LogAssay.Proofs.Session.Capturing

/-!
# How often an event is captured

A capture has a recorder for each of its channels, and an event is captured by each recorder that it meets: those
of its own logger, and those further out as long as events are passed on. So an event may be captured several
times, once for each channel that encloses another one. It is captured at most once if no channel does.

## Main statements

* `captured_per_channel`: an event is captured once for each channel that it meets.
* `captured_twice_enclosing`: an event of a logger inside another one may be captured for both.
-/

namespace LogAssay

open Logger (canonical outward)
open LoggerTree (Holder)

/-- A logger encloses itself and the loggers inside it. -/
def Logger.Encloses (outer inner : String) : Prop := canonical outer ∈ outward inner

/-- A list holds at most one item if any two items of it are related but no item is related to a later one. -/
theorem length_le_one_of_pairwise_not {α : Type} {R : α → α → Prop} : ∀ {l : List α},
    l.Pairwise (fun a b => ¬R a b) → (∀ a ∈ l, ∀ b ∈ l, R a b) → l.length ≤ 1
  | [], _, _ => Nat.zero_le _
  | [_], _, _ => Nat.le_refl _
  | a :: b :: _, hnone, hall => by
    rw [List.pairwise_cons] at hnone
    exact absurd (hall a (by simp) b (by simp)) (hnone.1 b (by simp))

namespace Installation

/-- The channels of an installation whose recorders an event of a level meets on its way out from a logger. -/
def met (x : Installation) (t : LoggerTree) (name : String) (level : Int) : Levels :=
  x.levels.filter fun (channel, severity) =>
    canonical channel ∈ t.passed (outward name) ∧ Thresholds.standardLevel severity ≤ level

/-- No channel of an installation encloses another one. -/
def IsFlat (x : Installation) : Prop :=
  (x.levels.map (·.1)).Pairwise fun a b => ¬(Logger.Encloses a b ∨ Logger.Encloses b a)

/-- Of channels that do not enclose each other, an event meets one at most. -/
theorem IsFlat.length_met {x : Installation} (h : x.IsFlat) (t : LoggerTree) (name : String) (level : Int) :
    (x.met t name level).length ≤ 1 := by
  rw [IsFlat] at h
  have hsub : ((x.met t name level).map (·.1)).Sublist (x.levels.map (·.1)) := List.filter_sublist.map _
  rw [← List.length_map (·.1)]
  refine length_le_one_of_pairwise_not (h.sublist hsub) ?_
  have hway : ∀ channel ∈ (x.met t name level).map (·.1), canonical channel ∈ outward name := by
    intro channel hchannel
    obtain ⟨request, hrequest, rfl⟩ := List.mem_map.1 hchannel
    have hmet := of_decide_eq_true (List.mem_filter.1 hrequest).2
    exact (t.passed_isPrefix (outward name)).subset hmet.1
  intro a ha b hb
  have hor := (Logger.isPath_outward name).mem_outward_or (hway a ha) (hway b hb)
  rwa [Logger.outward_canonical, Logger.outward_canonical] at hor

/-- What an open installation captures of an event: one record for each channel that the event meets. -/
theorem filterMap_met {x : Installation} (h : x.hook.Holding x.levels x.holders) (t : LoggerTree) (name : String)
    (level : Int) (record : String → Option Record) :
    (t.met x.holders name level).filterMap (fun y => record y.request.testId)
      = (x.met t name level).filterMap fun _ => record x.hook.testId := by
  have hrequests : (t.met x.holders name level).map Holder.request
      = (x.met t name level).map fun (channel, severity) =>
          ⟨channel, severity, x.hook.testId, .capture x.hook.capture⟩ := by
    have hfiltered := congrArg (List.filter fun request : Request =>
      decide (canonical request.channel ∈ t.passed (outward name) ∧
        Thresholds.standardLevel request.severity ≤ level)) h.requests
    rw [Hook.requests, List.filter_map, List.filter_map] at hfiltered
    exact hfiltered
  have hrecords := congrArg (List.filterMap fun request : Request => record request.testId) hrequests
  rw [List.filterMap_map, List.filterMap_map] at hrecords
  exact hrecords

end Installation

namespace Lab

/-- What has been captured for a capture so far. -/
def received (s : Lab) (capture : Nat) : List Record := Session.arrivedFor s.around.arrivals capture

/-- The open installations of a capture. -/
def installed (s : Lab) (capture : Nat) : List Installation :=
  s.hooks.filter fun x => x.hook.closed = false ∧ x.hook.capture = capture

theorem received_log (s : Lab) (capture context : Nat) (name : String) (e : Event) :
    (s.step (.log context name e)).received capture = s.received capture
      ++ Session.arrivedFor (s.around.tree.log (s.tags context) s.around.latches name e).captured capture :=
  Session.arrivedFor_append _ _ _

namespace Sound

variable {t₀ : LoggerTree} {first : Nat} {s : Lab}

/-- The attachments of a capture that an event meets, installation by installation. -/
theorem met_ledger (h : Sound t₀ first s) (t : LoggerTree) (capture : Nat) (name : String) (level : Int) :
    (t.met s.ledger name level).filter (·.request.collector = .capture capture)
      = (s.installed capture).flatMap fun x => t.met x.holders name level := by
  rw [LoggerTree.met, ledger, List.filter_flatMap, List.filter_flatMap, installed]
  have hsound := h.holding
  have hspent := h.spent
  generalize s.hooks = hooks at hsound hspent
  induction hooks with
  | nil => rfl
  | cons x hooks ih =>
    have hrest := ih (fun y hy => hsound y (by simp [hy])) fun y hy => hspent y (by simp [hy])
    rw [List.flatMap_cons, hrest]
    by_cases hopen : x.hook.closed = false
    · -- all attachments of a hook are for its own capture
      have hcollector : ∀ y ∈ x.holders, y.request.collector = .capture x.hook.capture :=
        fun y hy => (Installation.request_of_mem (hsound x (by simp) hopen) hy).1
      by_cases hcapture : x.hook.capture = capture
      · rw [List.filter_cons_of_pos (by simp [hopen, hcapture]), List.flatMap_cons]
        refine congrArg (· ++ _) (List.filter_eq_self.2 fun y hy => ?_)
        have := hcollector y (List.mem_filter.1 hy).1
        simp [this, hcapture]
      · rw [List.filter_cons_of_neg (by simp [hcapture])]
        refine (congrArg (· ++ _) (List.filter_eq_nil_iff.2 fun y hy => ?_)).trans (List.nil_append _)
        have := hcollector y (List.mem_filter.1 hy).1
        simp [this, hcapture]
    · -- and a closed hook has none
      rw [hspent x (by simp) (by simpa using hopen), List.filter_cons_of_neg (by simp [hopen])]
      rfl

end Sound

/-- **An event is captured once for each channel that it meets**, and so at most once by a capture that is
installed once, on channels that do not enclose each other. -/
theorem captured_per_channel {s₀ : Lab} (h₀ : s₀.IsInitial) (moves : List Move) (capture context : Nat)
    (name : String) (e : Event) :
    let s := s₀.run moves
    ∃ fresh,
      (s.step (.log context name e)).received capture = s.received capture ++ fresh ∧
      fresh.Perm (if s.around.tree.isOpen name e.level then
          (s.installed capture).flatMap fun x => (x.met s.around.tree name e.level).filterMap fun _ =>
            e.recordFor (s.tags context) x.hook.testId
        else []) ∧
      ((s.installed capture).length ≤ 1 → (∀ x ∈ s.installed capture, x.IsFlat) → fresh.length ≤ 1) := by
  intro s
  have hsound := h₀.sound_run moves
  have hperm := hsound.roster.kept.captured_perm (h₀.silent capture) (s.tags context) s.around.latches name e
  have hrecords : ((s.around.tree.met s.ledger name e.level).filter
        (·.request.collector = .capture capture)).filterMap (fun y => e.recordFor (s.tags context) y.request.testId)
      = (s.installed capture).flatMap fun x => (x.met s.around.tree name e.level).filterMap fun _ =>
          e.recordFor (s.tags context) x.hook.testId := by
    rw [hsound.met_ledger, List.filterMap_flatMap]
    refine List.flatMap_congr fun x hx => ?_
    obtain ⟨hmem, hopen⟩ := List.mem_filter.1 hx
    exact x.filterMap_met (hsound.holding x hmem (of_decide_eq_true hopen).1) _ _ _
      (e.recordFor (s.tags context))
  rw [hrecords] at hperm
  refine ⟨_, s.received_log capture context name e, hperm, fun hone hflat => ?_⟩
  refine Nat.le_trans (Nat.le_of_eq hperm.length_eq) ?_
  split
  · rcases hinstalled : s.installed capture with _ | ⟨x, _ | ⟨y, others⟩⟩
    · exact Nat.zero_le _
    · rw [List.flatMap_singleton]
      have hx : x.IsFlat := hflat x (hinstalled ▸ List.mem_singleton_self x)
      exact Nat.le_trans (List.length_filterMap_le _ _) (hx.length_met _ _ _)
    · rw [hinstalled] at hone
      exact absurd hone (by simp)
  · exact Nat.zero_le _

/-- A lab with new loggers, where nothing is installed. -/
def atRest : Lab := { around := { now := ⟨0⟩ } }

theorem isInitial_atRest : atRest.IsInitial where
  hooks := rfl
  silent capture name h hmem := by
    rw [show atRest.around.tree = {} from rfl, LoggerTree.handlers_new] at hmem
    cases hmem
  serials name h hmem := by
    rw [show atRest.around.tree = {} from rfl, LoggerTree.handlers_new] at hmem
    cases hmem
  tags context := List.nodup_nil

/-- A capture of `app.db` and `web`, which lie apart, captures an event inside `app.db` once. -/
theorem captured_per_channel_apart :
    let s := atRest.run [.install 0 0 [("app.db", .info), ("web", .fine)] true]
    ∃ fresh, (s.step (.log 0 "app.db.pool" (Session.plainEvent 20 "full"))).received 0 = s.received 0 ++ fresh ∧
      fresh.map (·.message) = ["full"] ∧ fresh.length ≤ 1 := by
  intro s
  have hinstalled : (s.installed 0).map (·.levels) = [[("app.db", .info), ("web", .fine)]] := by decide +kernel
  obtain ⟨fresh, hfresh, hperm, hone⟩ := captured_per_channel isInitial_atRest
    [.install 0 0 [("app.db", .info), ("web", .fine)] true] 0 0 "app.db.pool" (Session.plainEvent 20 "full")
  refine ⟨fresh, hfresh, ?_, hone ?_ fun x hx => ?_⟩
  · have hmessages := hperm.map (·.message)
    exact List.perm_singleton.1 (hmessages.trans (List.Perm.of_eq (by decide +kernel)))
  · have hlength := congrArg List.length hinstalled
    rw [List.length_map] at hlength
    exact Nat.le_of_eq hlength
  · have hlevels : x.levels ∈ (s.installed 0).map (·.levels) := List.mem_map_of_mem hx
    rw [hinstalled, List.mem_singleton] at hlevels
    rw [Installation.IsFlat, hlevels, List.map_cons, List.map_cons, List.map_nil, List.pairwise_pair]
    unfold Logger.Encloses
    decide +kernel

/-- **An event inside two channels is captured for both**: `app` encloses `app.db`. -/
theorem captured_twice_enclosing :
    ¬ ∀ levels : Levels, ∀ (name : String) (e : Event),
      let s := atRest.run [.install 0 0 levels true]
      ((s.step (.log 0 name e)).received 0).length ≤ (s.received 0).length + 1 := by
  intro h
  have htwice := h [("app", .info), ("app.db", .info)] "app.db" (Session.plainEvent 20 "x")
  revert htwice
  decide +kernel

end Lab

end LogAssay
