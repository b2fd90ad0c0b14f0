import LogAssay.Proofs.Logger.Hearing

/-!
# What overrides remember

The override of a logger is there as long as recorders of this logger are open. It counts them, and it remembers
the level from before the first of them, whichever of them are closed first. When the last one is closed, the
logger is as it was.

## Main statement

* `overrides_count_open`: overrides count open recorders, and a logger without any is as it was.
-/

namespace LogAssay

open Logger LoggerTree

/-- A closed recorder stands for no attachment. -/
theorem Made.holder?_of_closed {m : Made} (hclosed : m.recorder.closed = true) : m.holder? = none := by
  rw [Recorder.closed, Option.isNone_iff_eq_none] at hclosed
  rw [holder?, hclosed]

theorem Made.IsTree.holder?_of_open {m : Made} (h : m.IsTree) (hopen : m.recorder.closed = false) :
    ∃ serial, m.holder? = some ⟨serial, m.request⟩ := by
  obtain ⟨serial, hserial⟩ := h.exists_serial hopen
  exact ⟨serial, by rw [holder?, hserial]⟩

namespace Stations

/-- The open recorders of a logger. -/
def openOn (s : Stations) (name : String) : List Made :=
  s.recorders.filter fun m => !m.recorder.closed && decide (canonical m.request.channel = canonical name)

/-- The open recorders of a logger are its attachments. -/
theorem length_on_holders (name : String) : ∀ {recorders : List Made}, (∀ m ∈ recorders, m.IsTree) →
    (on (recorders.filterMap Made.holder?) name).length
      = (recorders.filter fun m =>
          !m.recorder.closed && decide (canonical m.request.channel = canonical name)).length
  | [], _ => rfl
  | m :: recorders, trees => by
    have hrest := length_on_holders name fun x hx => trees x (List.mem_cons_of_mem _ hx)
    cases hclosed : m.recorder.closed with
    | true =>
      rw [List.filterMap_cons_none (Made.holder?_of_closed hclosed), hrest,
        List.filter_cons_of_neg (by simp [hclosed])]
    | false =>
      obtain ⟨serial, hholder⟩ := (trees m (by simp)).holder?_of_open hclosed
      rw [List.filterMap_cons_some hholder]
      by_cases hname : canonical m.request.channel = canonical name
      · rw [on, List.filter_cons_of_pos (by simp [hname]), List.filter_cons_of_pos (by simp [hclosed, hname]),
          List.length_cons, List.length_cons, ← hrest, on]
      · rw [on, List.filter_cons_of_neg (by simp [hname]), List.filter_cons_of_neg (by simp [hname]),
          ← hrest, on]

namespace Sound

variable {t₀ : LoggerTree} {first : Nat} {s : Stations}

theorem length_on (h : Sound t₀ first s) (name : String) :
    (on s.ledger name).length = (s.openOn name).length := length_on_holders name h.trees

theorem on_eq_nil_iff (h : Sound t₀ first s) (name : String) : on s.ledger name = [] ↔ s.openOn name = [] := by
  rw [← List.length_eq_zero_iff, h.length_on, List.length_eq_zero_iff]

/-- A logger without open recorders is as it was. -/
theorem logger_eq (h : Sound t₀ first s) {name : String} (hnone : s.openOn name = []) :
    s.around.tree.logger name = t₀.logger name := by
  have hon := (h.on_eq_nil_iff name).2 hnone
  have hhandlers := h.holds.handlers name
  have hlevel := h.holds.level name
  rw [hon, List.map_nil, List.append_nil] at hhandlers
  rw [applied?, h.holds.free name hon] at hlevel
  cases hlogger : s.around.tree.logger name with
  | mk level passesOn handlers =>
    have hpassing := h.holds.passing name
    rw [hlogger] at hhandlers hlevel hpassing
    subst hhandlers
    subst hlevel
    subst hpassing
    rfl

end Sound

/-- **Overrides count open recorders, and a logger without any is as it was.** In every state that interceptors
can reach from loggers of any levels, by attachments and closings in any order:

* a logger has an override exactly if it has an open recorder;
* the override counts the open recorders of its logger, and remembers the level that the logger had when it last
  had none of them (as at any other time when it had none);
* a logger without open recorders has the level and the handlers that it had before any of them. -/
theorem overrides_count_open {s₀ : Stations} (h₀ : s₀.IsInitial) (moves : List Move) (name : String) :
    ((∃ held, (s₀.run moves).around.tree.overrides.get (canonical name) = some held) ↔
        (s₀.run moves).openOn name ≠ []) ∧
      (∀ held, (s₀.run moves).around.tree.overrides.get (canonical name) = some held →
        held.holders = ((s₀.run moves).openOn name).length ∧
          ∀ earlier later, moves = earlier ++ later → (s₀.run earlier).openOn name = [] →
            held.saved = ((s₀.run earlier).around.tree.logger name).level) ∧
      ((s₀.run moves).openOn name = [] →
        (s₀.run moves).around.tree.logger name = s₀.around.tree.logger name) := by
  have h := h₀.sound_run moves
  have hheld : (s₀.run moves).openOn name ≠ [] → _ := fun hopen =>
    h.holds.held name fun hon => hopen ((h.on_eq_nil_iff name).1 hon)
  have hfree : (s₀.run moves).openOn name = [] → _ := fun hnone =>
    h.holds.free name ((h.on_eq_nil_iff name).2 hnone)
  refine ⟨⟨?_, fun hopen => ⟨_, hheld hopen⟩⟩, ?_, h.logger_eq⟩
  · rintro ⟨held, hget⟩ hnone
    rw [hfree hnone] at hget
    cases hget
  · intro held hget
    have hopen : (s₀.run moves).openOn name ≠ [] := by
      intro hnone
      rw [hfree hnone] at hget
      cases hget
    obtain rfl := Option.some.inj ((hheld hopen).symm.trans hget)
    refine ⟨h.length_on name, ?_⟩
    intro earlier later _ hnone
    -- the level was never anything else while the logger had no open recorder
    rw [(h₀.sound_run earlier).logger_eq hnone]

/-- Two recorders of `app`, of which the first one is closed first: the override stays, with the level from before
both, until the second one is closed. -/
theorem overrides_count_open_crossed :
    let moves : List Move := [.attach 0 ⟨"app", .info, "", .named "first"⟩,
      .attach 1 ⟨"app", .fine, "", .named "second"⟩, .close 0]
    let s := atRest.run moves
    (∃ held, s.around.tree.overrides.get "app" = some held ∧ held.holders = 1 ∧ held.saved = 0) ∧
      (s.around.tree.logger "app").level = 10 ∧
      (atRest.run (moves ++ [.close 1])).around.tree.logger "app" = {} := by
  intro moves s
  have hopen := overrides_count_open isInitial_atRest moves "app"
  have hclosed := overrides_count_open isInitial_atRest (moves ++ [.close 1]) "app"
  obtain ⟨held, hget⟩ := hopen.1.2 (List.ne_nil_of_length_pos (by decide +kernel))
  obtain ⟨hholders, hsaved⟩ := hopen.2.1 held hget
  refine ⟨⟨held, hget, hholders.trans (by decide +kernel), ?_⟩, by decide +kernel, ?_⟩
  · exact (hsaved [] moves rfl rfl).trans (by decide +kernel)
  · exact (hclosed.2.2 (List.eq_nil_of_length_eq_zero (by decide +kernel))).trans (by decide +kernel)

end Stations

end LogAssay
