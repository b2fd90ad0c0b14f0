import LogAssay.Registry

/-!
# The choice that is remembered

Factories are registered and unregistered in any order, and the best one is asked for in between. A choice is remembered
only until the registration changes, and a call that fails changes nothing. So what is remembered is always what would
be chosen anew (`IsFresh`), and as long as nothing changes, choosing is reported once at most.

## Main statements

* `Candidate.select_eq_ok_iff`: the earliest candidate of the highest support level is chosen.
* `IsFresh.run`: no run leaves a choice behind that does not count any more.
* `factories_run`: the registered factories are those of the calls, less those that were taken away.
* `reports_of_unchanged`: what is reported while nothing changes.
* `choice_never_stale`: what every call gives at the end of every run.
-/

namespace LogAssay

namespace Support

theorem rank_injective {a b : Support} (h : a.rank = b.rank) : a = b := by
  cases a <;> cases b <;> first | rfl | cases h

theorem rank_max (a b : Support) : (max a b).rank = max a.rank b.rank := by
  cases a <;> cases b <;> rfl

theorem max_choice (a b : Support) : max a b = a ∨ max a b = b := by
  cases a <;> cases b <;> first | exact .inl rfl | exact .inr rfl

end Support

/-! ## The best candidate -/

namespace Candidate

variable {φ : Type} [Registrable φ] {cs : List φ} {c : φ}

/-- The place of a candidate among others: the higher its support level, the better. -/
def rank (c : φ) : Nat := (Registrable.support c).rank

/-- The greatest of a support level and those of candidates. -/
theorem foldl_max_spec (cs : List φ) (level : Support) :
    let top := cs.foldl (fun level c => max level (Registrable.support c)) level
    level.rank ≤ top.rank ∧ (∀ c ∈ cs, rank c ≤ top.rank) ∧
      (top = level ∨ ∃ c ∈ cs, Registrable.support c = top) := by
  induction cs generalizing level with
  | nil => exact ⟨Nat.le_refl _, nofun, .inl rfl⟩
  | cons c cs ih =>
    obtain ⟨hlevel, hall, hattained⟩ := ih (max level (Registrable.support c))
    rw [Support.rank_max] at hlevel
    have hfirst : rank c ≤ _ := Nat.le_trans (Nat.le_max_right level.rank (rank c)) hlevel
    refine ⟨Nat.le_trans (Nat.le_max_left _ _) hlevel, List.forall_mem_cons.2 ⟨hfirst, hall⟩, ?_⟩
    rw [List.foldl_cons]
    rcases hattained with htop | ⟨d, hd, htop⟩
    · rw [htop]
      rcases Support.max_choice level (Registrable.support c) with hmax | hmax
      · exact .inl hmax
      · exact .inr ⟨c, List.mem_cons_self, hmax.symm⟩
    · exact .inr ⟨d, List.mem_cons_of_mem c hd, htop⟩

theorem rank_le_highest (hc : c ∈ cs) : rank c ≤ (highest cs).rank := (foldl_max_spec cs .none).2.1 c hc

/-- Some candidate has the highest support level, if there is any candidate. -/
theorem exists_support_eq_highest (hne : cs ≠ []) : ∃ c ∈ cs, Registrable.support c = highest cs := by
  rcases (foldl_max_spec cs .none).2.2 with htop | hattained
  · obtain ⟨c, hc⟩ := List.exists_mem_of_ne_nil cs hne
    have hrank := rank_le_highest hc
    rw [show highest cs = .none from htop] at hrank ⊢
    exact ⟨c, hc, Support.rank_injective (Nat.le_zero.1 hrank)⟩
  · exact hattained

/-- A candidate is the earliest of those with the highest support level. -/
def IsBest (cs : List φ) (c : φ) : Prop :=
  ∃ before after, cs = before ++ c :: after ∧ (∀ d ∈ before, rank d < rank c) ∧ ∀ d ∈ after, rank d ≤ rank c

theorem IsBest.support_eq_highest (h : IsBest cs c) : Registrable.support c = highest cs := by
  obtain ⟨before, after, rfl, hbefore, hafter⟩ := h
  have hmem : c ∈ before ++ c :: after := List.mem_append_right _ List.mem_cons_self
  obtain ⟨d, hd, hhighest⟩ := exists_support_eq_highest (List.ne_nil_of_mem hmem)
  have hle : rank d ≤ rank c := by
    rcases List.mem_append.1 hd with hd | hd
    · exact Nat.le_of_lt (hbefore d hd)
    · rcases List.mem_cons.1 hd with rfl | hd
      · exact Nat.le_refl _
      · exact hafter d hd
  refine Support.rank_injective (Nat.le_antisymm (rank_le_highest hmem) ?_)
  rw [← hhighest]
  exact hle

theorem find?_highest_iff : cs.find? (Registrable.support · = highest cs) = some c ↔ IsBest cs c := by
  rw [List.find?_eq_some_iff_append]
  constructor
  · rintro ⟨hc, before, after, rfl, hbefore⟩
    have hhighest : Registrable.support c = highest (before ++ c :: after) := of_decide_eq_true hc
    have hrank : rank c = (highest (before ++ c :: after)).rank := congrArg Support.rank hhighest
    refine ⟨before, after, rfl, fun d hd => ?_, fun d hd => ?_⟩
    · have hne : Registrable.support d ≠ highest (before ++ c :: after) := by simpa using hbefore d hd
      rw [hrank]
      exact Nat.lt_of_le_of_ne (rank_le_highest (List.mem_append_left (c :: after) hd)) fun heq =>
        hne (Support.rank_injective heq)
    · rw [hrank]
      exact rank_le_highest (List.mem_append_right before (List.mem_cons_of_mem c hd))
  · intro h
    have hhighest := h.support_eq_highest
    obtain ⟨before, after, hcs, hbefore, -⟩ := h
    refine ⟨decide_eq_true hhighest, before, after, hcs, fun d hd => ?_⟩
    have hne : Registrable.support d ≠ highest cs := fun heq =>
      Nat.ne_of_lt (hbefore d hd) (congrArg Support.rank (heq.trans hhighest.symm))
    simpa using hne

/-- **The earliest candidate of the highest support level is chosen.** -/
theorem select_eq_ok_iff : (select cs).1 = .ok c ↔ IsBest cs c := by
  rw [← find?_highest_iff, select]
  cases cs.find? (Registrable.support · = highest cs) with
  | none => exact ⟨nofun, nofun⟩
  | some d => exact ⟨fun h => congrArg some (Except.ok.inj h), fun h => congrArg Except.ok (Option.some.inj h)⟩

/-- Choosing fails only if there is nothing to choose from. -/
theorem select_eq_error_iff {fault : Fault} : (select cs).1 = .error fault ↔ cs = [] ∧ fault = .noFactories := by
  constructor
  · intro h
    rw [select] at h
    split at h
    · cases h
    · next hnone =>
      refine ⟨Classical.byContradiction fun hne => ?_, (Except.error.inj h).symm⟩
      obtain ⟨c, hc, hhighest⟩ := exists_support_eq_highest hne
      exact of_decide_eq_false (eq_false_of_ne_true (List.find?_eq_none.1 hnone c hc)) hhighest
  · rintro ⟨rfl, rfl⟩
    rfl

/-- Nothing is reported of a choice that fails. -/
theorem reports_of_failed (h : (select cs).1.toOption = none) : (select cs).2 = [] := by
  rw [select] at h ⊢
  split at h
  · cases h
  · rfl

theorem length_report_le (chosen : φ) (cs : List φ) : (report chosen cs).length ≤ 1 := by
  rw [report]
  split
  · split
    · exact Nat.le_refl 1
    · exact Nat.zero_le 1
  · exact Nat.le_refl 1
  · exact Nat.le_refl 1

/-- A choice is reported once at most. -/
theorem length_select_le (cs : List φ) : (select cs).2.length ≤ 1 := by
  rw [select]
  split
  · exact length_report_le _ _
  · exact Nat.zero_le 1

end Candidate

namespace Registry

/-! ## Remembering a choice -/

section Best

variable {φ : Type} [Registrable φ] {r : Registry φ}

theorem best_of_chosen {f : φ} (h : r.chosen = some f) : r.best = (.ok f, r, []) := by
  rw [best, h]

/-- Without a choice to remember the best factory is chosen, and is what is remembered. -/
theorem best_of_none (h : r.chosen = none) : r.best = ((Candidate.select r.factories).1,
    { r with chosen := (Candidate.select r.factories).1.toOption }, (Candidate.select r.factories).2) := by
  obtain ⟨factories, chosen⟩ := r
  obtain rfl : chosen = none := h
  rw [best]
  rcases Candidate.select factories with ⟨fault | f, reports⟩
  · rfl
  · rfl

theorem factories_best (r : Registry φ) : r.best.2.1.factories = r.factories := by
  cases h : r.chosen with
  | none => rw [best_of_none h]
  | some f => rw [best_of_chosen h]

/-- What is given is remembered. -/
theorem chosen_best (r : Registry φ) : r.best.2.1.chosen = r.best.1.toOption := by
  cases h : r.chosen with
  | none => rw [best_of_none h]
  | some f =>
    rw [best_of_chosen h]
    exact h

/-- Without a factory to be had nothing changes. -/
theorem best_of_error {fault : Fault} (h : r.best.1 = .error fault) : r.best.2.1 = r := by
  have hchosen : r.best.2.1.chosen = none := by rw [chosen_best, h]; rfl
  cases hnone : r.chosen with
  | some f =>
    rw [best_of_chosen hnone] at h
    cases h
  | none =>
    calc r.best.2.1 = ⟨r.best.2.1.factories, r.best.2.1.chosen⟩ := rfl
      _ = ⟨r.factories, r.chosen⟩ := by rw [factories_best, hchosen, hnone]

/-- What is remembered is what would be chosen anew. -/
def IsFresh (r : Registry φ) : Prop := ∀ f, r.chosen = some f → (Candidate.select r.factories).1 = .ok f

/-- **The best factory is the one that would be chosen anew.** -/
theorem IsFresh.best (h : r.IsFresh) : r.best.1 = (Candidate.select r.factories).1 := by
  cases hchosen : r.chosen with
  | none => rw [best_of_none hchosen]
  | some f => rw [best_of_chosen hchosen, h f hchosen]

theorem IsFresh.after_best (h : r.IsFresh) : r.best.2.1.IsFresh := by
  intro f hf
  rw [chosen_best, h.best] at hf
  rw [factories_best]
  cases hselect : (Candidate.select r.factories).1 with
  | ok g =>
    rw [hselect] at hf
    exact congrArg Except.ok (Option.some.inj hf)
  | error fault =>
    rw [hselect] at hf
    cases hf

end Best

/-! ## Calls -/

/-- What can be asked of a registry. -/
inductive Call (φ : Type) where
  | register (factory : φ)
  /-- Registers something that is no factory. -/
  | registerValue (v : Value)
  | unregister (factory : φ)
  | list
  | best

inductive Answer (φ : Type) where
  | done
  | factories (fs : List φ)
  | factory (f : φ)

section Calls

variable {φ : Type} {r : Registry φ}

/-- The registry after a change that may fail. -/
def changed (r : Registry φ) : Except Fault (Registry φ) → Except Fault (Answer φ) × Registry φ × List Diagnostic
  | .ok r' => (.ok .done, r', [])
  | .error fault => (.error fault, r, [])

/-- A call changes what is registered. -/
def Changes (r : Registry φ) : Call φ → Prop
  | .register _ => True
  | .unregister f => f ∈ r.factories
  | .registerValue _ | .list | .best => False

/-- What is registered decides whether a call changes it. -/
theorem Changes.congr {r' : Registry φ} (h : r'.factories = r.factories) {call : Call φ} (hc : r'.Changes call) :
    r.Changes call := by
  cases call with
  | unregister f =>
    rw [Changes, ← h]
    exact hc
  | register f => exact hc
  | registerValue v => exact hc
  | list => exact hc
  | best => exact hc

variable [DecidableEq φ]

/-- The sequence of registrations after a call: unregistering takes the first occurrence away. -/
def Call.onSequence : List φ → Call φ → List φ
  | fs, .register f => fs ++ [f]
  | fs, .unregister f => fs.erase f
  | fs, .registerValue _ | fs, .list | fs, .best => fs

theorem unregister_of_mem {f : φ} (h : f ∈ r.factories) : r.unregister f = .ok ⟨r.factories.erase f, none⟩ :=
  if_pos (List.contains_iff_mem.2 h)

theorem unregister_of_notMem {f : φ} (h : f ∉ r.factories) : r.unregister f = .error .notRegistered :=
  if_neg fun hmem => h (List.contains_iff_mem.1 hmem)

variable [Registrable φ]

/-- What a call gives, the registry behind it, and what is reported. -/
def perform (r : Registry φ) : Call φ → Except Fault (Answer φ) × Registry φ × List Diagnostic
  | .register f => r.changed (.ok (r.register f))
  | .registerValue v => r.changed (r.registerValue v)
  | .unregister f => r.changed (r.unregister f)
  | .list => (.ok (.factories r.factories), r, [])
  | .best => (r.best.1.map .factory, r.best.2.1, r.best.2.2)

def after (r : Registry φ) (call : Call φ) : Registry φ := (r.perform call).2.1

/-- **A call that fails changes nothing.** -/
theorem after_of_error {call : Call φ} {fault : Fault} (h : (r.perform call).1 = .error fault) : r.after call = r := by
  cases call with
  | register f => cases h
  | registerValue v => rfl
  | unregister f =>
    by_cases hf : f ∈ r.factories
    · rw [perform, unregister_of_mem hf] at h
      cases h
    · rw [after, perform, unregister_of_notMem hf]
      rfl
  | list => rfl
  | best =>
    rw [perform] at h
    cases houtcome : r.best.1 with
    | ok f =>
      rw [houtcome] at h
      cases h
    | error reason => exact best_of_error houtcome

theorem factories_after (r : Registry φ) (call : Call φ) : (r.after call).factories = call.onSequence r.factories := by
  cases call with
  | register f => rfl
  | registerValue v => rfl
  | unregister f =>
    by_cases hf : f ∈ r.factories
    · rw [after, perform, unregister_of_mem hf]
      rfl
    · rw [after, perform, unregister_of_notMem hf, Call.onSequence, List.erase_of_not_mem hf]
      rfl
  | list => rfl
  | best => exact r.factories_best

theorem IsFresh.after (h : r.IsFresh) (call : Call φ) : (r.after call).IsFresh := by
  cases call with
  | register f => exact nofun
  | registerValue v => exact h
  | unregister f =>
    by_cases hf : f ∈ r.factories
    · rw [Registry.after, perform, unregister_of_mem hf]
      exact nofun
    · rw [Registry.after, perform, unregister_of_notMem hf]
      exact h
  | list => exact h
  | best => exact h.after_best

/-- A call that changes nothing registered asks for the best factory, or it does nothing at all. -/
theorem perform_of_unchanged {call : Call φ} (h : ¬r.Changes call) :
    call = .best ∨ r.after call = r ∧ (r.perform call).2.2 = [] := by
  cases call with
  | register f => exact absurd trivial h
  | registerValue v => exact .inr ⟨rfl, rfl⟩
  | unregister f =>
    refine .inr ?_
    rw [after, perform, unregister_of_notMem h]
    exact ⟨rfl, rfl⟩
  | list => exact .inr ⟨rfl, rfl⟩
  | best => exact .inl rfl

/-! ## Runs -/

/-- The registry after calls. -/
def run (r : Registry φ) (calls : List (Call φ)) : Registry φ := calls.foldl after r

/-- What is reported during calls. -/
def reports : Registry φ → List (Call φ) → List Diagnostic
  | _, [] => []
  | r, call :: calls => (r.perform call).2.2 ++ reports (r.after call) calls

/-- **No run leaves a choice behind that does not count any more.** -/
theorem IsFresh.run (h : r.IsFresh) (calls : List (Call φ)) : (r.run calls).IsFresh := by
  induction calls generalizing r with
  | nil => exact h
  | cons call calls ih => exact ih (h.after call)

/-- **The registered factories are those of the calls**, less those that were taken away. -/
theorem factories_run (r : Registry φ) (calls : List (Call φ)) :
    (r.run calls).factories = calls.foldl Call.onSequence r.factories := by
  induction calls generalizing r with
  | nil => rfl
  | cons call calls ih =>
    show ((r.after call).run calls).factories = calls.foldl Call.onSequence (call.onSequence r.factories)
    rw [ih, factories_after]

/-- **While nothing changes, choosing is reported once at most**, and not at all if a choice is remembered. -/
theorem reports_of_unchanged {calls : List (Call φ)} (h : ∀ call ∈ calls, ¬r.Changes call) :
    r.reports calls = [] ∨ r.chosen = none ∧ r.reports calls = (Candidate.select r.factories).2 := by
  induction calls generalizing r with
  | nil => exact .inl rfl
  | cons call calls ih =>
    obtain ⟨hcall, hcalls⟩ := List.forall_mem_cons.1 h
    rcases perform_of_unchanged hcall with rfl | ⟨hafter, hreports⟩
    · have hrest := ih (r := r.best.2.1) fun call hmem hchanges => hcalls call hmem (hchanges.congr r.factories_best)
      rw [chosen_best] at hrest
      show r.best.2.2 ++ r.best.2.1.reports calls = [] ∨
        r.chosen = none ∧ r.best.2.2 ++ r.best.2.1.reports calls = (Candidate.select r.factories).2
      cases hchosen : r.chosen with
      | some f =>
        rw [best_of_chosen hchosen] at hrest ⊢
        exact .inl (hrest.resolve_right fun hnone => nomatch hnone.1)
      | none =>
        rw [best_of_none hchosen] at hrest ⊢
        refine .inr ⟨rfl, ?_⟩
        -- a choice that failed is not remembered, but there was nothing to report of it
        rcases hrest with hrest | ⟨hfailed, hrest⟩
        · rw [hrest, List.append_nil]
        · rw [hrest, Candidate.reports_of_failed hfailed]
          rfl
    · rw [reports, hafter, hreports, List.nil_append]
      exact ih hcalls

/-- **The choice is never stale.** Whatever factories are registered at first, and whatever calls there were:

* the factory that is remembered is the earliest of those with the highest support level, among the factories that are
  registered now;
* so is the factory that is asked for, which is always the one that would be chosen anew; asking for it fails exactly if
  none is registered;
* the registered factories are listed in the order of registration, unregistering having taken first occurrences away;
* a call that fails leaves alone what is registered and what is remembered;
* as long as nothing changes, choosing is reported once at most. -/
theorem choice_never_stale (start : List φ) (calls : List (Call φ)) :
    let r : Registry φ := run { factories := start } calls
    let registered := calls.foldl Call.onSequence start
    (∀ f, r.chosen = some f → Candidate.IsBest registered f) ∧
    (r.perform .best).1 = (Candidate.select r.factories).1.map .factory ∧
    (∀ f, (r.perform .best).1 = .ok (.factory f) ↔ Candidate.IsBest registered f) ∧
    ((∃ fault, fault.kind = .value ∧ (r.perform .best).1 = .error fault) ↔ registered = []) ∧
    (r.perform .list).1 = .ok (.factories registered) ∧
    (∀ call fault, (r.perform call).1 = .error fault → r.after call = r) ∧
    ∀ more, (∀ call ∈ more, ¬r.Changes call) → (r.reports more).length ≤ 1 := by
  intro r registered
  have hfactories : r.factories = registered := factories_run _ calls
  have hfresh : r.IsFresh := IsFresh.run nofun calls
  have hbest : (r.perform .best).1 = (Candidate.select registered).1.map .factory := by
    rw [perform, hfresh.best, hfactories]
  refine ⟨fun f hf => ?_, hfactories ▸ hbest, fun f => ?_, ⟨?_, ?_⟩, ?_, fun call fault => after_of_error,
    fun more hmore => ?_⟩
  · rw [← hfactories]
    exact Candidate.select_eq_ok_iff.1 (hfresh f hf)
  · rw [hbest, ← Candidate.select_eq_ok_iff]
    cases (Candidate.select registered).1 with
    | ok g => simp [Except.map]
    | error fault => exact ⟨nofun, nofun⟩
  · rintro ⟨fault, -, hfault⟩
    rw [hbest] at hfault
    cases hselect : (Candidate.select registered).1 with
    | ok g =>
      rw [hselect] at hfault
      cases hfault
    | error reason => exact (Candidate.select_eq_error_iff.1 hselect).1
  · intro hempty
    refine ⟨.noFactories, rfl, ?_⟩
    rw [hbest, Candidate.select_eq_error_iff.2 ⟨hempty, rfl⟩]
    rfl
  · rw [perform, hfactories]
  · rcases reports_of_unchanged hmore with hreports | ⟨-, hreports⟩
    · rw [hreports]
      exact Nat.zero_le 1
    · rw [hreports]
      exact Candidate.length_select_le r.factories

end Calls

/-! Three factories of full support are shown alike. One is registered twice and unregistered once, and another one is
unregistered without having been registered. -/

inductive Maker where
  | weak
  | first
  | second
  | third
  deriving DecidableEq

instance : Registrable Maker where
  shown
    | .weak => "Weak()"
    | _ => "Strong()"
  support
    | .weak => .partly
    | _ => .full

theorem choice_never_stale_alike :
    let calls : List (Call Maker) :=
      [.register .weak, .best, .register .first, .register .second, .register .first, .best, .unregister .first]
    let more : List (Call Maker) := [.best, .registerValue .nothing, .unregister .third, .best]
    let r : Registry Maker := run { factories := [] } calls
    (∀ call ∈ more, ¬r.Changes call) ∧ (r.perform .best).1 = .ok (.factory .second) ∧
      (r.perform .list).1 = .ok (.factories [.weak, .second, .first]) ∧ (r.reports more).length ≤ 1 := by
  intro calls more r
  have hunchanged : ∀ call ∈ more, ¬r.Changes call := by
    simp only [more, List.forall_mem_cons]
    exact ⟨id, id, by show Maker.third ∉ r.factories; decide, id, nofun⟩
  obtain ⟨-, -, hbest, -, hlist, -, hreports⟩ := choice_never_stale [] calls
  exact ⟨hunchanged, (hbest .second).2 ⟨[.weak], [.first], rfl, by decide, by decide⟩, hlist, hreports more hunchanged⟩

end Registry

end LogAssay
