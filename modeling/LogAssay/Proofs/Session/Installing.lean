import LogAssay.Session.Basic
import Mathlib.Data.List.Nodup

/-!
# Installing in sessions

In a session, levels are settled first, then the factory. Levels may make no sense, but there is always a factory. All
else is done by the installation of a hook with the backend of this factory.

## Main statements

* `Levels.nodup_requestValues`: requests keep channels different.
* `factoryOf_ok`: there is always a factory.
* `install_cases`: all that an installation can do.
-/

namespace LogAssay

/-! ## Channels -/

namespace Levels

theorem channels_request (levels : Levels) (channel : String) (severity : Severity) :
    (levels.request channel severity).map (·.1)
      = if channel ∈ levels.map (·.1) then levels.map (·.1) else levels.map (·.1) ++ [channel] := by
  induction levels with
  | nil => rfl
  | cons e others ih =>
    obtain ⟨c, s⟩ := e
    by_cases hc : c = channel
    · simp [request, hc]
    · have hne : ¬channel = c := fun h => hc h.symm
      rw [request, if_neg hc, List.map_cons, List.map_cons, ih]
      simp only [List.mem_cons, hne, false_or]
      split
      · rfl
      · rfl

/-- Requests keep channels different. -/
theorem nodup_requestValues : ∀ {requests : List (Value × Value)} {levels levels' : Levels},
    levels.requestValues requests = .ok levels' → (levels.map (·.1)).Nodup → (levels'.map (·.1)).Nodup
  | [], levels, levels', h, distinct => by
    obtain rfl : levels = levels' := Except.ok.inj h
    exact distinct
  | (channel, severity) :: requests, levels, levels', h, distinct => by
    obtain ⟨next, hnext, hrest⟩ := exists_ok_of_bind h
    obtain ⟨name, -, hname⟩ := exists_ok_of_bind hnext
    obtain ⟨class_, -, hclass⟩ := exists_ok_of_bind hname
    obtain rfl : levels.request name class_ = next := Except.ok.inj hclass
    refine nodup_requestValues hrest ?_
    rw [channels_request]
    split
    · exact distinct
    · next hnew =>
      rw [← List.concat_eq_append]
      exact List.Nodup.concat hnew distinct

end Levels

namespace Session

theorem nodup_installedLevels {levels : Levels} (distinct : (levels.map (·.1)).Nodup) :
    ((installedLevels levels).map (·.1)).Nodup := by
  rw [installedLevels]
  split
  · exact List.nodup_singleton _
  · exact distinct

/-! ## Factories -/

/-- One registered factory is the best one, if none was chosen before. -/
theorem exists_best_eq (registry : Registry) (c : Candidate) :
    ∃ best registry' reports,
      ({ registry with factories := [c] } : Registry).best = (.ok best, registry', reports) := by
  rw [Registry.best]
  cases registry.chosen with
  | some chosen => exact ⟨chosen, _, [], rfl⟩
  | none =>
    have hselect : Candidate.select [c] = (.ok c, Candidate.report c [c]) := by
      have hmax : max Support.none c.support = c.support := by cases c.support <;> rfl
      simp [Candidate.select, Candidate.highest, hmax]
    simp only [hselect]
    exact ⟨c, _, _, rfl⟩

/-- **There is always a factory**: the one that settings name, or else the standard one. The captures are left
alone. -/
theorem factoryOf_ok (settings : Settings) (s : Session) :
    (∃ factory, settings.factory = some factory ∧ (factoryOf settings).result s = (.ok factory, s)) ∨
      settings.factory = none ∧
        ∃ s', (factoryOf settings).result s = (.ok .standard, s') ∧ s'.captures = s.captures := by
  cases hfactory : settings.factory with
  | some factory =>
    refine .inl ⟨factory, rfl, ?_⟩
    rw [factoryOf, hfactory]
    rfl
  | none =>
    refine .inr ⟨rfl, ?_⟩
    rw [factoryOf, hfactory]
    simp only
    rw [bestFactory, Act.result_bind_ok (Act.result_get s)]
    rcases s.around.supportOf s.tags s.treeSupport .standard with ⟨support, tested, around⟩
    obtain ⟨best, registry, reports, hbest⟩ := exists_best_eq s.registry ⟨Factory.standard.shown, support⟩
    simp only [hbest]
    exact ⟨_, rfl, rfl⟩

/-! ## Installing -/

/-- **All that an installation can do**: it fails before anything is acquired, or it is that of a hook, with the
backend of some factory. -/
theorem install_cases (settings : Settings) (index : Nat) (extra : List (Value × Value)) (s : Session) :
    (∃ fault, settings.withLevels extra = .error fault ∧ (install index settings extra).result s = (.error fault, s)) ∨
      ∃ final factory s₁, settings.withLevels extra = .ok final ∧
        (factoryOf final).result s = (.ok factory, s₁) ∧
        (install index settings extra).result s
          = ((Hook.install (Surroundings.reporting (Surroundings.backendOf factory)) (installedLevels final.levels)
              final.useTestId index s₁.scene).1,
            s₁.withScene (Hook.install (Surroundings.reporting (Surroundings.backendOf factory))
              (installedLevels final.levels) final.useTestId index s₁.scene).2) := by
  cases hsettings : settings.withLevels extra with
  | error fault =>
    have hfirst : (Act.ofExcept (settings.withLevels extra) : Act Session Settings).result s = (.error fault, s) := by
      rw [Act.result_ofExcept, hsettings]
    exact .inl ⟨fault, rfl, Act.result_bind_error hfirst⟩
  | ok final =>
    have hfirst : (Act.ofExcept (settings.withLevels extra) : Act Session Settings).result s = (.ok final, s) := by
      rw [Act.result_ofExcept, hsettings]
    obtain ⟨factory, s₁, hfactory⟩ : ∃ factory s₁, (factoryOf final).result s = (.ok factory, s₁) := by
      rcases factoryOf_ok final s with ⟨factory, -, h⟩ | ⟨-, s₁, h, -⟩
      · exact ⟨factory, s, h⟩
      · exact ⟨.standard, s₁, h⟩
    refine .inr ⟨final, factory, s₁, rfl, hfactory, ?_⟩
    rw [install, Act.result_bind_ok hfirst, Act.result_bind_ok hfactory, Act.result_bind_ok (Act.result_get s₁)]
    rfl

end Session

end LogAssay
