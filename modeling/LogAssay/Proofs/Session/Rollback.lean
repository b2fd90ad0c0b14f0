import LogAssay.Proofs.Capture.Overhearing
import LogAssay.Proofs.Session.Installing
import LogAssay.Session.Command

/-!
# Failing installations

An installation fails if levels are asked for that make no sense, or if its backend cannot attach a channel. Either
way it takes back what it has acquired: what it has attached is detached again, the tags and the test ids are those from
before, and captures are not touched. What it reports meanwhile is logged like any event, so recorders that are attached
at that moment hear it, those of the same capture too.

## Main statements

* `install_error`: all ways in which an installation fails.
* `failed_install_restores`: all that a failing installation leaves.
* `not_untouched_failed`: two failing installations that leave a record of their own reports.
-/

namespace LogAssay

/-! ## What is heard in a session -/

namespace Surroundings

/-- The records of a report, for those who hear it. -/
def heard (a : Ambience) (d : Diagnostic) (s : Surroundings) : List (Collector × Record) :=
  (s.tree.log a.tags s.latches d.channel (s.eventOf d)).captured

/-- Nothing arrives while channels are attached and detached, except for reports. -/
theorem hears_arrivals (factory : Factory) (a : Ambience) :
    (reporting (backendOf factory) a).Hears (·.arrivals) (heard a) := by
  have hstop : ∀ d s, ((detach d).result s).2.arrivals = s.arrivals := by
    intro d s
    cases d with
    | tree d => rfl
    | hub d => rfl
    | noted interceptor channel => rfl
  cases factory with
  | standard => exact ⟨fun request s => rfl, hstop, fun _ _ => rfl⟩
  | refusing =>
    refine ⟨fun request s => ?_, hstop, fun _ _ => rfl⟩
    show ((if request.channel.endsWith ".broken" = true then throw (.cannotAttach request.channel)
      else attachTree request : Act Surroundings Detachment).result s).2.arrivals = s.arrivals
    split
    · rfl
    · rfl
  | dispatch name =>
    refine ⟨fun request s => ?_, hstop, fun _ _ => rfl⟩
    show ((hubBackend.start request).result s).2.arrivals = s.arrivals
    rw [result_attachHub]

end Surroundings

/-! ## Failing installations -/

namespace Session

/-- **All ways in which an installation fails**: its levels make no sense, and then nothing has been done, or the
factory that its settings name has a backend that cannot attach one of the channels. -/
theorem install_error {settings : Settings} (distinct : (settings.levels.map (·.1)).Nodup) {index : Nat}
    {extra : List (Value × Value)} {s s' : Session} {fault : Fault}
    (failed : (install index settings extra).result s = (.error fault, s')) :
    settings.withLevels extra = .error fault ∧ s' = s ∨
      ∃ final factory scene', settings.withLevels extra = .ok final ∧ final.factory = some factory ∧
        ((installedLevels final.levels).map (·.1)).Nodup ∧
        Hook.install (Surroundings.reporting (Surroundings.backendOf factory)) (installedLevels final.levels)
          final.useTestId index s.scene = (.error fault, scene') ∧ s' = s.withScene scene' := by
  rcases install_cases settings index extra s with
    ⟨reason, hlevels, hfirst⟩ | ⟨final, factory, s₁, hfinal, hfactory, hinstall⟩
  · cases hfirst.symm.trans failed
    exact .inl ⟨hlevels, rfl⟩
  · obtain ⟨levels, hlevels, hsettled⟩ := exists_ok_of_bind hfinal
    obtain rfl : { settings with levels := levels } = final := Except.ok.inj hsettled
    have hdistinct := nodup_installedLevels (Levels.nodup_requestValues hlevels distinct)
    rw [hinstall, Prod.mk.injEq] at failed
    obtain ⟨hfault, rfl⟩ := failed
    rcases factoryOf_ok { settings with levels := levels } s with ⟨named, hnamed, hchosen⟩ | ⟨-, s₂, hchosen, -⟩
    · cases hchosen.symm.trans hfactory
      exact .inr ⟨_, factory, _, hfinal, hnamed, hdistinct, Prod.ext hfault rfl, rfl⟩
    · -- without a factory of its own, the capture is installed on the tree, which attaches every channel
      cases hchosen.symm.trans hfactory
      have hfailed : Hook.install (Surroundings.reporting Surroundings.treeBackend) (installedLevels levels)
          settings.useTestId index s₁.scene = (.error fault, _) := Prod.ext hfault rfl
      obtain ⟨rs, desk, hfails, -⟩ := Hook.install_error hdistinct hfailed
      obtain ⟨earlier, channel, severity, later, station, -, -, -, hstart⟩ := hfails.cause
      cases hstart

/-- **A failing installation takes back what it has acquired.** For every backend, every choice of different channels,
and all tags and test ids from before:

* the fault is that of the backend when it could not attach a channel;
* the recorders for the channels in front of this one are closed, the last one first, then the tag is taken back,
  then the test id is released, and each of these channels is detached once, whether that fails or not;
* the tags in force and the test ids held are those from before;
* a buffer that gets nothing while the backend attaches and detaches gets nothing but what is heard of the reports on
  the way: that no test id is free, and that channels could not be detached.

In a session, an installation can also fail because of the levels that are asked for, and then nothing has been
acquired. In any case captures are as they were, and nothing has arrived for anyone but what was heard of reports by
the recorders that were attached at the moment of each. -/
theorem failed_install_restores :
    (∀ (σ δ : Type) (b : Ambience → Backend σ δ) (levels : Levels) (useTestId : Bool) (capture : Nat)
        (scene scene' : Scene σ) (fault : Fault), (levels.map (·.1)).Nodup →
      Hook.install b levels useTestId capture scene = (.error fault, scene') →
      ∃ rs desk, Hook.FailsAt b levels useTestId capture scene fault rs desk ∧
        let testId := (Hook.claim useTestId scene.pool).1
        let u := unwind b true (acquired testId scene.tags rs).reverse desk
        scene' = u.desk.scene ∧
        u.steps.map (·.1)
          = rs.reverse.map .detach ++ ((if testId = "" then [] else [.untag scene.tags]) ++ [.release testId]) ∧
        scene'.backend = rs.reverse.foldl (Recorder.letGo (b desk.scene.toAmbience)) desk.scene.backend ∧
        scene'.tags = scene.tags ∧ scene'.pool.held = scene.pool.held ∧
        ∀ (ρ : Type) (buffer : σ → List ρ) (heard : Ambience → Diagnostic → σ → List ρ),
          (∀ a, (b a).Hears buffer (heard a)) →
          Hook.Overheard b useTestId scene rs desk heard (buffer scene.backend) (buffer scene'.backend)) ∧
    ∀ (s s' : Session) (index : Nat) (settings : Settings) (extra : List (Value × Value)) (fault : Fault),
      (settings.levels.map (·.1)).Nodup → (install index settings extra).result s = (.error fault, s') →
      s'.tags = s.tags ∧ s'.pool.held = s.pool.held ∧ s'.captures = s.captures ∧
        (settings.withLevels extra = .error fault ∧ s' = s ∨
          ∃ final factory scene', settings.withLevels extra = .ok final ∧ final.factory = some factory ∧
            let b := Surroundings.reporting (Surroundings.backendOf factory)
            let levels := installedLevels final.levels
            Hook.install b levels final.useTestId index s.scene = (.error fault, scene') ∧ s' = s.withScene scene' ∧
            ∃ rs desk, Hook.FailsAt b levels final.useTestId index s.scene fault rs desk ∧
              Hook.Overheard b final.useTestId s.scene rs desk Surroundings.heard s.around.arrivals
                s'.around.arrivals) := by
  constructor
  · intro σ δ b levels useTestId capture scene scene' fault distinct failed
    obtain ⟨rs, desk, hfails, rfl⟩ := Hook.install_error distinct failed
    obtain ⟨hbackend, htags, hheld⟩ := hfails.unwind
    refine ⟨rs, desk, hfails, rfl, ?_, hbackend, htags, hheld, fun ρ buffer heard hears => ?_⟩
    · rw [steps_unwind, reverse_acquired, List.map_reverse]
    · rw [hbackend]
      exact hfails.overheard hears
  · intro s s' index settings extra fault distinct failed
    rcases install_error distinct failed with
      ⟨hlevels, rfl⟩ | ⟨final, factory, scene', hfinal, hnamed, hdistinct, hfailed, rfl⟩
    · exact ⟨rfl, rfl, rfl, .inl ⟨hlevels, rfl⟩⟩
    · obtain ⟨rs, desk, hfails, hscene⟩ := Hook.install_error hdistinct hfailed
      obtain ⟨hbackend, htags, hheld⟩ := hfails.unwind
      rw [← hscene] at hbackend htags hheld
      have hoverheard := hfails.overheard (Surroundings.hears_arrivals factory)
      rw [← hbackend] at hoverheard
      refine ⟨htags, hheld, rfl, .inr ⟨final, factory, scene', hfinal, hnamed, hfailed, rfl, rs, desk, hfails, ?_⟩⟩
      exact hoverheard

/-- A hub that refuses to give the logger of one channel, and to take handlers away again, which is reported twice. -/
theorem failed_install_restores_refused :
    let hub : Dispatch.Hub := { refusal := fun
      | .getLogger name => if name = "c" then some (.noBackend name) else none
      | .removeHandler name => some (.cannotRemove name)
      | _ => none }
    let s : Session := {
      around := { now := ⟨0⟩, hub := hub }
      tags := [(TestId.key, .text "0000")]
      pool := { held := ["0000"] }
      captures := [("c", {})] }
    let levels : Levels := [("a", .info), ("b", .info), ("c", .info)]
    let installed := Hook.install (Surroundings.reporting Surroundings.hubBackend) levels true 0 s.scene
    let settings : Settings := { levels := levels, factory := some (.dispatch "hub") }
    let installation := (install 0 settings [(.text "b", .text "TRACE")]).result s
    (installed.1 = .error (.noBackend "c") ∧ installed.2.backend.notices.length = 2 ∧
      installed.2.tags = s.tags ∧ installed.2.pool.held = ["0000"]) ∧
    installation.1 = .error (.noBackend "c") ∧ installation.2.tags = s.tags ∧ installation.2.pool.held = ["0000"] := by
  intro hub s levels installed settings installation
  -- whatever comes of taking things back, the fault is that of the hub
  have hfails : ∀ levels, (Hook.attaching (Surroundings.reporting Surroundings.hubBackend) levels true 0 s.scene).1
      = some (.noBackend "c") →
      (Hook.install (Surroundings.reporting Surroundings.hubBackend) levels true 0 s.scene).1
        = .error (.noBackend "c") := fun levels hfirst =>
    congrArg Prod.fst (Hook.install_taken_back (Prod.ext hfirst rfl))
  have hinstalled : installed = (.error (.noBackend "c"), installed.2) := Prod.ext (hfails levels rfl) rfl
  have hinstallation : installation = (.error (.noBackend "c"), installation.2) :=
    Prod.ext (hfails [("a", .info), ("b", .finest), ("c", .info)] rfl) rfl
  obtain ⟨hscene, hsession⟩ := failed_install_restores
  obtain ⟨rs, desk, -, -, -, -, htags, hheld, -⟩ :=
    hscene _ _ (Surroundings.reporting Surroundings.hubBackend) levels true 0 s.scene _ _ (by decide) hinstalled
  obtain ⟨htags', hheld', -⟩ := hsession s _ 0 settings _ _ (by decide) hinstallation
  exact ⟨⟨congrArg Prod.fst hinstalled, by decide +kernel, htags, hheld⟩, congrArg Prod.fst hinstallation, htags',
    hheld'⟩

/-- The tree, where some channels cannot be attached and none can be detached without trouble. -/
def clingingTree : Backend Surroundings Detachment :=
  { Surroundings.refusingBackend with stop := fun d => do
      Surroundings.detach d
      throw .backendGone }

/-- **A failing installation may leave records in the buffer of its own capture.** In a session with one test id, a
second installation of a capture reports that no test id is free, and fails; the recorder of the first one hears the
report. In another one, the root is attached, and hears that the channel behind it could not be detached. -/
theorem not_untouched_failed :
    (¬∀ (s : Session) (hook capture : String) (extra : List (Value × Value)),
      let installing := s.step (.install hook capture extra)
      installing.1.outcome.toOption.isNone = true →
        (installing.2.capture capture).entries.length = (s.capture capture).entries.length) ∧
    ¬∀ (levels : Levels) (useTestId : Bool) (capture : Nat) (scene : Scene Surroundings),
      let installing := Hook.install (Surroundings.reporting clingingTree) levels useTestId capture scene
      installing.1.toOption.isNone = true →
        (arrivedFor installing.2.backend.arrivals capture).length
          = (arrivedFor scene.backend.arrivals capture).length := by
  constructor
  · intro untouched
    let made := (({ around := { now := ⟨0⟩ }, pool := { limit := 1 } } : Session).step (.makeCapture "c"
      (some (.mapping [(.text "levels", .mapping [(.text "logwitness.api", .text "INFO")])])) (some .refusing))).2
    have hentries := untouched (made.step (.install "h1" "c" [])).2 "h2" "c" [(.text "x.broken", .text "INFO")]
      (by decide +kernel)
    exact absurd hentries (by decide +kernel)
  · intro untouched
    have harrived := untouched [("", .fine), ("app", .info), ("x.broken", .info)] true 0
      { backend := { now := ⟨0⟩ } } (by decide +kernel)
    exact absurd harrived (by decide +kernel)

end Session

end LogAssay
