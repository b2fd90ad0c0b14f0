import LogAssay.Proofs.Capture.Installing
import LogAssay.Proofs.Session.Logging

/-!
# Capturing one channel

Installing a capture of one channel attaches the channel and nothing else, and closing its hook, in whichever
way, detaches it again. So the capture gets nothing before, what reaches its severity meanwhile, and nothing
afterwards.

## Main statements

* `entries_eq_logged`: a capture of one channel holds what is logged there while it is installed.
* `isFresh_makeCapture`: a capture that has just been made can be installed in this way.
-/

namespace LogAssay

open LoggerTree

namespace Session

/-! ## Installing -/

/-- A report is not for a capture that has nothing attached. -/
theorem arrivedFor_tellAll {around : Surroundings} {index : Nat} (silent : around.tree.Silent (.capture index))
    (b : Backend Surroundings Detachment) (a : Ambience) (reports : List Diagnostic) :
    arrivedFor ((Surroundings.reporting b a).tellAll reports around).arrivals index
      = arrivedFor around.arrivals index := by
  induction reports generalizing around with
  | nil => rfl
  | cons report reports ih =>
    have hhere : arrivedFor (around.tell a.tags report).arrivals index = arrivedFor around.arrivals index := by
      show arrivedFor (around.arrivals ++ _) index = _
      rw [arrivedFor_append, arrivedFor, arrivedFor, silent.captured_log, List.append_nil]
    exact (@ih (around.tell a.tags report) silent).trans hhere

section Install

variable {s : Session} {index : Nat} {settings final : Settings} {extra : List (Value × Value)}
  {channel : String} {severity : Severity}

/-- What the installation of one channel of the tree leaves. -/
structure Installed (s : Session) (index : Nat) (useTestId : Bool) (channel : String) (severity : Severity)
    (hook : Hook Detachment) (s' : Session) : Prop where
  testId : hook.testId = if useTestId then s.pool.claim.1 else ""
  recorders : hook.recorders = [⟨channel, some (.tree ⟨channel, s.around.nextSerial⟩)⟩]
  opened : hook.closed = false
  tree : s'.around.tree
    = s.around.tree.attach ⟨channel, severity, hook.testId, .capture index⟩ s.around.nextSerial
  tags : s'.tags = Hook.tagged s.tags hook.testId
  /-- Reports may be heard, but not by a capture that has nothing attached before. -/
  arrivals : s.around.tree.Silent (.capture index) →
    arrivedFor s'.around.arrivals index = arrivedFor s.around.arrivals index
  captures : s'.captures = s.captures

theorem install_eq (hsettings : settings.withLevels extra = .ok final)
    (hlevels : installedLevels final.levels = [(channel, severity)])
    (hfactory : final.factory = some .standard) :
    ∃ hook s', (install index settings extra).result s = (.ok hook, s') ∧
      Installed s index final.useTestId channel severity hook s' := by
  have hscene : ∀ useTestId, ∃ hook scene,
      Hook.install Surroundings.telling [(channel, severity)] useTestId index s.scene = (.ok hook, scene) ∧
        Installed s index useTestId channel severity hook (s.withScene scene) := by
    intro useTestId
    have hserial : (Hook.enter Surroundings.telling useTestId s.scene).2.backend.nextSerial = s.around.nextSerial :=
      Surroundings.nextSerial_tellAll ..
    have htree : (Hook.enter Surroundings.telling useTestId s.scene).2.backend.tree = s.around.tree :=
      Surroundings.tree_tellAll ..
    refine ⟨_, _, rfl, ?_, ?_, rfl, ?_, rfl, fun silent => ?_, rfl⟩
    · cases useTestId with
      | false => rfl
      | true => rfl
    · rw [← hserial]
      rfl
    · rw [← hserial, ← htree]
      rfl
    · exact arrivedFor_tellAll silent ..
  obtain ⟨hook, scene, hinstall, hinstalled⟩ := hscene final.useTestId
  refine ⟨hook, s.withScene scene, ?_, hinstalled⟩
  have hfirst : (Act.ofExcept (settings.withLevels extra) : Act Session Settings).result s = (.ok final, s) := by
    rw [Act.result_ofExcept, hsettings]
  have hchosen : (factoryOf final).result s = (.ok .standard, s) := by
    rw [factoryOf, hfactory]
    rfl
  rw [install, Act.result_bind_ok hfirst, Act.result_bind_ok hchosen, Act.result_bind_ok (Act.result_get s), hlevels]
  have htelling : Surroundings.reporting (Surroundings.backendOf .standard) = Surroundings.telling := rfl
  simp only [htelling, hinstall]
  rfl

theorem step_install {capture : String} (hindex : s.captureIndex? capture = some index)
    (hsettings : (s.capture capture).settings.withLevels extra = .ok final)
    (hlevels : installedLevels final.levels = [(channel, severity)])
    (hfactory : final.factory = some .standard) (name : String) :
    ∃ hook s', (s.step (.install name capture extra)).1.outcome = .ok (.installed hook.testId false) ∧
      (s.step (.install name capture extra)).2 = s'.settle ∧ s'.hooks.get name = some hook ∧
      Installed s index final.useTestId channel severity hook s' := by
  obtain ⟨hook, s', hinstall, h⟩ := install_eq hsettings hlevels hfactory
  have hrun : (carryOut (.install name capture extra)).result s
      = (.ok (.installed hook.testId false), { s' with hooks := s'.hooks.put name (some hook) }) := by
    rw [carryOut, Act.result_bind_ok (Act.result_get s)]
    simp only [hindex]
    rw [Act.result_bind_ok hinstall, Act.result_bind_ok (Act.result_modify _ _), Act.result_pure, h.opened]
  obtain ⟨houtcome, hsettled⟩ := step_eq _ hrun
  exact ⟨hook, _, houtcome, hsettled, Directory.get_put_self _ _ _,
    ⟨h.testId, h.recorders, h.opened, h.tree, h.tags, h.arrivals, h.captures⟩⟩

end Install

/-! ## Closing -/

section Close

variable {s : Session} {hook : Hook Detachment} {channel : String} {d : LoggerTree.Detachment}

/-- However a hook is closed, its channel is detached. -/
theorem close_eq (hrecorders : hook.recorders = [⟨channel, some (.tree d)⟩]) (hopen : hook.closed = false)
    (sameContext : Bool) (check : Option (Scene Surroundings → Except Fault Unit)) (scene : Scene Surroundings) :
    ∃ outcome hook' scene', hook.close Surroundings.telling sameContext check scene
        = (outcome, hook', scene') ∧ hook'.closed = true ∧
      scene'.backend = { scene.backend with tree := scene.backend.tree.detach d } := by
  refine ⟨_, _, _, Hook.close_open hopen sameContext check scene, rfl, ?_⟩
  rw [hrecorders]
  rfl

theorem endHook_eq (ending : Ending) (hook : Hook Detachment) (s : Session) :
    ∃ sameContext check outcome, (endHook ending hook).result s
      = (.ok (outcome, (hook.close Surroundings.telling sameContext check s.scene).2.1),
        s.withScene (hook.close Surroundings.telling sameContext check s.scene).2.2) := by
  cases ending with
  | plain verify => exact ⟨_, _, _, rfl⟩
  | afterError key => exact ⟨_, _, _, rfl⟩
  | elsewhere verify => exact ⟨_, _, _, rfl⟩

theorem step_closeHook {name : String} (hhook : s.hooks.get name = some hook)
    (hrecorders : hook.recorders = [⟨channel, some (.tree d)⟩]) (hopen : hook.closed = false)
    (ending : Ending) :
    ∃ (outcome : Except Fault Unit) (s' : Session),
      (s.step (.closeHook name ending)).1.outcome = .ok (.closing outcome true) ∧
      (s.step (.closeHook name ending)).2 = s'.settle ∧ s'.around.tree = s.around.tree.detach d ∧
      s'.around.arrivals = s.around.arrivals ∧ s'.captures = s.captures := by
  obtain ⟨sameContext, check, outcome, hend⟩ := endHook_eq ending hook s
  obtain ⟨_, hook', scene', hclose, hclosed, hbackend⟩ :=
    close_eq hrecorders hopen sameContext check s.scene
  rw [hclose] at hend
  have hrun : (carryOut (.closeHook name ending)).result s
      = (.ok (.closing outcome true),
        { s.withScene scene' with hooks := (s.withScene scene').hooks.put name (some hook') }) := by
    rw [carryOut, Act.result_bind_ok (Act.result_get s)]
    simp only [hhook]
    rw [Act.result_bind_ok hend, Act.result_bind_ok (Act.result_modify _ _), Act.result_pure, hclosed]
  obtain ⟨houtcome, hsettled⟩ := step_eq _ hrun
  refine ⟨outcome, _, houtcome, hsettled, ?_, ?_, rfl⟩
  · show scene'.backend.tree = _
    rw [hbackend]
    rfl
  · show scene'.backend.arrivals = _
    rw [hbackend]
    rfl

end Close

/-! ## A capture from beginning to end -/

/-- The latest capture of a name holds nothing yet, and nothing is attached for it. -/
structure IsFresh (s : Session) (capture : String) (index : Nat) (settings : Settings) : Prop where
  collected : s.Collected capture index settings []
  silent : s.around.tree.Silent (.capture index)
  arrivals : arrivedFor s.around.arrivals index = []

/-- Whatever is attached or has arrived for captures is for those that have been made. -/
structure KnowsCaptures (s : Session) : Prop where
  silent : ∀ index, s.captures.length ≤ index → s.around.tree.Silent (.capture index)
  arrivals : ∀ index, s.captures.length ≤ index → arrivedFor s.around.arrivals index = []

theorem collected_concat (s : Session) (capture : String) (c : Capture) (hempty : c.buffer = {}) :
    Collected { s with captures := s.captures ++ [(capture, c)] } capture s.captures.length c.settings [] where
  latest := by
    rw [captureIndex?, List.reverse_append, List.reverse_singleton, List.singleton_append,
      List.findIdx?_cons, if_pos (decide_eq_true rfl), List.length_append]
    rfl
  found := by
    refine ⟨c, List.getElem?_concat_length, rfl, ?_, ?_⟩
    · rw [hempty]
      exact Buffer.consistent_empty
    · rw [hempty]
      rfl

/-- A capture that has just been made is fresh. -/
theorem isFresh_makeCapture {s : Session} (h : s.KnowsCaptures) {value : Option Value} {factory : Option Factory}
    {settings : Settings} (hsettings : settingsFrom value factory = .ok settings) (capture : String) :
    (s.step (.makeCapture capture value factory)).2.IsFresh capture s.captures.length settings := by
  have hrun : (carryOut (.makeCapture capture value factory)).result s
      = (.ok .done, { s with captures := s.captures ++ [(capture, { settings := settings })] }) := by
    have hvalue : (Act.ofExcept (settingsFrom value factory) : Act Session Settings).result s
        = (.ok settings, s) := by rw [Act.result_ofExcept, hsettings]
    rw [carryOut, Act.result_bind_ok hvalue]
    rfl
  have hnone := h.arrivals _ (Nat.le_refl _)
  have hmade := (collected_concat s capture { settings := settings } rfl).settle
  rw [(step_eq _ hrun).2]
  refine ⟨?_, h.silent _ (Nat.le_refl _), rfl⟩
  rw [show arrivedFor _ s.captures.length = [] from hnone] at hmade
  exact hmade

/-- **A capture of one channel holds what is logged there while it is installed.** -/
theorem entries_eq_logged {s : Session} {capture : String} {index : Nat} {settings : Settings}
    (hfresh : s.IsFresh capture index settings) {extra : List (Value × Value)} {final : Settings}
    (hsettings : settings.withLevels extra = .ok final)
    {channel : String} {severity : Severity}
    (hlevels : installedLevels final.levels = [(channel, severity)])
    (hfactory : final.factory = some .standard) (name : String) (ending : Ending)
    (before during after : List (Option Tags × Event)) :
    let installing := (s.logAll channel before).step (.install name capture extra)
    let closing := (installing.2.logAll channel during).step (.closeHook name ending)
    let testId := if final.useTestId then s.pool.claim.1 else ""
    ∃ outcome,
      installing.1.outcome = .ok (.installed testId false) ∧
      closing.1.outcome = .ok (.closing outcome true) ∧
      ((closing.2.logAll channel after).capture capture).entries.map Entry.toRecord
        = during.filterMap fun (context, e) =>
            e.capturedAt severity (context.getD (Hook.tagged s.tags testId)) testId := by
  intro installing closing testId
  -- before: nothing is attached for the capture
  have hbefore := hfresh.collected.logAll_silent hfresh.arrivals hfresh.silent channel before
  have hnone := arrivedFor_logAll channel before hfresh.arrivals
  have halike := alike_logAll channel before s
  obtain ⟨hook, s₂, hinstalled, hsettled, hhook, h⟩ := step_install hbefore.latest
    (by rw [hbefore.settings_eq]; exact hsettings) hlevels hfactory name
  change installing.2 = s₂.settle at hsettled
  have htestId : hook.testId = testId := by rw [h.testId, halike.pool]
  have htags : s₂.settle.tags = Hook.tagged s.tags testId := by
    show s₂.tags = _
    rw [h.tags, halike.tags, htestId]
  -- during: the channel is attached, and for the capture nothing else is
  have hattached : s₂.settle.around.tree.Attached ⟨channel, severity, hook.testId, .capture index⟩
      (s.logAll channel before).around.nextSerial := by
    show s₂.around.tree.Attached _ _
    rw [h.tree, halike.tree]
    exact Silent.attached hfresh.silent _
  have hsilent : (s.logAll channel before).around.tree.Silent (.capture index) := by
    rw [halike.tree]
    exact hfresh.silent
  have hcollected := hbefore.settle_of_eq hnone h.captures (h.arrivals hsilent)
  have hduring := hcollected.logAll_attached rfl hattached during
  have hnone' : arrivedFor (s₂.settle.logAll channel during).around.arrivals index = [] :=
    arrivedFor_logAll channel during rfl
  have halike' := alike_logAll channel during s₂.settle
  have hhook' : (s₂.settle.logAll channel during).hooks.get name = some hook := by
    rw [halike'.hooks]
    exact hhook
  obtain ⟨outcome, s₃, hclosed, hsettled', htree, harrivals, hcaptures⟩ :=
    step_closeHook hhook' h.recorders h.opened ending
  -- after: the attachment is gone
  have hsilent' : s₃.settle.around.tree.Silent (.capture index) := by
    show s₃.around.tree.Silent _
    rw [htree, halike'.tree]
    exact hattached.silent_detach
  have hkept := hduring.settle_of_eq hnone' hcaptures (by rw [harrivals])
  have hafter := (hkept.logAll_silent rfl hsilent' channel after).entries_eq
  rw [← hsettled] at hclosed hsettled'
  rw [htags, htestId, List.nil_append, ← hsettled'] at hafter
  rw [htestId] at hinstalled
  exact ⟨outcome, hinstalled, hclosed, hafter⟩

/-- An event with a text, from an unknown site at the start of 1970. -/
def plainEvent (level : Int) (text : String) : Event where
  level := level
  message := { template := .text text }
  module := none
  qualifiedName := none
  created := Binary64.ofInt 0
  thread := .nothing

/-- A capture of `app` from INFO on, with events that come too early, that are not grave enough, that belong to
another test, and that come too late. -/
theorem entries_eq_logged_app :
    let s := (({ around := { now := ⟨0⟩ } } : Session).step (.makeCapture "c" none (some .standard))).2
    let installing := (s.logAll "app" [(none, plainEvent 40 "early")]).step
      (.install "h" "c" [(.text "app", .severity .info)])
    let closing := (installing.2.logAll "app" [(none, plainEvent 20 "own"), (none, plainEvent 19 "fine"),
      (some [(TestId.key, .text "FFFF")], plainEvent 50 "other"), (some [], plainEvent 30 "plain")]).step
        (.closeHook "h" (.plain true))
    installing.1.outcome = .ok (.installed "0000" false) ∧
      ((closing.2.logAll "app" [(none, plainEvent 40 "late")]).capture "c").entries.map (·.message)
        = ["own", "plain"] := by
  intro s
  have hknows : ({ around := { now := ⟨0⟩ } } : Session).KnowsCaptures := by
    refine ⟨fun index _ name h hmem => ?_, fun _ _ => rfl⟩
    rw [show (_ : LoggerTree) = {} from rfl, handlers_new] at hmem
    cases hmem
  have hfresh : s.IsFresh "c" 0 { factory := some .standard } := isFresh_makeCapture hknows rfl "c"
  have hsettings : Settings.withLevels { factory := some .standard } [(.text "app", .severity .info)]
      = .ok { levels := [("app", .info)], factory := some .standard } := rfl
  have hid : (if true = true then s.pool.claim.1 else "") = "0000" := by decide +kernel
  have htags : s.tags = [] := rfl
  have h := entries_eq_logged hfresh hsettings rfl rfl "h" (.plain true) [(none, plainEvent 40 "early")]
    [(none, plainEvent 20 "own"), (none, plainEvent 19 "fine"),
      (some [(TestId.key, .text "FFFF")], plainEvent 50 "other"), (some [], plainEvent 30 "plain")]
    [(none, plainEvent 40 "late")]
  dsimp only at h ⊢
  rw [hid, htags] at h
  obtain ⟨outcome, hinstalled, -, hentries⟩ := h
  refine ⟨hinstalled, ?_⟩
  have hmessages := congrArg (List.map Record.message) hentries
  rw [List.map_map] at hmessages
  refine Eq.trans hmessages ?_
  decide +kernel

end Session

end LogAssay
