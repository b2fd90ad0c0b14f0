import LogAssay.Proofs.Capture.Scopes
import LogAssay.Proofs.Session.Capturing
import LogAssay.Proofs.Session.Installing
import LogAssay.Proofs.Session.WellFormed

/-!
# Blocks

Tests are written in blocks: tags hold for a block, and a capture is installed for a block. However a block is
left, by its end or by a fault, what it set up is taken back. So when the outermost block has been left, tags,
test ids, loggers and overrides are what they were before it. Only a logger that has a recorder from outside may be left
with a lower level: its override is shared, and the level is put back when the last recorder goes.

## Main statements

* `Block.run_restores`: a block leaves the same open attachments, the same tags and the same test ids, and it lowers a
  logger that had an override as its attachments did.
* `Block.Reaches.tags_eq`: the tags in force inside blocks are those of the scopes around, inner ones over outer
  ones.
* `blocks_restore`: what this means for loggers and overrides.
* `not_level_restored_shared`: a block that leaves a lower level.
-/

namespace LogAssay

open Logger (canonical)
open LoggerTree (Atop Holder Lowered kept_atop loweredBy)

namespace Session

/-! ## Installing -/

/-- The settings of the capture of a number. -/
def settingsOf (s : Session) (index : Nat) : Settings := ((s.captures[index]?).map (·.2.settings)).getD {}

/-- Installs the capture of a number with the standard factory. -/
def installStandard (index : Nat) (extra : List (Value × Value)) : Act Session (Hook Detachment) := do
  install index (((← get).settingsOf index).withFactory (some .standard)) extra

/-- The attachments that an installation with the standard factory makes, each with the tree that it finds, even if it
fails and takes them back. -/
def madeBy (s : Session) (index : Nat) (extra : List (Value × Value)) : List (LoggerTree × Request) :=
  match ((s.settingsOf index).withFactory (some .standard)).withLevels extra with
  | .error _ => []
  | .ok final => Hook.made (installedLevels final.levels) final.useTestId index s.scene

/-- Closes a hook when its block has been left in some way, with a check or without. A fault of the closing takes the
place of the one that the block was left by. -/
def leave (hook : Hook Detachment) (verify : Bool) (outcome : Except Fault Unit) : Act Session Unit := do
  let (closing, _) ← closeHook true verify hook
  Act.ofExcept (closing >>= fun () => outcome)

/-- An installation with the standard factory fails before it starts, or it is that of some channels of the tree. -/
theorem install_standard (settings : Settings) (hfactory : settings.factory = some .standard) (index : Nat)
    (extra : List (Value × Value)) (s : Session) :
    (∃ fault, settings.withLevels extra = .error fault ∧
        (install index settings extra).result s = (.error fault, s)) ∨
      ∃ final, settings.withLevels extra = .ok final ∧
        (install index settings extra).result s
          = ((Hook.install Surroundings.telling (installedLevels final.levels) final.useTestId index s.scene).1,
            s.withScene
              (Hook.install Surroundings.telling (installedLevels final.levels) final.useTestId index s.scene).2) := by
  rcases install_cases settings index extra s with
    ⟨fault, hfails, hfirst⟩ | ⟨final, factory, s₁, hfinal, hchosen, hinstall⟩
  · exact .inl ⟨fault, hfails, hfirst⟩
  · obtain ⟨levels, -, hsettled⟩ := exists_ok_of_bind hfinal
    obtain rfl : { settings with levels := levels } = final := Except.ok.inj hsettled
    have hstandard : (factoryOf { settings with levels := levels }).result s = (.ok .standard, s) := by
      rw [factoryOf, hfactory]
      rfl
    cases hstandard.symm.trans hchosen
    exact .inr ⟨_, hfinal, hinstall⟩

/-! ## Blocks -/

/-- What is done in one context, in blocks that are left by their ends or by faults. -/
inductive Block where
  | skip
  /-- Logs, looks at what was captured, or says what is to be checked. -/
  | tell (command : Command) (quiet : command.isQuiet = true)
  | raise (fault : Fault)
  | andThen (first second : Block)
  /-- Goes on with a handler after a fault. -/
  | attempt (body handler : Block)
  /-- Puts tags in force. -/
  | scope (tags : Tags) (body : Block)
  /-- Installs the capture of a number, with further levels. Closing checks what was captured or not, which may depend
  on whether the block is left by a fault. -/
  | capture (index : Nat) (extra : List (Value × Value)) (verify verifyAfterFault : Bool) (body : Block)

namespace Block

/-- Carries a block out. -/
def run : Block → Session → Except Fault Unit × Session
  | skip, s => (.ok (), s)
  | tell command _, s => ((s.step command).1.outcome.map fun _ => (), (s.step command).2)
  | raise fault, s => (.error fault, s)
  | andThen first second, s =>
    match first.run s with
    | (.ok (), s) => second.run s
    | (.error fault, s) => (.error fault, s)
  | attempt body handler, s =>
    match body.run s with
    | (.ok (), s) => (.ok (), s)
    | (.error _, s) => handler.run s
  | scope tags body, s =>
    let (outcome, s') := body.run { s with tags := s.tags.within tags }
    (outcome, { s' with tags := s.tags })
  | capture index extra verify verifyAfterFault body, s =>
    match (installStandard index extra).result s with
    | (.error fault, s) => (.error fault, s)
    | (.ok hook, s) =>
      let (outcome, s) := body.run s
      (leave hook (if outcome matches .ok _ then verify else verifyAfterFault) outcome).result s

/-- The attachments that a block makes, each with the tree that it finds. -/
def made : Block → Session → List (LoggerTree × Request)
  | skip, _ => []
  | tell _ _, _ => []
  | raise _, _ => []
  | andThen first second, s =>
    match first.run s with
    | (.ok (), s') => first.made s ++ second.made s'
    | (.error _, _) => first.made s
  | attempt body handler, s =>
    match body.run s with
    | (.ok (), _) => body.made s
    | (.error _, s') => body.made s ++ handler.made s'
  | scope tags body, s => body.made { s with tags := s.tags.within tags }
  | capture index extra _ _ body, s =>
    match (installStandard index extra).result s with
    | (.error _, _) => s.madeBy index extra
    | (.ok _, s') => s.madeBy index extra ++ body.made s'

/-- The tags that a hook puts in force. -/
def scopeOf (hook : Hook Detachment) : Tags := if hook.testId = "" then [] else [(TestId.key, .text hook.testId)]

/-- Where a block comes to: a point in it or at its end, with the scopes of the blocks around this point, from the
outside in, and the session there. -/
inductive Reaches : Block → Session → List Tags → Session → Prop where
  | start {block s} : Reaches block s [] s
  | finish {block s} : Reaches block s [] (block.run s).2
  | first {first second s scopes here} : Reaches first s scopes here → Reaches (andThen first second) s scopes here
  | second {first second s scopes here} : (first.run s).1 = .ok () → Reaches second (first.run s).2 scopes here →
    Reaches (andThen first second) s scopes here
  | body {body handler s scopes here} : Reaches body s scopes here → Reaches (attempt body handler) s scopes here
  | handler {body handler s scopes here} {fault : Fault} : (body.run s).1 = .error fault →
    Reaches handler (body.run s).2 scopes here → Reaches (attempt body handler) s scopes here
  | scope {tags body s scopes here} : Reaches body { s with tags := s.tags.within tags } scopes here →
    Reaches (scope tags body) s (tags :: scopes) here
  | capture {index extra verify verifyAfterFault body s s' scopes here} {hook : Hook Detachment} :
    (installStandard index extra).result s = (.ok hook, s') → Reaches body s' scopes here →
    Reaches (capture index extra verify verifyAfterFault body) s (scopeOf hook :: scopes) here

end Block

/-! ## What blocks leave -/

section Restores

variable {first : Nat} {t₀ : LoggerTree} {hs xs : List Holder} {made made' : List (LoggerTree × Request)}
  {s s' s'' : Session} {hook : Hook Detachment}

/-- What a block that makes some attachments leaves, seen from where it began: the same attachments are open, the same
tags are in force, and the same test ids are held. A logger that had an override at first stays as low as the
attachments brought it. -/
structure Restores (first : Nat) (t₀ : LoggerTree) (hs : List Holder) (made : List (LoggerTree × Request))
    (s s' : Session) : Prop where
  roster : Roster first (Atop t₀) s'.around hs
  tags : s'.tags = s.tags
  held : s'.pool.held = s.pool.held
  lowered : ∀ name, t₀.overrides.get (canonical name) ≠ none →
    Lowered s.around.tree s'.around.tree name (loweredBy made name)

theorem Restores.refl (h : Roster first (Atop t₀) s.around hs) : Restores first t₀ hs [] s s :=
  ⟨h, rfl, rfl, fun name _ => .refl s.around.tree name⟩

theorem Restores.trans (h : Restores first t₀ hs made s s') (h' : Restores first t₀ hs made' s' s'') :
    Restores first t₀ hs (made ++ made') s s'' := by
  refine ⟨h'.roster, h'.tags.trans h.tags, h'.held.trans h.held, fun name hheld => ?_⟩
  rw [LoggerTree.loweredBy_append]
  exact (h.lowered name hheld).trans (h'.lowered name hheld)

/-- What an installation leaves, seen from where it began: attachments of the hook are open too, its test id is in
force, and once that is released, the same test ids are held. -/
structure Enters (first : Nat) (t₀ : LoggerTree) (hs xs : List Holder) (made : List (LoggerTree × Request))
    (s : Session) (hook : Hook Detachment) (s' : Session) : Prop where
  holding : ∃ levels, hook.Holding levels xs
  earlier : hook.earlier = s.tags
  roster : Roster first (Atop t₀) s'.around (hs ++ xs)
  tags : s'.tags = s.tags.within (Block.scopeOf hook)
  held : ∀ q : TestId.Pool, q.held = s'.pool.held → (q.release hook.testId).held = s.pool.held
  lowered : ∀ name, t₀.overrides.get (canonical name) ≠ none →
    Lowered s.around.tree s'.around.tree name (loweredBy made name)

theorem tagged_eq_within (tags : Tags) (hook : Hook Detachment) :
    Hook.tagged tags hook.testId = tags.within (Block.scopeOf hook) := by
  rw [Hook.tagged, Block.scopeOf]
  split
  · rfl
  · rfl

/-- **An installation succeeds and puts its attachments on the roster, or it restores everything.** -/
theorem installStandard_cases (wellFormed : t₀.WellFormed first) (h : Roster first (Atop t₀) s.around hs) (index : Nat)
    (extra : List (Value × Value)) :
    (∃ fault s', (installStandard index extra).result s = (.error fault, s') ∧
        Restores first t₀ hs (s.madeBy index extra) s s') ∨
      ∃ hook xs s', (installStandard index extra).result s = (.ok hook, s') ∧
        Enters first t₀ hs xs (s.madeBy index extra) s hook s' := by
  have hresult : (installStandard index extra).result s
      = (install index ((s.settingsOf index).withFactory (some .standard)) extra).result s :=
    Act.result_bind_ok (Act.result_get s)
  rw [hresult]
  rcases install_standard ((s.settingsOf index).withFactory (some .standard)) rfl index extra s with
    ⟨fault, hfails, hfault⟩ | ⟨final, hfinal, hinstall⟩
  · have hmade : s.madeBy index extra = [] := by
      rw [madeBy, hfails]
    rw [hmade]
    exact .inl ⟨fault, s, hfault, .refl h⟩
  · have hmade : s.madeBy index extra = Hook.made (installedLevels final.levels) final.useTestId index s.scene := by
      rw [madeBy, hfinal]
    have hscene : Roster first (Atop t₀) s.scene.backend hs := h
    have hlowered := fun name (hheld : t₀.overrides.get (canonical name) ≠ none) =>
      Hook.lowered_install wellFormed hscene hheld (installedLevels final.levels) final.useTestId index
    rw [hinstall, hmade]
    rcases Hook.install_tree (kept_atop wellFormed) hscene (installedLevels final.levels) final.useTestId index with
      ⟨hook, xs, scene, heq, hinstalls⟩ | ⟨fault, scene, heq, hfails⟩
    · rw [heq] at hlowered ⊢
      refine .inr ⟨hook, xs, s.withScene scene, rfl, ⟨_, hinstalls.holding⟩, hinstalls.earlier,
        hinstalls.roster.congr rfl rfl, ?_, fun q hq => ?_, hlowered⟩
      · rw [← tagged_eq_within]
        exact hinstalls.tags
      · rw [hinstalls.testId]
        exact Hook.held_release_claim final.useTestId s.pool (hq.trans (congrArg TestId.Pool.held hinstalls.pool))
    · rw [heq] at hlowered ⊢
      refine .inl ⟨fault, s.withScene scene, rfl, hfails.roster.congr rfl rfl, hfails.tags, ?_, hlowered⟩
      exact (congrArg TestId.Pool.held hfails.pool).trans (Hook.held_release_claim final.useTestId s.pool rfl)

/-- Taking back the tag of a hook gives the tags from before. Without a test id there is none, and the tags are those
from before anyway. -/
theorem Enters.tags_back (h : Enters first t₀ hs xs made s hook s') {tags : Tags} (htags : tags = s'.tags) :
    (if hook.testId ≠ "" ∧ true = true then hook.earlier else tags) = s.tags := by
  by_cases htagged : hook.testId = ""
  · rw [if_neg fun hc => hc.1 htagged, htags, h.tags, Block.scopeOf, if_pos htagged]
    rfl
  · rw [if_pos ⟨htagged, rfl⟩, h.earlier]

/-- **Closing the hook of a block restores everything**, whatever comes of the check. -/
theorem Enters.leave (wellFormed : t₀.WellFormed first) (h : Enters first t₀ hs xs made s hook s')
    (hbody : Restores first t₀ (hs ++ xs) made' s' s'') (verify : Bool) (outcome : Except Fault Unit) :
    Restores first t₀ hs (made ++ made') s ((Session.leave hook verify outcome).result s'').2 := by
  obtain ⟨levels, hholding⟩ := h.holding
  have hscene : Roster first (Atop t₀) s''.scene.backend (hs ++ xs) := hbody.roster
  have hlast := Roster.without_last hbody.roster.unique
  have hmem : ∀ x ∈ xs, x ∈ hs ++ xs := fun x hx => List.mem_append_right _ hx
  let check : Option (Scene Surroundings → Except Fault Unit) :=
    if verify then some fun scene => ((s''.withScene scene).commit.2).checkOf hook.capture else none
  have hstays := fun name (hheld : t₀.overrides.get (canonical name) ≠ none) =>
    Hook.lowered_close wellFormed hscene hholding hmem hscene.unique_last hheld true check
  obtain ⟨closing, hook', scene, hclose, hcloses⟩ :=
    Hook.close_tree (kept_atop wellFormed) hscene hholding hmem hscene.unique_last true check
  have hstate : ((Session.leave hook verify outcome).result s'').2 = s''.withScene scene := by
    show s''.withScene (hook.close Surroundings.telling true check s''.scene).2.2 = _
    rw [hclose]
  have hroster := hcloses.roster
  rw [hclose] at hstays
  rw [hlast] at hroster
  rw [hstate]
  refine ⟨hroster.congr rfl rfl, hcloses.tags.trans (h.tags_back hbody.tags), ?_, fun name hheld => ?_⟩
  · exact (congrArg TestId.Pool.held hcloses.pool).trans (h.held _ hbody.held)
  · -- closing keeps the logger as low as the installation and the body have brought it
    rw [LoggerTree.loweredBy_append]
    exact ((h.lowered name hheld).trans (hbody.lowered name hheld)).trans (hstays name hheld)

/-- **However a block is left, it restores everything.** -/
theorem Block.run_restores (wellFormed : t₀.WellFormed first) (block : Block) : ∀ {s : Session} {hs : List Holder},
    Roster first (Atop t₀) s.around hs → Restores first t₀ hs (block.made s) s (block.run s).2 := by
  induction block with
  | skip => exact fun h => .refl h
  | raise fault => exact fun h => .refl h
  | tell command quiet =>
    intro s hs h
    have hstill := still_step s quiet
    refine ⟨h.congr hstill.tree hstill.nextSerial, hstill.tags, congrArg TestId.Pool.held hstill.pool, ?_⟩
    intro name _
    have htree : ((tell command quiet).run s).2.around.tree = s.around.tree := hstill.tree
    rw [htree]
    exact .refl s.around.tree name
  | andThen first second ihfirst ihsecond =>
    intro s hs h
    have hfirst := ihfirst h
    rw [run, Block.made]
    rcases hrun : first.run s with ⟨_ | _, s'⟩
    · rw [hrun] at hfirst
      exact hfirst
    · rw [hrun] at hfirst
      exact hfirst.trans (ihsecond hfirst.roster)
  | attempt body handler ihbody ihhandler =>
    intro s hs h
    have hbody := ihbody h
    rw [run, Block.made]
    rcases hrun : body.run s with ⟨_ | _, s'⟩
    · rw [hrun] at hbody
      exact hbody.trans (ihhandler hbody.roster)
    · rw [hrun] at hbody
      exact hbody
  | scope tags body ih =>
    -- the tags are put back in any case, and nothing else depends on them
    intro s hs h
    have hbody := ih (s := { s with tags := s.tags.within tags }) h
    exact ⟨hbody.roster, rfl, hbody.held, hbody.lowered⟩
  | capture index extra verify verifyAfterFault body ih =>
    intro s hs h
    rw [run, Block.made]
    rcases installStandard_cases wellFormed h index extra with ⟨fault, s', heq, hfailed⟩ | ⟨hook, xs, s', heq, henters⟩
    · rw [heq]
      exact hfailed
    · rw [heq]
      exact henters.leave wellFormed (ih henters.roster) _ _

/-- **Inside blocks, the tags in force are those of the scopes around**, put over those outside one by one. -/
theorem Block.Reaches.tags_eq (wellFormed : t₀.WellFormed first) {block : Block} {scopes : List Tags} {here : Session}
    (hreaches : block.Reaches s scopes here) : ∀ {hs : List Holder}, Roster first (Atop t₀) s.around hs →
    here.tags = scopes.foldl Tags.within s.tags := by
  induction hreaches with
  | start => exact fun _ => rfl
  | finish => exact fun h => (Block.run_restores wellFormed _ h).tags
  | first _ ih => exact ih
  | @second earlier _ _ _ _ _ _ ih =>
    intro hs h
    have hfirst := earlier.run_restores wellFormed h
    rw [← hfirst.tags]
    exact ih hfirst.roster
  | body _ ih => exact ih
  | @handler body _ _ _ _ _ _ _ ih =>
    intro hs h
    have hbody := body.run_restores wellFormed h
    rw [← hbody.tags]
    exact ih hbody.roster
  | scope _ ih => exact fun h => ih h
  | @capture index extra _ _ _ s _ _ _ _ hinstall _ ih =>
    intro hs h
    rcases installStandard_cases wellFormed h index extra with ⟨fault, s₁, heq, -⟩ | ⟨hook', xs, s₁, heq, henters⟩
    · cases hinstall.symm.trans heq
    · cases hinstall.symm.trans heq
      rw [List.foldl_cons, ← henters.tags]
      exact ih henters.roster

end Restores

/-! ## The outermost block -/

/-- **Blocks restore everything but levels of shared overrides.** However a block of tags, installations and quiet
commands is left, by its end or by a fault, and whatever comes of the checks:

* the tags in force and the test ids held are those from before it;
* a logger without an override, which is every logger if nothing else is attached, is as it was before it, and again
  has no override;
* a logger with a recorder from outside has the handlers from before, and its override the saved level and the holders.
  If attachments in the block asked for less than the level in force, then the last one of these has set the level, and
  the override has it as the level to be put back from. Otherwise logger and override are as they were;
* at every point inside, the tags in force are those of the scopes around it, where inner values replace outer
  ones.

The session may have come about by any commands. -/
theorem blocks_restore {s : Session} (h : s.WellFormed) (block : Block) :
    let after := (block.run s).2
    after.tags = s.tags ∧ after.pool.held = s.pool.held ∧
      (∀ name,
        (s.around.tree.overrides.get (canonical name) = none →
          after.around.tree.logger name = s.around.tree.logger name ∧
            after.around.tree.overrides.get (canonical name) = none) ∧
        ∀ held, s.around.tree.overrides.get (canonical name) = some held →
          let lowered := loweredBy (block.made s) name
          after.around.tree.logger name
              = { s.around.tree.logger name with level := lowered.getD (s.around.tree.logger name).level } ∧
            after.around.tree.overrides.get (canonical name) = some { held with applied := lowered.or held.applied }) ∧
      ∀ scopes here, block.Reaches s scopes here →
        here.tags = scopes.foldl Tags.within s.tags ∧
          ∀ key, here.tags.find? key
            = (scopes.reverse.findSome? (Tags.value? · key)).or (s.tags.find? key) := by
  intro after
  have hroster : Roster s.around.nextSerial (Atop s.around.tree) s.around [] :=
    ⟨.initial s.around.tree, List.nodup_nil, fun _ hx => absurd hx List.not_mem_nil, Nat.le_refl _⟩
  have hrestores := block.run_restores h hroster
  have hatop : Atop s.around.tree after.around.tree [] := hrestores.roster.kept
  refine ⟨hrestores.tags, hrestores.held, fun name => ⟨fun hfree => ?_, fun held hheld => ?_⟩,
    fun scopes here hreaches => ?_⟩
  · have hfree' := hatop.free name hfree rfl
    have hlevel := hatop.beneath name hfree
    rw [LoggerTree.beneath_of_free hfree'] at hlevel
    exact ⟨hatop.logger_eq hlevel, hfree'⟩
  · have hne : s.around.tree.overrides.get (canonical name) ≠ none := by
      rw [hheld]
      exact Option.some_ne_none held
    have hlowered := hrestores.lowered name hne
    refine ⟨hatop.logger_eq hlowered.level, ?_⟩
    rw [hatop.held name (.inl hne), hlowered.applied, LoggerTree.heldOverride, LoggerTree.applied?, hheld]
    rfl
  · have htags := hreaches.tags_eq h hroster
    refine ⟨htags, fun key => ?_⟩
    rw [htags, Tags.find?_foldl_within]

/-- Two captures of `app`, one in the other, in two scopes that set one tag, with a check that fails at the end, while
`db` has a recorder from outside, and a level that was set since: all of `app` is restored, `db` is left as low as the
inner capture asked, and inside, the inner tag is in force. -/
theorem blocks_restore_nested :
    let s : Session := run { around := { now := ⟨0⟩ }, captures := [("c", {})] }
      [.attach "outside" "logs" "db" .info "", .setLevel "db" 40]
    let inner : Block := .capture 0 [(.text "app", .severity .fine), (.text "db", .severity .fine)] true false
      (.tell (.log "app" (plainEvent 20 "x")) rfl)
    let outer : Block := .capture 0 [(.text "app", .severity .info)] true false
      (.andThen (.tell (.expectCount none "c" (fun _ => []) .exactly 5) rfl) inner)
    let block : Block := .scope [("user", .text "ann")] (.scope [("user", .text "bob")] outer)
    let after := (block.run s).2
    (block.run s).1.toOption = none ∧ after.tags = [] ∧ after.pool.held = [] ∧
      after.around.tree.logger "app" = {} ∧ after.around.tree.overrides.get "app" = none ∧
      s.around.tree.overrides.get "db" = some ⟨0, some 20, 1⟩ ∧ (after.around.tree.logger "db").level = 10 ∧
      after.around.tree.overrides.get "db" = some ⟨0, some 10, 1⟩ ∧
      ∃ scopes here, block.Reaches s scopes here ∧ here.tags.find? "user" = some (.text "bob") := by
  intro s inner outer block after
  have hwellFormed : s.WellFormed := wellFormed_run _ wellFormed_new
  have hfails : (block.run s).1.toOption = none := by decide +kernel
  have hheld : s.around.tree.overrides.get "db" = some ⟨0, some 20, 1⟩ := by decide +kernel
  have hlowered : loweredBy (block.made s) "db" = some 10 := by decide +kernel
  have hreaches : block.Reaches s [[("user", .text "ann")], [("user", .text "bob")]] _ := .scope (.scope .start)
  obtain ⟨htags, hids, hloggers, hinside⟩ := blocks_restore hwellFormed block
  obtain ⟨hlogger, hoverride⟩ := (hloggers "app").1 (by decide +kernel)
  obtain ⟨hlower, hshared⟩ := (hloggers "db").2 _ hheld
  have huser := (hinside _ _ hreaches).2 "user"
  rw [hlowered] at hlower hshared
  -- for the rest it does not matter which block it is
  clear_value block
  exact ⟨hfails, htags, hids, hlogger, hoverride, hheld, congrArg Logger.level hlower, hshared, _, _, hreaches, huser⟩

/-- Levels of shared overrides are not restored: while a recorder of `app` is open at `INFO`, a block captures `app` at
`FINE`, and leaves the logger and its override at the lower level. -/
theorem not_level_restored_shared :
    ¬∀ (s : Session) (block : Block), s.WellFormed → ∀ name,
      ((block.run s).2.around.tree.logger name).level = (s.around.tree.logger name).level ∧
        (block.run s).2.around.tree.overrides.get (canonical name) = s.around.tree.overrides.get (canonical name) := by
  intro hall
  let s : Session := run { around := { now := ⟨0⟩ }, captures := [("c", {})] } [.attach "outside" "logs" "app" .info ""]
  let block : Block := .capture 0 [(.text "app", .severity .fine)] true true .skip
  have hlevel := (hall s block (wellFormed_run _ wellFormed_new) "app").1
  exact absurd hlevel (by decide +kernel)

end Session

end LogAssay
