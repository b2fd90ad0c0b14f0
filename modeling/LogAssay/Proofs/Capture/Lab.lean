import LogAssay.Proofs.Capture.Installing
import LogAssay.Proofs.Capture.Scopes
import LogAssay.Session.Basic

/-!
# Tests that run at the same time

In a lab several tests share one logger tree and one pool of test ids. Each runs in a context of its own, with
its own tags, and installs captures and closes their hooks there or elsewhere. Meanwhile others log, change the
tags of their contexts, and change levels. `Sound` says what is known of the lab then: the attachments of the open
hooks are the roster of the tree. Every run of moves keeps it (`Sound.run`).
-/

namespace LogAssay

open LoggerTree (Holder Staffed kept_staffed)

/-- An installed capture: the context and the channels that it was installed with, and its hook. -/
structure Installation where
  context : Nat
  levels : Levels
  hook : Hook Detachment

namespace Installation

/-- The open attachment of a recorder that was made for a request. -/
def holder? (recorder : Recorder Detachment) (request : Request) : Option Holder :=
  match recorder.detachment with
  | some (.tree d) => some ⟨d.serial, request⟩
  | _ => none

/-- The open attachments of an installation. -/
def holders (x : Installation) : List Holder :=
  (x.hook.recorders.zip (Hook.requests x.levels x.hook.capture x.hook.testId)).filterMap fun (recorder, request) =>
    holder? recorder request

theorem holders_of_holding {x : Installation} {xs : List Holder} (h : x.hook.Holding x.levels xs) :
    x.holders = xs := by
  rw [holders, h.recorders, ← h.requests, List.zip_map', List.filterMap_map]
  exact List.filterMap_some

/-- The attachments of an open installation are for its capture and its test id. -/
theorem request_of_mem {x : Installation} (h : x.hook.Holding x.levels x.holders) {y : Holder}
    (hy : y ∈ x.holders) :
    y.request.collector = .capture x.hook.capture ∧ y.request.testId = x.hook.testId := by
  have hmem : y.request ∈ Hook.requests x.levels x.hook.capture x.hook.testId := by
    rw [← h.requests]
    exact List.mem_map_of_mem hy
  obtain ⟨request, -, hrequest⟩ := List.mem_map.1 hmem
  rw [← hrequest]
  exact ⟨rfl, rfl⟩

theorem holders_of_spent {x : Installation} {xs : List Holder} (h : x.hook.recorders = xs.map Holder.spent) :
    x.holders = [] := by
  rw [holders, h, List.filterMap_eq_nil_iff]
  rintro ⟨recorder, request⟩ hmem
  obtain ⟨y, -, rfl⟩ := List.mem_map.1 (List.of_mem_zip hmem).1
  rfl

end Installation

/-- A logger tree and a pool of test ids that tests share, the tags of every context, and all hooks so far. -/
structure Lab where
  around : Surroundings
  pool : TestId.Pool := {}
  tags : Nat → Tags := fun _ => []
  hooks : List Installation := []

namespace Lab

/-! ## Moves -/

/-- What can happen in a lab. -/
inductive Move where
  | install (context capture : Nat) (levels : Levels) (useTestId : Bool)
  /-- Closes a hook in some context, with or without a check. -/
  | close (index context : Nat) (check : Option (Scene Surroundings → Except Fault Unit))
  | log (context : Nat) (logger : String) (event : Event)
  /-- Puts other tags in force in a context. -/
  | retag (context : Nat) (tags : Tags)
  | setLevel (logger : String) (level : Int)
  | setPassing (logger : String) (passesOn : Bool)

/-- What an installation in a context changes. -/
def scene (s : Lab) (context : Nat) : Scene Surroundings :=
  { backend := s.around, tags := s.tags context, pool := s.pool }

def withScene (s : Lab) (context : Nat) (scene : Scene Surroundings) : Lab :=
  { s with
    around := scene.backend
    pool := scene.pool
    tags := fun c => if c = context then scene.tags else s.tags c }

/-- Carries a move out. -/
def step (s : Lab) : Move → Lab
  | .install context capture levels useTestId =>
    match Hook.install Surroundings.telling levels useTestId capture (s.scene context) with
    | (.error _, scene) => s.withScene context scene
    | (.ok hook, scene) => { s.withScene context scene with hooks := s.hooks ++ [⟨context, levels, hook⟩] }
  | .close index context check =>
    match s.hooks[index]? with
    | none => s
    | some x =>
      let (_, hook, scene) :=
        x.hook.close Surroundings.telling (decide (context = x.context)) check (s.scene context)
      { s.withScene context scene with hooks := s.hooks.set index { x with hook := hook } }
  | .log context logger event => { s with around := s.around.log (s.tags context) logger event }
  | .retag context tags =>
    { s with tags := fun c => if c = context then Tags.within [] tags else s.tags c }
  | .setLevel logger level =>
    { s with around := { s.around with tree := s.around.tree.setLevel logger level } }
  | .setPassing logger passesOn =>
    { s with around := { s.around with tree := s.around.tree.setPassing logger passesOn } }

/-- Carries moves out, one after the other. -/
def run (s : Lab) (moves : List Move) : Lab := moves.foldl step s

/-- Nothing has been installed, no handler hands anything to a capture, and the numbers of handlers to come are
new. -/
structure IsInitial (s : Lab) : Prop where
  hooks : s.hooks = []
  silent : ∀ capture, s.around.tree.Silent (.capture capture)
  serials : ∀ name, ∀ h ∈ (s.around.tree.logger name).handlers, h.serial < s.around.nextSerial
  tags : ∀ context, ((s.tags context).map (·.1)).Nodup

/-! ## Soundness -/

/-- The open attachments. -/
def ledger (s : Lab) : List Holder := s.hooks.flatMap Installation.holders

/-- Closing a hook takes its attachments out of the open ones. -/
theorem flatMap_holders_set {x x' : Installation} (hnone : x'.holders = []) :
    ∀ {hooks : List Installation} {index : Nat},
      ((hooks.flatMap Installation.holders).map Holder.serial).Nodup → hooks[index]? = some x →
      (hooks.set index x').flatMap Installation.holders
        = Roster.without x.holders (hooks.flatMap Installation.holders)
  | first :: hooks, 0, unique, hx => by
    obtain rfl : first = x := by simpa using hx
    rw [List.flatMap_cons, List.map_append, List.nodup_append] at unique
    rw [List.set_cons_zero, List.flatMap_cons, hnone, List.nil_append, List.flatMap_cons,
      Roster.without_append, Roster.without_self, List.nil_append,
      Roster.without_of_disjoint fun a ha b hb hab => unique.2.2 b hb a ha hab.symm]
  | first :: hooks, index + 1, unique, hx => by
    rw [List.getElem?_cons_succ] at hx
    rw [List.flatMap_cons, List.map_append, List.nodup_append] at unique
    have hmem : ∀ b ∈ x.holders.map Holder.serial,
        b ∈ (hooks.flatMap Installation.holders).map Holder.serial := by
      intro b hb
      obtain ⟨y, hy, rfl⟩ := List.mem_map.1 hb
      exact List.mem_map_of_mem (List.mem_flatMap.2 ⟨x, List.mem_of_getElem? hx, hy⟩)
    rw [List.set_cons_succ, List.flatMap_cons, List.flatMap_cons, Roster.without_append,
      Roster.without_of_disjoint fun a ha b hb => unique.2.2 a ha b (hmem b hb),
      flatMap_holders_set hnone unique.2.1 hx]

/-- The attachments of the open hooks are the roster of the tree, and no tag is in force twice. -/
structure Sound (t₀ : LoggerTree) (first : Nat) (s : Lab) : Prop where
  holding : ∀ x ∈ s.hooks, x.hook.closed = false → x.hook.Holding x.levels x.holders
  spent : ∀ x ∈ s.hooks, x.hook.closed = true → x.holders = []
  roster : Roster first (Staffed t₀) s.around s.ledger
  tags : ∀ context, ((s.tags context).map (·.1)).Nodup
  earlier : ∀ x ∈ s.hooks, (x.hook.earlier.map (·.1)).Nodup

theorem IsInitial.sound {s : Lab} (h : s.IsInitial) : Sound s.around.tree s.around.nextSerial s := by
  have hledger : s.ledger = [] := by rw [ledger, h.hooks]; rfl
  have hempty : ∀ x, x ∉ s.hooks := by rw [h.hooks]; exact fun _ => List.not_mem_nil
  refine ⟨fun x hx => absurd hx (hempty x), fun x hx => absurd hx (hempty x), ?_, h.tags,
    fun x hx => absurd hx (hempty x)⟩
  rw [hledger]
  refine ⟨fun name => ?_, List.nodup_nil, fun x hx => absurd hx List.not_mem_nil, Nat.le_refl _⟩
  exact (List.append_nil _).symm

namespace Sound

variable {t₀ : LoggerTree} {first : Nat} {s : Lab}

/-- The tags after one context has got others. -/
theorem tags_ite (h : Sound t₀ first s) (context : Nat) {tags : Tags} (htags : (tags.map (·.1)).Nodup) :
    ∀ c, ((if c = context then tags else s.tags c).map (·.1)).Nodup := by
  intro c
  split
  · exact htags
  · exact h.tags c

section Step

variable (before : ∀ name, ∀ y ∈ (t₀.logger name).handlers, y.serial < first)
include before

theorem install (h : Sound t₀ first s) (context capture : Nat) (levels : Levels) (useTestId : Bool) :
    Sound t₀ first (s.step (.install context capture levels useTestId)) := by
  have hroster : Roster first (Staffed t₀) (s.scene context).backend s.ledger := h.roster
  rcases Hook.install_tree (kept_staffed before) hroster levels useTestId capture with
    ⟨hook, xs, scene, hinstall, hinstalls⟩ | ⟨fault, scene, hinstall, hfails⟩
  · rw [step, hinstall]
    have hholders : (Installation.mk context levels hook).holders = xs :=
      Installation.holders_of_holding hinstalls.holding
    refine ⟨?_, ?_, ?_, h.tags_ite context ?_, ?_⟩
    · intro x hx hopen
      rcases List.mem_append.1 hx with hx | hx
      · exact h.holding x hx hopen
      · rw [List.mem_singleton.1 hx, hholders]
        exact hinstalls.holding
    · intro x hx hclosed
      rcases List.mem_append.1 hx with hx | hx
      · exact h.spent x hx hclosed
      · rw [List.mem_singleton.1 hx] at hclosed
        cases hclosed.symm.trans hinstalls.holding.opened
    · show Roster first (Staffed t₀) scene.backend ((s.hooks ++ _).flatMap Installation.holders)
      rw [List.flatMap_append, List.flatMap_singleton, hholders]
      exact hinstalls.roster
    · rw [hinstalls.tags]
      exact Tags.nodup_tagged (h.tags context) _
    · intro x hx
      rcases List.mem_append.1 hx with hx | hx
      · exact h.earlier x hx
      · rw [List.mem_singleton.1 hx, hinstalls.earlier]
        exact h.tags context
  · rw [step, hinstall]
    refine ⟨h.holding, h.spent, hfails.roster, h.tags_ite context ?_, h.earlier⟩
    rw [hfails.tags]
    exact h.tags context

theorem close (h : Sound t₀ first s) (index context : Nat) (check : Option (Scene Surroundings → Except Fault Unit)) :
    Sound t₀ first (s.step (.close index context check)) := by
  cases hx : s.hooks[index]? with
  | none =>
    rw [step, hx]
    exact h
  | some x =>
    have hmem := List.mem_of_getElem? hx
    cases hclosed : x.hook.closed with
    | true =>
      have hsame := Hook.close_closed Surroundings.telling (decide (context = x.context)) check hclosed
        (s.scene context)
      rw [step, hx]
      simp only [hsame]
      obtain ⟨hlt, rfl⟩ := List.getElem?_eq_some_iff.1 hx
      have hset : s.hooks.set index { s.hooks[index] with hook := s.hooks[index].hook } = s.hooks :=
        List.set_getElem_self hlt
      rw [hset]
      exact ⟨h.holding, h.spent, h.roster, h.tags_ite context (h.tags context), h.earlier⟩
    | false =>
      have hholders : ∀ y ∈ x.holders, y ∈ s.ledger := fun y hy => List.mem_flatMap.2 ⟨x, hmem, hy⟩
      have hsub : x.holders.Sublist s.ledger := by
        rw [ledger, List.flatMap]
        exact List.sublist_flatten_of_mem (List.mem_map_of_mem hmem)
      have hroster : Roster first (Staffed t₀) (s.scene context).backend s.ledger := h.roster
      obtain ⟨outcome, hook, scene, hclose, hcloses⟩ := Hook.close_tree (kept_staffed before) hroster
        (h.holding x hmem hclosed) hholders (h.roster.unique.sublist (hsub.map _))
        (decide (context = x.context)) check
      have hspent : (Installation.mk x.context x.levels hook).holders = [] :=
        Installation.holders_of_spent hcloses.recorders
      rw [step, hx]
      simp only [hclose]
      refine ⟨?_, ?_, ?_, h.tags_ite context ?_, ?_⟩
      · intro y hy hopen
        rcases List.mem_or_eq_of_mem_set hy with hy | rfl
        · exact h.holding y hy hopen
        · cases hopen.symm.trans hcloses.closed
      · intro y hy hdone
        rcases List.mem_or_eq_of_mem_set hy with hy | rfl
        · exact h.spent y hy hdone
        · exact hspent
      · show Roster first (Staffed t₀) scene.backend ((s.hooks.set index _).flatMap Installation.holders)
        rw [flatMap_holders_set hspent h.roster.unique hx]
        exact hcloses.roster
      · rw [hcloses.tags]
        split
        · exact h.earlier x hmem
        · exact h.tags context
      · intro y hy
        rcases List.mem_or_eq_of_mem_set hy with hy | rfl
        · exact h.earlier y hy
        · show (hook.earlier.map _).Nodup
          rw [hcloses.earlier]
          exact h.earlier x hmem

omit before in
/-- Levels and passing on may be changed, since the handlers stay. -/
theorem change (h : Sound t₀ first s) (name : String) (f : Logger → Logger)
    (hf : ∀ l, (f l).handlers = l.handlers) :
    Sound t₀ first { s with around := { s.around with tree := s.around.tree.change name f } } := by
  refine ⟨h.holding, h.spent, ⟨fun other => ?_, h.roster.unique, h.roster.range, h.roster.first_le⟩,
    h.tags, h.earlier⟩
  refine Eq.trans ?_ (h.roster.kept other)
  show ((s.around.tree.change name f).logger other).handlers = _
  rw [LoggerTree.logger_change]
  split
  · next hname => rw [hf, s.around.tree.logger_congr hname]
  · rfl

/-- **Every move keeps the roster.** -/
theorem step (h : Sound t₀ first s) (move : Move) : Sound t₀ first (s.step move) := by
  cases move with
  | install context capture levels useTestId => exact h.install before context capture levels useTestId
  | close index context check => exact h.close before index context check
  | log context logger event => exact ⟨h.holding, h.spent, h.roster.congr rfl rfl, h.tags, h.earlier⟩
  | retag context tags =>
    exact ⟨h.holding, h.spent, h.roster, h.tags_ite context (Tags.nodup_within tags List.nodup_nil), h.earlier⟩
  | setLevel logger level => exact h.change logger _ fun _ => rfl
  | setPassing logger passesOn => exact h.change logger _ fun _ => rfl

/-- **Every run of moves keeps the roster.** -/
theorem run : ∀ {s : Lab} (moves : List Move), Sound t₀ first s → Sound t₀ first (s.run moves)
  | _, [], h => h
  | _, move :: moves, h => run moves (h.step before move)

end Step

end Sound

theorem IsInitial.sound_run {s : Lab} (h : s.IsInitial) (moves : List Move) :
    Sound s.around.tree s.around.nextSerial (s.run moves) :=
  h.sound.run h.serials moves

end Lab

end LogAssay
