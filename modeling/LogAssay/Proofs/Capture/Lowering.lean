import LogAssay.Proofs.Capture.Installing
import LogAssay.Proofs.Logger.Sharing

/-!
# Levels that hooks leave lowered

A hook attaches its channels one by one and closes them again, at the latest when it is closed itself. A logger that
has an override from before stays as low as these attachments have brought it, also if the installation fails.

## Main statements

* `Hook.lowered_install`: an installation lowers a logger as its attachments do.
* `Hook.lowered_close`: closing a hook leaves a logger lowered that had an override before.
-/

namespace LogAssay

open Logger (canonical)
open LoggerTree

/-! ## Stations -/

/-- The attachments that attaching channels makes, up to the first one that fails, each with the tree that it finds. -/
def Station.made (b : Backend Surroundings LogAssay.Detachment) :
    List Request → Station Surroundings → List (LoggerTree × Request)
  | [], _ => []
  | request :: requests, s =>
    match s.attach b request with
    | (.error _, _) => []
    | (.ok _, s') => (s.backend.tree, request) :: made b requests s'

/-- **Attaching channels** lowers a logger as those attachments do that are made. -/
theorem Station.lowered_attachAll (tell : Diagnostic → Surroundings → Surroundings) (name : String) :
    ∀ (requests : List Request) (attached : List String) (around : Surroundings),
    Lowered around.tree
      (attachAll (Surroundings.treeTelling tell) requests ⟨attached, around⟩).2.2.backend.tree name
      (loweredBy (made (Surroundings.treeTelling tell) requests ⟨attached, around⟩) name)
  | [], _, around => .refl around.tree name
  | request :: requests, attached, around => by
    rw [attachAll, made, Roster.attach_tree tell]
    by_cases hattached : attached.contains request.channel = true
    · simp only [if_pos hattached]
      exact .refl around.tree name
    · have hfirst := around.tree.lowered_attach request around.nextSerial name
      have hrest := lowered_attachAll tell name requests (request.channel :: attached)
        { around with
          nextSerial := around.nextSerial + 1
          tree := around.tree.attach request around.nextSerial }
      simp only [if_neg hattached]
      rw [loweredBy_cons]
      exact hfirst.trans hrest

namespace Roster

variable {first : Nat} {t₀ : LoggerTree} {around : Surroundings} {hs : List Holder}

/-- **Closing recorders** leaves a logger lowered that had an override before. -/
theorem lowered_closeAll (tell : Diagnostic → Surroundings → Surroundings) (wellFormed : t₀.WellFormed first)
    {name : String} (hheld : t₀.overrides.get (canonical name) ≠ none) :
    ∀ (xs : List Holder) (attached : List String), Roster first (Atop t₀) around hs → (∀ x ∈ xs, x ∈ hs) →
      (xs.map Holder.serial).Nodup →
      Lowered around.tree
        (Recorder.closeAll (Surroundings.treeTelling tell) (xs.map Holder.recorder) ⟨attached, around⟩).backend.tree
        name none
  | [], _, _, _, _ => .refl around.tree name
  | x :: xs, attached, h, hmem, unique => by
    rw [List.map_cons, List.nodup_cons] at unique
    have hxs : ∀ y ∈ xs, y ∈ hs := fun y hy => hmem y (List.mem_cons_of_mem _ hy)
    have hx : x ∈ without xs hs := mem_without.2 ⟨hmem x (by simp), unique.1⟩
    have hroster := h.closeAll tell (kept_atop wellFormed) xs attached hxs unique.2
    have hrest := lowered_closeAll tell wellFormed hheld xs attached h hxs unique.2
    exact hrest.trans (hroster.kept.lowered_detach wellFormed hroster.unique hx hheld)

end Roster

/-! ## Hooks -/

namespace Hook

open Surroundings (telling)

variable {first : Nat} {t₀ : LoggerTree} {hs xs : List Holder} {scene : Scene Surroundings}

/-- The attachments that an installation makes, even if it fails and takes them back. -/
def made (levels : Levels) (useTestId : Bool) (capture : Nat) (scene : Scene Surroundings) :
    List (LoggerTree × Request) :=
  let (testId, entered) := enter telling useTestId scene
  Station.made (telling entered.toAmbience) (requests levels capture testId) { backend := entered.backend }

/-- **An installation lowers a logger as its attachments do**, whether it fails or not, if the logger had an override
before. -/
theorem lowered_install (wellFormed : t₀.WellFormed first) (h : Roster first (Atop t₀) scene.backend hs)
    {name : String} (hheld : t₀.overrides.get (canonical name) ≠ none) (levels : Levels) (useTestId : Bool)
    (capture : Nat) :
    Lowered scene.backend.tree (install telling levels useTestId capture scene).2.backend.tree name
      (loweredBy (made levels useTestId capture scene) name) := by
  have hentered : Roster first (Atop t₀) (enter telling useTestId scene).2.backend hs := h.tellAll ..
  have htree : (enter telling useTestId scene).2.backend.tree = scene.backend.tree := Surroundings.tree_tellAll ..
  have hlowered := Station.lowered_attachAll (Surroundings.tell (enter telling useTestId scene).2.tags) name
    (requests levels capture (claim useTestId scene.pool).1) [] (enter telling useTestId scene).2.backend
  obtain ⟨fault, xs, station, hattach, hroster, -⟩ :=
    hentered.attachAll (Surroundings.tell (enter telling useTestId scene).2.tags) (kept_atop wellFormed)
      (requests levels capture (claim useTestId scene.pool).1) []
  rw [hattach, htree] at hlowered
  have hattaching : attaching telling levels useTestId capture scene = (fault, xs.map Holder.recorder, station) :=
    hattach
  cases fault with
  | none =>
    rw [install_attached hattaching]
    exact hlowered
  | some fault =>
    have hclosed := Roster.lowered_closeAll (Surroundings.tell (enter telling useTestId scene).2.tags) wellFormed
      hheld xs station.attached hroster (fun x hx => List.mem_append_right _ hx) hroster.unique_last
    rw [install_taken_back hattaching]
    exact hlowered.trans hclosed

/-- **Closing a hook leaves a logger lowered** that had an override before. -/
theorem lowered_close {hook : Hook Detachment} {levels : Levels} (wellFormed : t₀.WellFormed first)
    (h : Roster first (Atop t₀) scene.backend hs) (holding : hook.Holding levels xs) (hmem : ∀ x ∈ xs, x ∈ hs)
    (unique : (xs.map Holder.serial).Nodup) {name : String} (hheld : t₀.overrides.get (canonical name) ≠ none)
    (sameContext : Bool) (check : Option (Scene Surroundings → Except Fault Unit)) :
    Lowered scene.backend.tree (hook.close telling sameContext check scene).2.2.backend.tree name none := by
  have hclosed := Roster.lowered_closeAll (Surroundings.tell scene.tags) wellFormed hheld xs hook.attached h hmem
    unique
  rw [← holding.recorders] at hclosed
  rw [close_open holding.opened sameContext check scene]
  exact hclosed

end Hook

end LogAssay
