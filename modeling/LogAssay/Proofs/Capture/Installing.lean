import LogAssay.Proofs.Capture.Unwinding
import LogAssay.Proofs.Logger.Roster

/-!
# Installing captures of the tree

Installing a capture either puts an attachment for each of its channels on the roster, or takes back whatever it
had attached and fails. Closing the hook takes its attachments off the roster, in its own context or in another
one, whatever comes of the check. Reports go to whoever hears them, and leave the roster alone.

## Main statements

* `install_tree`: all that an installation can do.
* `close_tree`: all that closing an open hook does.
-/

namespace LogAssay

open LoggerTree (Holder)

/-! ## Reports on the tree -/

namespace Surroundings

/-- The tree, with reports that are logged on it. -/
abbrev telling : Ambience → Backend Surroundings Detachment := reporting treeBackend

theorem tree_tellAll (b : Backend Surroundings Detachment) (a : Ambience) (reports : List Diagnostic)
    (s : Surroundings) : ((reporting b a).tellAll reports s).tree = s.tree :=
  Backend.tellAll_keeps (f := tree) (fun _ _ => rfl) reports s

theorem nextSerial_tellAll (b : Backend Surroundings Detachment) (a : Ambience) (reports : List Diagnostic)
    (s : Surroundings) : ((reporting b a).tellAll reports s).nextSerial = s.nextSerial :=
  Backend.tellAll_keeps (f := nextSerial) (fun _ _ => rfl) reports s

end Surroundings

/-- Reports leave the roster alone. -/
theorem Roster.tellAll {first : Nat} {P : LoggerTree → List Holder → Prop} {around : Surroundings} {hs : List Holder}
    (h : Roster first P around hs) (b : Backend Surroundings Detachment) (a : Ambience) (reports : List Diagnostic) :
    Roster first P ((Surroundings.reporting b a).tellAll reports around) hs :=
  h.congr (Surroundings.tree_tellAll b a reports around) (Surroundings.nextSerial_tellAll b a reports around)

namespace Hook

open Surroundings (telling)

/-- An open hook, with an attachment for each of its channels. -/
structure Holding (hook : Hook Detachment) (levels : Levels) (xs : List Holder) : Prop where
  recorders : hook.recorders = xs.map Holder.recorder
  requests : xs.map Holder.request = requests levels hook.capture hook.testId
  opened : hook.closed = false

section Install

variable {first : Nat} {P : LoggerTree → List Holder → Prop} {hs : List Holder} {scene : Scene Surroundings}

/-- What an installation leaves: the hook has its attachments, the test id is claimed, and the tags have it. -/
structure Installs (first : Nat) (P : LoggerTree → List Holder → Prop) (hs : List Holder) (levels : Levels)
    (useTestId : Bool) (capture : Nat) (scene : Scene Surroundings) (hook : Hook Detachment) (xs : List Holder)
    (scene' : Scene Surroundings) : Prop where
  holding : hook.Holding levels xs
  capture : hook.capture = capture
  testId : hook.testId = (claim useTestId scene.pool).1
  earlier : hook.earlier = scene.tags
  roster : Roster first P scene'.backend (hs ++ xs)
  tags : scene'.tags = tagged scene.tags hook.testId
  pool : scene'.pool = (claim useTestId scene.pool).2.1

/-- What a failed installation leaves: nothing is attached, and the test id is released again. -/
structure Fails (first : Nat) (P : LoggerTree → List Holder → Prop) (hs : List Holder) (useTestId : Bool)
    (scene scene' : Scene Surroundings) : Prop where
  roster : Roster first P scene'.backend hs
  tags : scene'.tags = scene.tags
  pool : scene'.pool = (claim useTestId scene.pool).2.1.release (claim useTestId scene.pool).1

/-- **An installation attaches all channels or none.** -/
theorem install_tree (kept : Kept first P) (h : Roster first P scene.backend hs) (levels : Levels)
    (useTestId : Bool) (capture : Nat) :
    (∃ hook xs scene', install telling levels useTestId capture scene = (.ok hook, scene') ∧
        Installs first P hs levels useTestId capture scene hook xs scene') ∨
      ∃ fault scene', install telling levels useTestId capture scene = (.error fault, scene') ∧
        Fails first P hs useTestId scene scene' := by
  have hentered : Roster first P (enter telling useTestId scene).2.backend hs := h.tellAll ..
  obtain ⟨fault, xs, station, hattach, hroster, hall⟩ :=
    hentered.attachAll (Surroundings.tell (enter telling useTestId scene).2.tags) kept
      (requests levels capture (claim useTestId scene.pool).1) []
  have hattaching : attaching telling levels useTestId capture scene = (fault, xs.map Holder.recorder, station) :=
    hattach
  cases fault with
  | none =>
    exact .inl ⟨_, xs, _, install_attached hattaching, ⟨rfl, hall rfl, rfl⟩, rfl, rfl, rfl, hroster, rfl, rfl⟩
  | some fault =>
    -- what was attached until then is closed again
    have hrest := hroster.closeAll (Surroundings.tell (enter telling useTestId scene).2.tags) kept xs station.attached
      (fun x hx => List.mem_append_right _ hx) hroster.unique_last
    rw [Roster.without_last hroster.unique] at hrest
    exact .inr ⟨fault, _, install_taken_back hattaching, hrest, rfl, rfl⟩

end Install

section Close

variable {first : Nat} {P : LoggerTree → List Holder → Prop} {hs xs : List Holder} {scene : Scene Surroundings}
  {hook : Hook Detachment} {levels : Levels}

/-- What closing an open hook leaves: its attachments are gone, the test id is released, and in its own context
the tags are those from before. -/
structure Closes (first : Nat) (P : LoggerTree → List Holder → Prop) (hs xs : List Holder) (sameContext : Bool)
    (scene : Scene Surroundings) (hook hook' : Hook Detachment) (scene' : Scene Surroundings) : Prop where
  closed : hook'.closed = true
  recorders : hook'.recorders = xs.map Holder.spent
  capture : hook'.capture = hook.capture
  testId : hook'.testId = hook.testId
  earlier : hook'.earlier = hook.earlier
  roster : Roster first P scene'.backend (Roster.without xs hs)
  tags : scene'.tags = if hook.testId ≠ "" ∧ sameContext then hook.earlier else scene.tags
  pool : scene'.pool = scene.pool.release hook.testId

/-- **Closing an open hook detaches all its channels.** -/
theorem close_tree (kept : Kept first P) (h : Roster first P scene.backend hs) (holding : hook.Holding levels xs)
    (hmem : ∀ x ∈ xs, x ∈ hs) (unique : (xs.map Holder.serial).Nodup) (sameContext : Bool)
    (check : Option (Scene Surroundings → Except Fault Unit)) :
    ∃ outcome hook' scene', hook.close telling sameContext check scene = (outcome, hook', scene') ∧
      Closes first P hs xs sameContext scene hook hook' scene' := by
  have hroster := h.closeAll (Surroundings.tell scene.tags) kept xs hook.attached hmem unique
  rw [← holding.recorders] at hroster
  refine ⟨_, _, _, close_open holding.opened sameContext check scene, rfl, ?_, rfl, rfl, rfl, hroster, rfl, rfl⟩
  show hook.recorders.map Recorder.ended = _
  rw [holding.recorders, List.map_map]
  rfl

end Close

end Hook

end LogAssay
