import LogAssay.Attachment
import LogAssay.Settings.Levels
import LogAssay.Tags
import LogAssay.TestId
import LogAssay.TestId.Pool

/-!
# Hooks

Installing a capture claims a test id, tags the context with it, and attaches the channels one by one; what
comes of this is a hook. Each thing that was acquired goes on a stack with what takes it back. If a channel
cannot be attached, the stack is unwound at once. Closing the hook unwinds it later: it detaches the channels, the
last one first, then takes the tag back, then releases the id. What was captured is checked only after that. A tag
can be taken back only in the context that it was set in. If that fails, the rest is done all the same, except for
the check. Closing a hook again does nothing.

Whatever a backend is asked or told meanwhile, it finds the tags and the test ids of that moment.

## Main statement

* `close_closed`: closing a closed hook does nothing.
-/

namespace LogAssay

variable {σ δ : Type}

/-- What a backend finds around it: the tags in force and the pool of test ids. -/
structure Ambience where
  tags : Tags := []
  pool : TestId.Pool := {}

/-- What an installation changes: the state of its backend, the tags in force, and the pool of test ids. -/
structure Scene (σ : Type) extends Ambience where
  backend : σ

/-- A scene, and the channels that an interceptor has attached. -/
structure Desk (σ : Type) where
  scene : Scene σ
  attached : List String := []

namespace Desk

/-- What a backend is asked for next. -/
def station (d : Desk σ) : Station σ := ⟨d.attached, d.scene.backend⟩

/-- The desk after a backend has done something. -/
def withStation (d : Desk σ) (station : Station σ) : Desk σ :=
  ⟨{ d.scene with backend := station.backend }, station.attached⟩

end Desk

/-! ## Taking things back -/

/-- What takes back one thing that an installation has acquired. -/
inductive Undoing (δ : Type) where
  | release (testId : String)
  /-- Puts back the tags from before. -/
  | untag (earlier : Tags)
  | detach (recorder : Recorder δ)

/-- Takes one thing back, in the context that it was acquired in or in another one, where the tags in force are out
of reach. Recorders always close. -/
def Undoing.perform (b : Ambience → Backend σ δ) (sameContext : Bool) :
    Undoing δ → Desk σ → Except Fault Unit × Desk σ
  | release testId, d => (.ok (), { d with scene := { d.scene with pool := d.scene.pool.release testId } })
  | untag earlier, d =>
    if sameContext then (.ok (), { d with scene := { d.scene with tags := earlier } })
    else (.error .foreignContext, d)
  | detach recorder, d => (.ok (), d.withStation (recorder.close (b d.scene.toAmbience) d.station).2.2)

/-- What came of taking things back: the last fault, what was taken back in which scene, and the desk behind it. -/
structure Unwinding (σ δ : Type) where
  outcome : Except Fault Unit
  steps : List (Undoing δ × Scene σ)
  desk : Desk σ

/-- The last fault of two outcomes, if there is one. -/
def lastFault (first second : Except Fault Unit) : Except Fault Unit :=
  match second with
  | .ok () => first
  | .error fault => .error fault

/-- Takes things back one after the other. A fault does not keep the others from being taken back. -/
def unwind (b : Ambience → Backend σ δ) (sameContext : Bool) : List (Undoing δ) → Desk σ → Unwinding σ δ
  | [], d => ⟨.ok (), [], d⟩
  | u :: others, d =>
    let here := u.perform b sameContext d
    let rest := unwind b sameContext others here.2
    ⟨lastFault here.1 rest.outcome, (u, d.scene) :: rest.steps, rest.desk⟩

/-- What an installation has acquired, in order: its test id, its tag, and its recorders. -/
def acquired (testId : String) (earlier : Tags) (rs : List (Recorder δ)) : List (Undoing δ) :=
  .release testId :: ((if testId = "" then [] else [.untag earlier]) ++ rs.map .detach)

/-! ## Installing and closing -/

/-- An installed capture: the number of the capture, its test id, its recorders in the order of attachment with
the channels of its interceptor, and the tags that were in force before. -/
structure Hook (δ : Type) where
  capture : Nat
  testId : String
  recorders : List (Recorder δ)
  attached : List String
  earlier : Tags
  closed : Bool := false

namespace Hook

def requests (levels : Levels) (capture : Nat) (testId : String) : List Request :=
  levels.map fun (channel, severity) => ⟨channel, severity, testId, .capture capture⟩

/-- The tags in force during an installation. -/
def tagged (tags : Tags) (testId : String) : Tags :=
  if testId = "" then tags else tags.put TestId.key (.text testId)

/-- Claims a test id, if one is wanted. -/
def claim (useTestId : Bool) (pool : TestId.Pool) : String × TestId.Pool × List Diagnostic :=
  if useTestId then pool.claim else ("", pool, [])

/-- What attaching the channels begins with: the test id is claimed, which may have been reported, and is in
force. -/
def enter (b : Ambience → Backend σ δ) (useTestId : Bool) (scene : Scene σ) : String × Scene σ :=
  let (testId, pool, reports) := claim useTestId scene.pool
  (testId, {
    backend := (b { scene.toAmbience with pool := pool }).tellAll reports scene.backend
    tags := tagged scene.tags testId
    pool := pool })

def install (b : Ambience → Backend σ δ) (levels : Levels) (useTestId : Bool) (capture : Nat)
    (scene : Scene σ) : Except Fault (Hook δ) × Scene σ :=
  let (testId, entered) := enter b useTestId scene
  let (failure, recorders, station) :=
    Station.attachAll (b entered.toAmbience) (requests levels capture testId) { backend := entered.backend }
  let desk := (Desk.mk entered []).withStation station
  match failure with
  | none => (.ok ⟨capture, testId, recorders, desk.attached, scene.tags, false⟩, desk.scene)
  | some fault =>
    let u := unwind b true (acquired testId scene.tags recorders).reverse desk
    (u.outcome >>= fun () => .error fault, u.desk.scene)

/-- Closes a hook in the context that it was installed in or in another one. If it is wanted, what was captured is
checked at the end, in the scene that is left. -/
def close (b : Ambience → Backend σ δ) (sameContext : Bool) (check : Option (Scene σ → Except Fault Unit))
    (h : Hook δ) (scene : Scene σ) : Except Fault Unit × Hook δ × Scene σ :=
  if h.closed then (.ok (), h, scene)
  else
    let u := unwind b sameContext (acquired h.testId h.earlier h.recorders).reverse ⟨scene, h.attached⟩
    (u.outcome >>= fun () => (check.map fun verify => verify u.desk.scene).getD (.ok ()),
      { h with recorders := h.recorders.map Recorder.ended, attached := u.desk.attached, closed := true },
      u.desk.scene)

/-- Closing a closed hook does nothing. -/
theorem close_closed (b : Ambience → Backend σ δ) (sameContext : Bool)
    (check : Option (Scene σ → Except Fault Unit)) {h : Hook δ} (closed : h.closed = true) (scene : Scene σ) :
    h.close b sameContext check scene = (.ok (), h, scene) := by
  simp [close, closed]

end Hook

end LogAssay
