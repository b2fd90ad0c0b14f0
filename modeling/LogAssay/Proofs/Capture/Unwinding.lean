import LogAssay.Proofs.Attachment.Bench
import LogAssay.Proofs.TestId.Claiming
import LogAssay.Session.Surroundings

/-!
# Taking installations back

An installation acquires things one after the other: a test id, a tag, and a recorder for each channel. Whatever it
has acquired is taken back in reverse order, each thing in a step of its own, and each step is done whatever came of
those before it. This holds of a hook that is closed as well as of an installation that fails on the way, and for
every backend, whether it can let go of its channels or not. While the recorders are closed, tags and test ids are as
they were, so what all steps leave can be told at once.

## Main statements

* `close_open`: all that closing an open hook does.
* `close_releases`: what closing a hook does in any case.
* `install_error`: an installation that fails unwinds what it has acquired until then.
-/

namespace LogAssay

variable {σ δ : Type}

/-! ## Attaching with any backend -/

namespace Station

variable {b : Backend σ δ}

/-- Attaching a channel fails if it is attached already, or if the backend cannot attach it. -/
theorem attach_cases (b : Backend σ δ) (request : Request) (s : Station σ) :
    (request.channel ∈ s.attached ∧ s.attach b request = (.error (.alreadyAttached request.channel), s)) ∨
    (∃ fault failed, (b.start request).result s.backend = (.error fault, failed) ∧
      s.attach b request = (.error fault, { s with backend := failed })) ∨
    ∃ d backend, (b.start request).result s.backend = (.ok d, backend) ∧
      s.attach b request = (.ok ⟨request.channel, some d⟩, ⟨request.channel :: s.attached, backend⟩) := by
  by_cases hattached : request.channel ∈ s.attached
  · exact .inl ⟨hattached, attach_attached b hattached⟩
  · rcases hstart : (b.start request).result s.backend with ⟨fault | d, backend⟩
    · exact .inr (.inl ⟨fault, backend, rfl, attach_refused hattached hstart⟩)
    · exact .inr (.inr ⟨d, backend, rfl, attach_free hattached hstart⟩)

/-- **All that attaching channels can do**: it succeeds for every channel, or for those up to one that fails. -/
theorem attachAll_cases (b : Backend σ δ) : ∀ (requests : List Request) (s : Station σ),
    (∃ rs s', attachAll b requests s = (none, rs, s') ∧ rs.map (·.channel) = requests.map (·.channel) ∧
      (∀ r ∈ rs, r.closed = false) ∧ ∀ c, c ∈ s'.attached ↔ c ∈ requests.map (·.channel) ∨ c ∈ s.attached) ∨
    ∃ fault rs s' earlier request later station, attachAll b requests s = (some fault, rs, s') ∧
      requests = earlier ++ request :: later ∧ attachAll b earlier s = (none, rs, station) ∧
      station.attach b request = (.error fault, s')
  | [], s => .inl ⟨[], s, rfl, rfl, nofun, fun c => by simp⟩
  | request :: requests, s => by
    rcases attach_cases b request s with ⟨-, hfail⟩ | ⟨fault, failed, -, hfail⟩ | ⟨d, backend, -, hattach⟩
    · refine .inr ⟨_, [], s, [], request, requests, s, ?_, rfl, rfl, hfail⟩
      rw [attachAll, hfail]
    · refine .inr ⟨fault, [], _, [], request, requests, s, ?_, rfl, rfl, hfail⟩
      rw [attachAll, hfail]
    · rcases attachAll_cases b requests ⟨request.channel :: s.attached, backend⟩ with
        ⟨rs, s', hrest, hchannels, hopen, hattached⟩ |
        ⟨fault, rs, s', earlier, failing, later, station, hrest, rfl, hearlier, hfail⟩
      · refine .inl ⟨⟨request.channel, some d⟩ :: rs, s', ?_, ?_, ?_, fun c => ?_⟩
        · rw [attachAll, hattach]
          simp only [hrest]
        · rw [List.map_cons, List.map_cons, hchannels]
        · exact List.forall_mem_cons.2 ⟨rfl, hopen⟩
        · rw [hattached c, List.map_cons, List.mem_cons, List.mem_cons, or_left_comm, or_assoc]
      · refine .inr ⟨fault, ⟨request.channel, some d⟩ :: rs, s', request :: earlier, failing, later, station,
          ?_, rfl, ?_, hfail⟩
        · rw [attachAll, hattach]
          simp only [hrest]
        · rw [attachAll, hattach]
          simp only [hearlier]

/-- What attaching channels leaves, if it succeeds for every channel. -/
theorem attachAll_ok {requests : List Request} {s s' : Station σ} {rs : List (Recorder δ)}
    (h : attachAll b requests s = (none, rs, s')) :
    rs.map (·.channel) = requests.map (·.channel) ∧ (∀ r ∈ rs, r.closed = false) ∧
      ∀ c, c ∈ s'.attached ↔ c ∈ requests.map (·.channel) ∨ c ∈ s.attached := by
  rcases attachAll_cases b requests s with ⟨rs', station, hok, hattached⟩ | ⟨fault, rs', station, -, -, -, -, hfail, -⟩
  · cases h.symm.trans hok
    exact hattached
  · cases h.symm.trans hfail

end Station

/-! ## Steps -/

section Unwind

variable (b : Ambience → Backend σ δ) (sameContext : Bool)

theorem lastFault_ok (x : Except Fault Unit) : lastFault (.ok ()) x = x := by
  cases x with
  | error fault => rfl
  | ok _ => rfl

theorem lastFault_assoc (x y z : Except Fault Unit) :
    lastFault x (lastFault y z) = lastFault (lastFault x y) z := by
  cases z with
  | error fault => rfl
  | ok _ => rfl

theorem steps_unwind : ∀ (us : List (Undoing δ)) (d : Desk σ),
    (unwind b sameContext us d).steps.map (·.1) = us
  | [], _ => rfl
  | _ :: us, _ => congrArg (_ :: ·) (steps_unwind us _)

theorem unwind_append : ∀ (us vs : List (Undoing δ)) (d : Desk σ),
    let first := unwind b sameContext us d
    let rest := unwind b sameContext vs first.desk
    unwind b sameContext (us ++ vs) d
      = ⟨lastFault first.outcome rest.outcome, first.steps ++ rest.steps, rest.desk⟩
  | [], vs, d => by
    show unwind b sameContext vs d = ⟨lastFault (.ok ()) _, _, _⟩
    rw [lastFault_ok]
    rfl
  | u :: us, vs, d => by
    have hrest := unwind_append us vs (u.perform b sameContext d).2
    dsimp only at hrest ⊢
    rw [List.cons_append, unwind, hrest, lastFault_assoc]
    rfl

/-- The desk after recorders were closed, all of them under the same tags. -/
def Desk.closing (d : Desk σ) (rs : List (Recorder δ)) : Desk σ :=
  d.withStation (Recorder.closeAll (b d.scene.toAmbience) rs d.station)

/-- Closing recorders one after the other never fails, and does not wait for tags and test ids. -/
theorem unwind_detach : ∀ (rs : List (Recorder δ)) (d : Desk σ),
    let u := unwind b sameContext (rs.map .detach).reverse d
    u.outcome = .ok () ∧ u.desk = d.closing b rs ∧
      ∀ step ∈ u.steps, step.2.tags = d.scene.tags ∧ step.2.pool = d.scene.pool
  | [], _ => ⟨rfl, rfl, nofun⟩
  | r :: rs, d => by
    obtain ⟨houtcome, hdesk, hsteps⟩ := unwind_detach rs d
    rw [List.map_cons, List.reverse_cons]
    dsimp only
    rw [unwind_append, houtcome, hdesk]
    refine ⟨rfl, rfl, fun step hstep => ?_⟩
    rcases List.mem_append.1 hstep with hstep | hstep
    · exact hsteps step hstep
    · rw [List.mem_singleton.1 hstep]
      exact ⟨rfl, rfl⟩

theorem reverse_acquired (testId : String) (earlier : Tags) (rs : List (Recorder δ)) :
    (acquired testId earlier rs).reverse
      = (rs.map .detach).reverse ++ ((if testId = "" then [] else [.untag earlier]) ++ [.release testId]) := by
  rw [acquired, List.reverse_cons, List.reverse_append, List.append_assoc]
  split
  · rfl
  · rfl

/-- **Recorders are closed before the tag is taken back and the test id is released.** -/
theorem unwind_acquired_detach (testId : String) (earlier : Tags) (rs : List (Recorder δ)) (d : Desk σ) :
    ∀ step ∈ (unwind b sameContext (acquired testId earlier rs).reverse d).steps,
      (∃ r, step.1 = .detach r) → step.2.tags = d.scene.tags ∧ step.2.pool = d.scene.pool := by
  rw [reverse_acquired, unwind_append]
  rintro step hstep ⟨r, hr⟩
  rcases List.mem_append.1 hstep with hstep | hstep
  · exact (unwind_detach b sameContext rs d).2.2 step hstep
  · -- the other steps close no recorder
    have hmem := List.mem_map_of_mem (f := fun step : Undoing δ × Scene σ => step.1) hstep
    rw [steps_unwind, hr] at hmem
    split at hmem <;> simp at hmem

/-- **What unwinding an installation leaves**: the recorders are closed, the test id is released in any case, and the
tags are put back, unless they are out of reach. -/
theorem unwind_acquired (testId : String) (earlier : Tags) (rs : List (Recorder δ)) (d : Desk σ) :
    let u := unwind b sameContext (acquired testId earlier rs).reverse d
    u.outcome = (if testId ≠ "" ∧ sameContext = false then .error .foreignContext else .ok ()) ∧
      u.desk.attached = (d.closing b rs).attached ∧
      u.desk.scene = { (d.closing b rs).scene with
        tags := if testId ≠ "" ∧ sameContext = true then earlier else d.scene.tags
        pool := d.scene.pool.release testId } := by
  obtain ⟨houtcome, hdesk, -⟩ := unwind_detach b sameContext rs d
  dsimp only
  rw [reverse_acquired, unwind_append, houtcome, hdesk]
  by_cases hid : testId = ""
  · simp only [hid, ne_eq, not_true, false_and, if_false]
    exact ⟨rfl, rfl, rfl⟩
  · cases sameContext with
    | true =>
      simp only [ne_eq, hid, not_false_eq_true, true_and, if_true, Bool.true_eq_false, if_false]
      exact ⟨rfl, rfl, rfl⟩
    | false =>
      simp only [ne_eq, hid, not_false_eq_true, true_and, if_true, Bool.false_eq_true, if_false]
      exact ⟨rfl, rfl, rfl⟩

end Unwind

namespace Hook

/-! ## Entering -/

section Enter

variable (b : Ambience → Backend σ δ) (useTestId : Bool) (scene : Scene σ)

theorem testId_enter : (enter b useTestId scene).1 = (claim useTestId scene.pool).1 := rfl

theorem tags_enter : (enter b useTestId scene).2.tags = tagged scene.tags (claim useTestId scene.pool).1 := rfl

/-- Releasing the test id of an installation gives back what was held. -/
theorem held_release_claim (pool : TestId.Pool) {q : TestId.Pool} (h : q.held = (claim useTestId pool).2.1.held) :
    (q.release (claim useTestId pool).1).held = pool.held := by
  cases useTestId with
  | false =>
    show (q.release "").held = pool.held
    rw [TestId.Pool.release_empty]
    exact h
  | true => exact TestId.Pool.held_release h

/-- Where the tags are in reach, taking back a tag gives the tags from before. -/
theorem untag_tagged (tags : Tags) (testId : String) :
    (if testId ≠ "" ∧ true = true then tags else tagged tags testId) = tags := by
  by_cases hid : testId = ""
  · simp [hid, tagged]
  · simp [hid]

end Enter

/-! ## Installing -/

section Install

variable {b : Ambience → Backend σ δ} {levels : Levels} {useTestId : Bool} {capture : Nat} {scene scene' : Scene σ}

/-- What attaching the channels of an installation comes to. -/
def attaching (b : Ambience → Backend σ δ) (levels : Levels) (useTestId : Bool) (capture : Nat) (scene : Scene σ) :
    Option Fault × List (Recorder δ) × Station σ :=
  let (testId, entered) := enter b useTestId scene
  Station.attachAll (b entered.toAmbience) (requests levels capture testId) { backend := entered.backend }

theorem install_attached {rs : List (Recorder δ)} {station : Station σ}
    (h : attaching b levels useTestId capture scene = (none, rs, station)) :
    install b levels useTestId capture scene
      = (.ok ⟨capture, (enter b useTestId scene).1, rs, station.attached, scene.tags, false⟩,
        { (enter b useTestId scene).2 with backend := station.backend }) := by
  rw [attaching] at h
  simp only [install, h]
  rfl

/-- An installation that fails ends with the fault of its backend, since in its own context unwinding does not fail. -/
theorem install_failed {fault : Fault} {rs : List (Recorder δ)} {station : Station σ}
    (h : attaching b levels useTestId capture scene = (some fault, rs, station)) :
    install b levels useTestId capture scene
      = (.error fault, (unwind b true (acquired (enter b useTestId scene).1 scene.tags rs).reverse
        ⟨{ (enter b useTestId scene).2 with backend := station.backend }, station.attached⟩).desk.scene) := by
  have houtcome := (unwind_acquired b true (enter b useTestId scene).1 scene.tags rs
    ⟨{ (enter b useTestId scene).2 with backend := station.backend }, station.attached⟩).1
  rw [if_neg (by simp)] at houtcome
  rw [attaching] at h
  simp only [install, h]
  have hfault : ∀ {x : Except Fault Unit}, x = .ok () → (x >>= fun () => .error fault : Except Fault (Hook δ))
      = .error fault := fun hx => by rw [hx]; rfl
  exact Prod.ext (hfault houtcome) rfl

/-- **All that a failing installation does**: its recorders are closed again, and its test id is released. -/
theorem install_taken_back {fault : Fault} {rs : List (Recorder δ)} {station : Station σ}
    (h : attaching b levels useTestId capture scene = (some fault, rs, station)) :
    install b levels useTestId capture scene = (.error fault, {
      backend := (Recorder.closeAll (b (enter b useTestId scene).2.toAmbience) rs station).backend
      tags := scene.tags
      pool := (claim useTestId scene.pool).2.1.release (claim useTestId scene.pool).1 }) := by
  obtain ⟨-, -, hscene⟩ := unwind_acquired b true (enter b useTestId scene).1 scene.tags rs
    ⟨{ (enter b useTestId scene).2 with backend := station.backend }, station.attached⟩
  rw [install_failed h, hscene, tags_enter, ← testId_enter b useTestId scene, untag_tagged]
  rfl

/-- **An installation attaches its channels**, or it fails where this fails. -/
theorem install_cases (b : Ambience → Backend σ δ) (levels : Levels) (useTestId : Bool) (capture : Nat)
    (scene : Scene σ) :
    (∃ rs station, attaching b levels useTestId capture scene = (none, rs, station) ∧
      (install b levels useTestId capture scene).1
        = .ok ⟨capture, (enter b useTestId scene).1, rs, station.attached, scene.tags, false⟩) ∨
    ∃ fault rs station, attaching b levels useTestId capture scene = (some fault, rs, station) ∧
      (install b levels useTestId capture scene).1 = .error fault := by
  rcases hattach : attaching b levels useTestId capture scene with ⟨failure, rs, station⟩
  cases failure with
  | none => exact .inl ⟨rs, station, rfl, by rw [install_attached hattach]⟩
  | some fault => exact .inr ⟨fault, rs, station, rfl, by rw [install_failed hattach]⟩

/-- An installed hook is open, and so is its recorder for each channel. -/
theorem opened_of_install {h : Hook δ} (installed : install b levels useTestId capture scene = (.ok h, scene')) :
    h.closed = false ∧ h.recorders.map (·.channel) = levels.map (·.1) ∧ ∀ r ∈ h.recorders, r.closed = false := by
  rcases install_cases b levels useTestId capture scene with
    ⟨rs, station, hattach, houtcome⟩ | ⟨fault, rs, station, hattach, houtcome⟩
  · rw [installed] at houtcome
    cases houtcome
    obtain ⟨hchannels, hopen, -⟩ := Station.attachAll_ok hattach
    refine ⟨rfl, ?_, hopen⟩
    rw [hchannels, requests, List.map_map]
    rfl
  · rw [installed] at houtcome
    cases houtcome

end Install

/-! ## Closing -/

section Close

variable {b : Ambience → Backend σ δ} {h : Hook δ}

/-- The check that is made when a hook is closed, if one is wanted. -/
def verdict (check : Option (Scene σ → Except Fault Unit)) (scene : Scene σ) : Except Fault Unit :=
  (check.map fun verify => verify scene).getD (.ok ())

/-- **All that closing an open hook does**: the recorders are closed under the tags that are in force, the test id is
released, and the tags are put back, unless they are out of reach. -/
theorem close_open (opened : h.closed = false) (sameContext : Bool) (check : Option (Scene σ → Except Fault Unit))
    (scene : Scene σ) :
    let station := Recorder.closeAll (b scene.toAmbience) h.recorders ⟨h.attached, scene.backend⟩
    let scene' : Scene σ := {
      backend := station.backend
      tags := if h.testId ≠ "" ∧ sameContext = true then h.earlier else scene.tags
      pool := scene.pool.release h.testId }
    h.close b sameContext check scene
      = (if h.testId ≠ "" ∧ sameContext = false then .error .foreignContext else verdict check scene',
        { h with recorders := h.recorders.map Recorder.ended, attached := station.attached, closed := true },
        scene') := by
  obtain ⟨houtcome, hattached, hscene⟩ :=
    unwind_acquired b sameContext h.testId h.earlier h.recorders ⟨scene, h.attached⟩
  dsimp only
  rw [close, if_neg (by rw [opened]; exact Bool.false_ne_true)]
  dsimp only
  rw [houtcome, hattached, hscene]
  refine Prod.ext ?_ rfl
  by_cases hlost : h.testId ≠ "" ∧ sameContext = false
  · rw [if_pos hlost, if_pos hlost]
    rfl
  · rw [if_neg hlost, if_neg hlost]
    rfl

/-- **Closing a hook takes everything back.** Whether channels can be detached or not, whether the tag can be taken back
or not, and whatever comes of the check, if it is wanted:

* the hook is closed, every recorder for one of its channels is closed, and the test id is not held any more;
* what was acquired is taken back in steps: first the recorders are closed, the last one first, while tags and
  test ids are as they were, then the tag is taken back, then the test id is released;
* each channel is detached once, by a backend that finds these tags and test ids;
* the outcome is that of the check on the scene that is left, if it is wanted and the tag could be taken back, and no
  check is made otherwise;
* closing the hook again does nothing. -/
theorem close_releases {levels : Levels} {useTestId : Bool} {capture : Nat} {before after : Scene σ}
    (installed : install b levels useTestId capture before = (.ok h, after)) (scene : Scene σ)
    (sameContext verify : Bool) (check : Scene σ → Except Fault Unit) :
    let closing := h.close b sameContext (if verify then some check else none) scene
    let h' := closing.2.1
    let scene' := closing.2.2
    let u := unwind b sameContext (acquired h.testId h.earlier h.recorders).reverse ⟨scene, h.attached⟩
    (h'.closed = true ∧ h'.recorders.map (·.channel) = levels.map (·.1) ∧ (∀ r ∈ h'.recorders, r.closed = true) ∧
      (h.testId ≠ "" → h.testId ∉ scene'.pool.held)) ∧
    (scene' = u.desk.scene ∧
      u.steps.map (·.1) = h.recorders.reverse.map .detach
        ++ ((if h.testId = "" then [] else [.untag h.earlier]) ++ [.release h.testId]) ∧
      ∀ step ∈ u.steps, (∃ r, step.1 = .detach r) → step.2.tags = scene.tags ∧ step.2.pool = scene.pool) ∧
    ((∀ r ∈ h.recorders, r.closed = false) ∧
      scene'.backend = h.recorders.reverse.foldl (Recorder.letGo (b scene.toAmbience)) scene.backend) ∧
    closing.1 = (if h.testId ≠ "" ∧ sameContext = false then .error .foreignContext
      else if verify then check scene' else .ok ()) ∧
    ∀ (b' : Ambience → Backend σ δ) (sameContext' : Bool) (check' : Option (Scene σ → Except Fault Unit))
      (later : Scene σ), h'.close b' sameContext' check' later = (.ok (), h', later) := by
  obtain ⟨hopened, hchannels, hopen⟩ := opened_of_install installed
  obtain ⟨-, -, hscene⟩ := unwind_acquired b sameContext h.testId h.earlier h.recorders ⟨scene, h.attached⟩
  have hclose := close_open (b := b) hopened sameContext (if verify then some check else none) scene
  dsimp only at hclose ⊢
  rw [hclose]
  refine ⟨⟨rfl, ?_, ?_, fun hid => ?_⟩, ⟨?_, ?_, unwind_acquired_detach b sameContext _ _ _ _⟩, ⟨hopen, ?_⟩, ?_, ?_⟩
  · rw [← hchannels, List.map_map]
    rfl
  · intro r hr
    obtain ⟨r, -, rfl⟩ := List.mem_map.1 hr
    rfl
  · exact TestId.Pool.notMem_release scene.pool hid
  · rw [hscene]
    rfl
  · rw [steps_unwind, reverse_acquired, List.map_reverse]
  · exact Recorder.backend_closeAll (b scene.toAmbience) h.recorders ⟨h.attached, scene.backend⟩
  · cases verify with
    | true => rfl
    | false => rfl
  · exact fun b' sameContext' check' later => close_closed b' sameContext' check' rfl later

/-- A backend that notes what is asked of it and cannot detach, which is reported; the hook is closed in another
context, with a check. -/
theorem close_releases_clinging :
    let b := Surroundings.reporting (Surroundings.notingBackend "i" false true)
    let before : Scene Surroundings := { backend := { now := ⟨0⟩ }, tags := [("user", .text "ann")] }
    ∃ h after, install b [("a", .info), ("b", .fine)] true 0 before = (.ok h, after) ∧ h.testId = "0000" ∧
      let closing := h.close b false (some fun _ => .error .fragments) after
      closing.1 = .error .foreignContext ∧ closing.2.1.closed = true ∧
        (∀ r ∈ closing.2.1.recorders, r.closed = true) ∧ "0000" ∉ closing.2.2.pool.held ∧
        closing.2.2.backend.notes.get "i"
          = ["attach a INFO '0000'", "attach b FINE '0000'", "detach b", "detach a"] ∧
        closing.2.2.backend.notices.length = 2 := by
  intro b before
  obtain ⟨h, after, installed, hid, hnotes, hnotices⟩ : ∃ h after,
      install b [("a", .info), ("b", .fine)] true 0 before = (.ok h, after) ∧ h.testId = "0000" ∧
        (h.close b false (some fun _ => .error .fragments) after).2.2.backend.notes.get "i"
          = ["attach a INFO '0000'", "attach b FINE '0000'", "detach b", "detach a"] ∧
        (h.close b false (some fun _ => .error .fragments) after).2.2.backend.notices.length = 2 :=
    ⟨_, _, rfl, by decide +kernel, by decide +kernel, by decide +kernel⟩
  have htold : h.testId ≠ "" := by rw [hid]; decide
  obtain ⟨⟨hclosed, -, hrecorders, hreleased⟩, -, -, houtcome, -⟩ :=
    close_releases installed after false true fun _ => .error .fragments
  exact ⟨h, after, installed, hid, houtcome.trans (if_pos ⟨htold, rfl⟩), hclosed, hrecorders,
    hid ▸ hreleased htold, hnotes, hnotices⟩

end Close

/-! ## Failing installations -/

/-- The moment at which an installation fails: recorders are open for the channels in front of one that the backend
cannot attach, the test id is claimed, which may have been reported, and the tag is in force. -/
structure FailsAt (b : Ambience → Backend σ δ) (levels : Levels) (useTestId : Bool) (capture : Nat) (scene : Scene σ)
    (fault : Fault) (rs : List (Recorder δ)) (desk : Desk σ) : Prop where
  opened : ∀ r ∈ rs, r.closed = false
  cause : ∃ earlier channel severity later station,
    levels = earlier ++ (channel, severity) :: later ∧ rs.map (·.channel) = earlier.map (·.1) ∧
      Station.attachAll (b desk.scene.toAmbience) (requests earlier capture (claim useTestId scene.pool).1)
        { backend := (enter b useTestId scene).2.backend } = (none, rs, station) ∧
      ((b desk.scene.toAmbience).start ⟨channel, severity, (claim useTestId scene.pool).1, .capture capture⟩).result
        station.backend = (.error fault, desk.scene.backend)
  tags : desk.scene.tags = tagged scene.tags (claim useTestId scene.pool).1
  pool : desk.scene.pool = (claim useTestId scene.pool).2.1

/-- **An installation of different channels fails only if its backend cannot attach one of them**, and unwinds what it
has acquired until then. -/
theorem install_error {b : Ambience → Backend σ δ} {levels : Levels} (distinct : (levels.map (·.1)).Nodup)
    {useTestId : Bool} {capture : Nat} {scene scene' : Scene σ} {fault : Fault}
    (failed : install b levels useTestId capture scene = (.error fault, scene')) :
    ∃ rs desk, FailsAt b levels useTestId capture scene fault rs desk ∧
      scene' = (unwind b true (acquired (claim useTestId scene.pool).1 scene.tags rs).reverse desk).desk.scene := by
  rcases hattach : attaching b levels useTestId capture scene with ⟨failure, rs, station⟩
  cases failure with
  | none =>
    rw [install_attached hattach] at failed
    cases failed
  | some reason =>
    rw [install_failed hattach] at failed
    cases failed
    rcases Station.attachAll_cases (b (enter b useTestId scene).2.toAmbience)
        (requests levels capture (claim useTestId scene.pool).1) { backend := (enter b useTestId scene).2.backend } with
      ⟨rs', station', hall, -⟩ |
      ⟨reason', rs', failing, before, request, after, station', hfailing, hrequests, hbefore, hfail⟩
    · cases hall.symm.trans hattach
    · cases hfailing.symm.trans hattach
      -- the channels in front of the failing one are others, so it was not attached yet
      obtain ⟨earlier, rest, rfl, rfl, hrest⟩ := List.map_eq_append_iff.1 hrequests
      obtain ⟨⟨channel, severity⟩, later, rfl, rfl, rfl⟩ := List.map_eq_cons_iff.1 hrest
      obtain ⟨hchannels, hopened, hattached⟩ := Station.attachAll_ok hbefore
      have hnames : (requests earlier capture (claim useTestId scene.pool).1).map (·.channel) = earlier.map (·.1) :=
        List.map_map
      rcases Station.attach_cases (b (enter b useTestId scene).2.toAmbience)
          ⟨channel, severity, (claim useTestId scene.pool).1, .capture capture⟩ station' with
        ⟨htwice, -⟩ | ⟨reason', failed', hstart, hnew⟩ | ⟨d, backend, -, hnew⟩
      · have hmem : channel ∈ earlier.map (·.1) :=
          hnames ▸ ((hattached channel).1 htwice).resolve_right List.not_mem_nil
        rw [List.map_append, List.nodup_append] at distinct
        exact absurd rfl (distinct.2.2 channel hmem channel (by simp))
      · cases hnew.symm.trans hfail
        exact ⟨rs, _, ⟨hopened, ⟨earlier, channel, severity, later, station', rfl, hchannels.trans hnames, hbefore,
          hstart⟩, rfl, rfl⟩, rfl⟩
      · cases hnew.symm.trans hfail

/-- **Unwinding a failed installation** detaches each channel once, under the tags and with the test ids of the moment
at which it failed, and leaves the tags and the test ids from before. -/
theorem FailsAt.unwind {b : Ambience → Backend σ δ} {levels : Levels} {useTestId : Bool} {capture : Nat}
    {scene : Scene σ} {fault : Fault} {rs : List (Recorder δ)} {desk : Desk σ}
    (h : FailsAt b levels useTestId capture scene fault rs desk) :
    let scene' := (unwind b true (acquired (claim useTestId scene.pool).1 scene.tags rs).reverse desk).desk.scene
    scene'.backend = rs.reverse.foldl (Recorder.letGo (b desk.scene.toAmbience)) desk.scene.backend ∧
      scene'.tags = scene.tags ∧ scene'.pool.held = scene.pool.held := by
  obtain ⟨-, -, hscene⟩ := unwind_acquired b true (claim useTestId scene.pool).1 scene.tags rs desk
  dsimp only
  rw [hscene, h.tags, untag_tagged]
  exact ⟨Recorder.backend_closeAll (b desk.scene.toAmbience) rs desk.station, rfl,
    held_release_claim useTestId scene.pool (congrArg TestId.Pool.held h.pool)⟩

end Hook

end LogAssay
