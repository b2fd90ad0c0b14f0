import LogAssay.Proofs.Capture.Unwinding

/-!
# What is heard of reports

An installation that fails may report that no test id is free, and that channels cannot be detached again. A backend is
told of each report when it is made, and whoever has attached the channel of the report hears it. So a buffer that gets
nothing while channels are attached and detached gets what is heard of these reports, and nothing else.

## Main statement

* `Hook.FailsAt.overheard`: what a buffer gets while an installation fails.
-/

namespace LogAssay

variable {σ δ ρ : Type}

/-- A buffer gets records of reports only: those that are heard of each one. -/
structure Backend.Hears (b : Backend σ δ) (buffer : σ → List ρ) (heard : Diagnostic → σ → List ρ) : Prop where
  start : ∀ request s, buffer ((b.start request).result s).2 = buffer s
  stop : ∀ d s, buffer ((b.stop d).result s).2 = buffer s
  tell : ∀ report s, buffer (b.tell report s) = buffer s ++ heard report s

/-- A report, with what was around it and the state in which it was made. -/
structure Told (σ : Type) where
  ambience : Ambience
  report : Diagnostic
  state : σ

/-- What is heard of a report. -/
def Told.heardBy (heard : Ambience → Diagnostic → σ → List ρ) (t : Told σ) : List ρ :=
  heard t.ambience t.report t.state

/-- The reports that a backend is told, one after the other. -/
def Backend.telling (b : Backend σ δ) (a : Ambience) : List Diagnostic → σ → List (Told σ)
  | [], _ => []
  | report :: reports, s => ⟨a, report, s⟩ :: b.telling a reports (b.tell report s)

/-- What a backend is told when a recorder is closed that it cannot detach. -/
def Recorder.telling (b : Backend σ δ) (a : Ambience) (r : Recorder δ) (s : σ) : List (Told σ) :=
  match r.detachment with
  | none => []
  | some d => b.telling a (report r.channel ((b.stop d).result s).1) ((b.stop d).result s).2

/-- What a backend is told when recorders are closed, one after the other. -/
def Recorder.tellingAll (b : Backend σ δ) (a : Ambience) : List (Recorder δ) → σ → List (Told σ)
  | [], _ => []
  | r :: rs, s => r.telling b a s ++ tellingAll b a rs (r.letGo b s)

/-! ## Reports -/

/-- The reports on recorders that were closed: some could not be detached, each of them is reported once, in order. -/
def Recorder.Failing (rs : List (Recorder δ)) (reports : List Diagnostic) : Prop :=
  ∃ failing : List (String × Fault), reports = failing.map (fun (channel, fault) => .detachFailed channel fault) ∧
    (failing.map (·.1)).Sublist (rs.map (·.channel))

section Reports

variable (b : Backend σ δ) (a : Ambience)

theorem Backend.map_report_telling : ∀ (reports : List Diagnostic) (s : σ),
    (b.telling a reports s).map Told.report = reports
  | [], _ => rfl
  | report :: reports, s => congrArg (report :: ·) (map_report_telling reports (b.tell report s))

theorem Recorder.failing_telling (r : Recorder δ) (s : σ) : Failing [r] ((r.telling b a s).map Told.report) := by
  rw [telling]
  split
  · exact ⟨[], rfl, List.nil_sublist _⟩
  · next d _ =>
    rw [Backend.map_report_telling]
    cases ((b.stop d).result s).1 with
    | ok _ => exact ⟨[], rfl, List.nil_sublist _⟩
    | error fault => exact ⟨[(r.channel, fault)], rfl, List.Sublist.refl _⟩

theorem Recorder.failing_tellingAll : ∀ (rs : List (Recorder δ)) (s : σ),
    Failing rs ((tellingAll b a rs s).map Told.report)
  | [], _ => ⟨[], rfl, List.nil_sublist _⟩
  | r :: rs, s => by
    obtain ⟨failing, hfailing, hsub⟩ := failing_telling b a r s
    obtain ⟨failing', hfailing', hsub'⟩ := failing_tellingAll rs (r.letGo b s)
    refine ⟨failing ++ failing', ?_, ?_⟩
    · rw [tellingAll, List.map_append, hfailing, hfailing', List.map_append]
    · rw [List.map_append]
      exact hsub.append hsub'

end Reports

/-! ## Buffers -/

section Hears

variable {b : Backend σ δ} {buffer : σ → List ρ} {a : Ambience} {heard : Ambience → Diagnostic → σ → List ρ}

theorem Backend.Hears.tellAll (hears : b.Hears buffer (heard a)) : ∀ (reports : List Diagnostic) (s : σ),
    buffer (b.tellAll reports s) = buffer s ++ (b.telling a reports s).flatMap (Told.heardBy heard)
  | [], s => (List.append_nil _).symm
  | report :: reports, s => by
    rw [telling, List.flatMap_cons, ← List.append_assoc]
    refine (tellAll hears reports (b.tell report s)).trans ?_
    rw [hears.tell]
    rfl

/-- Attaching channels adds nothing. -/
theorem Station.buffer_attachAll (hears : b.Hears buffer (heard a)) : ∀ (requests : List Request) (s : Station σ),
    buffer (attachAll b requests s).2.2.backend = buffer s.backend
  | [], _ => rfl
  | request :: requests, s => by
    have hstart := hears.start request s.backend
    rcases attach_cases b request s with ⟨-, h⟩ | ⟨fault, failed, hfail, h⟩ | ⟨d, backend, hok, h⟩
    · rw [attachAll, h]
    · rw [hfail] at hstart
      rw [attachAll, h]
      exact hstart
    · rw [hok] at hstart
      rw [attachAll, h]
      exact (buffer_attachAll hears requests _).trans hstart

/-- Closing a recorder adds what is heard of it if it cannot be detached. -/
theorem Recorder.buffer_letGo (hears : b.Hears buffer (heard a)) (r : Recorder δ) (s : σ) :
    buffer (r.letGo b s) = buffer s ++ (r.telling b a s).flatMap (Told.heardBy heard) := by
  cases hd : r.detachment with
  | none =>
    rw [letGo, telling, hd]
    exact (List.append_nil _).symm
  | some d =>
    rw [letGo_open b hd, telling, hd, hears.tellAll, hears.stop]

/-- **Closing recorders** adds what is heard of those that cannot be detached. -/
theorem Recorder.buffer_foldl (hears : b.Hears buffer (heard a)) : ∀ (rs : List (Recorder δ)) (s : σ),
    buffer (rs.foldl (letGo b) s) = buffer s ++ (tellingAll b a rs s).flatMap (Told.heardBy heard)
  | [], s => (List.append_nil _).symm
  | r :: rs, s => by
    rw [List.foldl_cons, buffer_foldl hears rs, buffer_letGo hears, tellingAll, List.flatMap_append,
      List.append_assoc]

end Hears

namespace Hook

/-- What a buffer gets while an installation fails: what is heard of the test ids running out, under the tags from
before, and then of channels that cannot be detached, the last one first, under those of the installation. -/
def Overheard (b : Ambience → Backend σ δ) (useTestId : Bool) (scene : Scene σ) (rs : List (Recorder δ))
    (desk : Desk σ) (heard : Ambience → Diagnostic → σ → List ρ) (before after : List ρ) : Prop :=
  let claimed : Ambience := { tags := scene.tags, pool := (claim useTestId scene.pool).2.1 }
  let failed : Ambience := desk.scene.toAmbience
  let claiming := (b claimed).telling claimed (claim useTestId scene.pool).2.2 scene.backend
  let detaching := Recorder.tellingAll (b failed) failed rs.reverse desk.scene.backend
  after = before ++ (claiming ++ detaching).flatMap (Told.heardBy heard) ∧
    claiming.map Told.report = (claim useTestId scene.pool).2.2 ∧
    Recorder.Failing rs.reverse (detaching.map Told.report)

/-- **What a buffer gets while an installation fails.** -/
theorem FailsAt.overheard {b : Ambience → Backend σ δ} {levels : Levels} {useTestId : Bool} {capture : Nat}
    {scene : Scene σ} {fault : Fault} {rs : List (Recorder δ)} {desk : Desk σ}
    (h : FailsAt b levels useTestId capture scene fault rs desk) {buffer : σ → List ρ}
    {heard : Ambience → Diagnostic → σ → List ρ} (hears : ∀ a, (b a).Hears buffer (heard a)) :
    Overheard b useTestId scene rs desk heard (buffer scene.backend)
      (buffer (rs.reverse.foldl (Recorder.letGo (b desk.scene.toAmbience)) desk.scene.backend)) := by
  obtain ⟨earlier, channel, severity, later, station, -, -, hattach, hstart⟩ := h.cause
  have hentered := (hears ⟨scene.tags, (claim useTestId scene.pool).2.1⟩).tellAll
    (claim useTestId scene.pool).2.2 scene.backend
  have hattached := Station.buffer_attachAll (hears desk.scene.toAmbience)
    (requests earlier capture (claim useTestId scene.pool).1) { backend := (enter b useTestId scene).2.backend }
  have hstarted := (hears desk.scene.toAmbience).start
    ⟨channel, severity, (claim useTestId scene.pool).1, .capture capture⟩ station.backend
  have hclosed := Recorder.buffer_foldl (hears desk.scene.toAmbience) rs.reverse desk.scene.backend
  rw [hattach] at hattached
  rw [hstart] at hstarted
  refine ⟨?_, Backend.map_report_telling _ _ _ _, Recorder.failing_tellingAll _ _ _ _⟩
  rw [hclosed, List.flatMap_append, ← List.append_assoc]
  exact congrArg (· ++ _) (hstarted.trans (hattached.trans hentered))

end Hook

end LogAssay
