import LogAssay.Probe.Script
import LogAssay.Proofs.Attachment.Bench

/-!
# The stages of a self-test

A self-test configures the backend, creates an interceptor, attaches its channel, emits three events and detaches the
channel. Each of these stages may fail, and so may any emission; the ways through a self-test are an inductive
relation. To say what happened, a subject is made to note each stage that is entered and how it ended; apart from its
notes it does what it did before.

## Main statement

* `run_noted`: the stages that a self-test can enter, with the support that they come to.
-/

namespace LogAssay

/-! ## What actions keep -/

/-- An action keeps a property of the state, whether it fails or not. -/
def Act.Maintains {σ α : Type} (P : σ → Prop) (a : Act σ α) : Prop := ∀ s, P s → P (a.result s).2

namespace Act.Maintains

variable {σ α β : Type} {P : σ → Prop}

theorem pure (x : α) : (Pure.pure x : Act σ α).Maintains P := fun _ h => h

theorem bind {a : Act σ α} {f : α → Act σ β} (ha : a.Maintains P) (hf : ∀ x, (f x).Maintains P) :
    (a >>= f).Maintains P := by
  intro s hs
  have hfirst := ha s hs
  rcases hresult : a.result s with ⟨fault | x, s'⟩
  · rw [hresult] at hfirst
    rw [result_bind_error hresult]
    exact hfirst
  · rw [hresult] at hfirst
    rw [result_bind_ok hresult]
    exact hf x s' hfirst

theorem ofExcept (outcome : Except Fault α) : (Act.ofExcept outcome : Act σ α).Maintains P := fun _ h => h

/-- An action that begins with looking at the state. -/
theorem get_bind {f : σ → Act σ α} (h : ∀ s, P s → P ((f s).result s).2) : (get >>= f).Maintains P := h

/-- An action that begins with a new state. -/
theorem set_bind {f : PUnit → Act σ α} {x : σ} (s : σ) (hx : P x) (hf : (f ()).Maintains P) :
    P ((set x >>= f).result s).2 := hf x hx

theorem tryCatch {a : Act σ α} {handler : Fault → Act σ α} (ha : a.Maintains P)
    (hhandler : ∀ fault, (handler fault).Maintains P) : (MonadExcept.tryCatch a handler).Maintains P := by
  intro s hs
  have hfirst := ha s hs
  rcases hresult : a.result s with ⟨fault | x, s'⟩
  · rw [hresult] at hfirst
    rw [result_tryCatch_error hresult]
    exact hhandler fault s' hfirst
  · rw [hresult] at hfirst
    rw [result_tryCatch_ok hresult]
    exact hfirst

theorem of_modify {f : σ → σ} (h : ∀ s, P s → P (f s)) : (modify f : Act σ Unit).Maintains P := h

theorem of_result {a : Act σ α} (ha : a.Maintains P) {s s' : σ} {outcome : Except Fault α}
    (h : a.result s = (outcome, s')) (hs : P s) : P s' := by
  have hafter := ha s hs
  rwa [h] at hafter

end Act.Maintains

namespace Probe

variable {σ δ α : Type}

/-! ## Ways through a self-test -/

/-- The ways through a self-test, with the support, the reports and the state that they end with. -/
inductive Way (subject : Subject σ δ) (cause : Cause) (s : σ) : Support → List Diagnostic → Collecting σ → Prop where
  /-- The backend cannot be configured. -/
  | notConfigured {fault : Fault} {c : Collecting σ}
    (hconfigure : subject.configure.result { state := s } = (.error fault, c)) :
    Way subject cause s .none [.probeFailed subject.shown fault] c
  /-- No interceptor can be made. -/
  | notCreated {fault : Fault} {c c' : Collecting σ}
    (hconfigure : subject.configure.result { state := s } = (.ok (), c))
    (hcreate : subject.create.result c = (.error fault, c')) :
    Way subject cause s .none [.probeFailed subject.shown fault] c'
  /-- The channel cannot be attached. -/
  | notAttached {fault : Fault} {c c' c'' : Collecting σ}
    (hconfigure : subject.configure.result { state := s } = (.ok (), c))
    (hcreate : subject.create.result c = (.ok (), c'))
    (hattach : (subject.backend.start request).result c' = (.error fault, c'')) :
    Way subject cause s .none [.probeFailed subject.shown fault] c''
  /-- An emission fails. The channel is detached, which may fail too. -/
  | notEmitted {fault : Fault} {d : δ} {stopped : Except Fault Unit} {c c' c'' emitted behind last : Collecting σ}
    (hconfigure : subject.configure.result { state := s } = (.ok (), c))
    (hcreate : subject.create.result c = (.ok (), c'))
    (hattach : (subject.backend.start request).result c' = (.ok d, c''))
    (hemit : (subject.emitAll (emissions cause)).result c'' = (.error fault, emitted))
    (hstop : (subject.backend.stop d).result emitted = (stopped, behind))
    (htold : subject.backend.tellAll (Recorder.report channel stopped) behind = last) :
    Way subject cause s .none (Recorder.report channel stopped ++ [.probeFailed subject.shown fault]) last
  /-- All events are emitted. The channel is detached, which may fail, and what was collected is graded. -/
  | graded {d : δ} {stopped : Except Fault Unit} {c c' c'' emitted behind last : Collecting σ}
    (hconfigure : subject.configure.result { state := s } = (.ok (), c))
    (hcreate : subject.create.result c = (.ok (), c'))
    (hattach : (subject.backend.start request).result c' = (.ok d, c''))
    (hemit : (subject.emitAll (emissions cause)).result c'' = (.ok (), emitted))
    (hstop : (subject.backend.stop d).result emitted = (stopped, behind))
    (htold : subject.backend.tellAll (Recorder.report channel stopped) behind = last) :
    Way subject cause s (grade cause last.records) (Recorder.report channel stopped) last

theorem exists_way (subject : Subject σ δ) (cause : Cause) (s : σ) :
    ∃ level reports c, Way subject cause s level reports c := by
  rcases hconfigure : subject.configure.result { state := s } with ⟨fault | _, c⟩
  · exact ⟨_, _, _, .notConfigured hconfigure⟩
  rcases hcreate : subject.create.result c with ⟨fault | _, c'⟩
  · exact ⟨_, _, _, .notCreated hconfigure hcreate⟩
  rcases hattach : (subject.backend.start request).result c' with ⟨fault | d, c''⟩
  · exact ⟨_, _, _, .notAttached hconfigure hcreate hattach⟩
  rcases hemit : (subject.emitAll (emissions cause)).result c'' with ⟨fault | _, emitted⟩
  · exact ⟨_, _, _, .notEmitted hconfigure hcreate hattach hemit rfl rfl⟩
  · exact ⟨_, _, _, .graded hconfigure hcreate hattach hemit rfl rfl⟩

section Way

variable {subject : Subject σ δ} {cause : Cause} {s : σ} {level : Support} {reports : List Diagnostic}
  {c : Collecting σ}

/-- **A self-test gives what its way gives.** -/
theorem run_of_way (h : Way subject cause s level reports c) : run subject cause s = (level, reports, c) := by
  cases h with
  | notConfigured hconfigure => rw [run, Act.result_bind_error hconfigure]
  | notCreated hconfigure hcreate => rw [run, (Act.result_bind_ok hconfigure).trans hcreate]
  | @notAttached _ _ c' _ hconfigure hcreate hattach =>
    have hrefused := Station.attach_refused (s := { backend := c' }) (List.not_mem_nil (a := request.channel)) hattach
    rw [run, (Act.result_bind_ok hconfigure).trans hcreate]
    simp only [hrefused]
  | @notEmitted _ d _ _ c' _ emitted _ _ hconfigure hcreate hattach hemit hstop htold =>
    have hfree := Station.attach_free (s := { backend := c' }) (List.not_mem_nil (a := request.channel)) hattach
    rw [run, (Act.result_bind_ok hconfigure).trans hcreate]
    simp only [hfree, hemit, Recorder.close, hstop]
    rw [← htold]
    rfl
  | @graded d _ _ c' _ emitted _ _ hconfigure hcreate hattach hemit hstop htold =>
    have hfree := Station.attach_free (s := { backend := c' }) (List.not_mem_nil (a := request.channel)) hattach
    rw [run, (Act.result_bind_ok hconfigure).trans hcreate]
    simp only [hfree, hemit, Recorder.close, hstop]
    rw [← htold]
    rfl

end Way

/-! ## Noting stages -/

/-- The state of a backend under self-test, with the stages that were entered, each with its fault if it failed. -/
structure Noted (σ : Type) where
  state : σ
  stages : List (Stage × Option Fault) := []

/-- The fault that an outcome is, if it is one. -/
def fault? : Except Fault α → Option Fault
  | .ok _ => none
  | .error fault => some fault

def Collecting.noted (c : Collecting σ) (stages : List (Stage × Option Fault)) : Collecting (Noted σ) :=
  { state := ⟨c.state, stages⟩, records := c.records }

/-- An action that notes the stage that it stands for, and how it ended. -/
def noting (stage : Stage) (a : Act (Collecting σ) α) : Act (Collecting (Noted σ)) α := do
  let c ← get
  let (outcome, after) := a.result { state := c.state.state, records := c.records }
  set (after.noted (c.state.stages ++ [(stage, fault? outcome)]))
  Act.ofExcept outcome

theorem result_noting (stage : Stage) {a : Act (Collecting σ) α} {c after : Collecting σ} {outcome : Except Fault α}
    (h : a.result c = (outcome, after)) (stages : List (Stage × Option Fault)) :
    (noting stage a).result (c.noted stages) = (outcome, after.noted (stages ++ [(stage, fault? outcome)])) := by
  show ((a.result c).1, (a.result c).2.noted (stages ++ [(stage, fault? (a.result c).1)])) = _
  rw [h]

/-- The subject that does the same and notes its stages. -/
def Subject.noted (subject : Subject σ δ) : Subject (Noted σ) δ where
  shown := subject.shown
  configure := noting .configure subject.configure
  create := noting .create subject.create
  backend := {
    start := fun r => noting .attach (subject.backend.start r)
    stop := fun d => noting .detach (subject.backend.stop d)
    tell := fun report c =>
      (subject.backend.tell report { state := c.state.state, records := c.records }).noted c.state.stages }
  emit e := noting .emit (subject.emit e)

/-- Reports are no stages. -/
theorem tellAll_noted (subject : Subject σ δ) (reports : List Diagnostic) (c : Collecting σ)
    (stages : List (Stage × Option Fault)) :
    subject.noted.backend.tellAll reports (c.noted stages) = (subject.backend.tellAll reports c).noted stages := by
  induction reports generalizing c with
  | nil => rfl
  | cons report reports ih => exact ih (subject.backend.tell report c)

/-- Emissions that all succeed are noted. -/
theorem result_emitAll_noted_ok (subject : Subject σ δ) : ∀ {es : List Emission} {c after : Collecting σ},
    (subject.emitAll es).result c = (.ok (), after) → ∀ stages : List (Stage × Option Fault),
      (subject.noted.emitAll es).result (c.noted stages)
        = (.ok (), after.noted (stages ++ List.replicate es.length (.emit, none)))
  | [], c, after, h, stages => by
    obtain rfl : c = after := congrArg Prod.snd h
    rw [List.length_nil, List.replicate_zero, List.append_nil]
    rfl
  | e :: es, c, after, h, stages => by
    rcases hemit : (subject.emit e).result c with ⟨fault | _, c'⟩
    · have hfail : (subject.emitAll (e :: es)).result c = (.error fault, c') := Act.result_bind_error hemit
      rw [hfail] at h
      cases h
    · have hrest : (subject.emitAll es).result c' = (.ok (), after) := (Act.result_bind_ok hemit).symm.trans h
      have hrest' := result_emitAll_noted_ok subject hrest (stages ++ [(.emit, none)])
      rw [List.length_cons, List.replicate_succ, List.append_cons]
      exact (Act.result_bind_ok (result_noting .emit hemit stages)).trans hrest'

/-- Emissions are noted up to the first that fails. -/
theorem result_emitAll_noted_error (subject : Subject σ δ) : ∀ {es : List Emission} {c after : Collecting σ}
    {fault : Fault}, (subject.emitAll es).result c = (.error fault, after) →
      ∀ stages : List (Stage × Option Fault), ∃ n, n < es.length ∧ (subject.noted.emitAll es).result (c.noted stages)
        = (.error fault, after.noted (stages ++ (List.replicate n (.emit, none) ++ [(.emit, some fault)])))
  | [], _, _, _, h, _ => by cases h
  | e :: es, c, after, fault, h, stages => by
    rcases hemit : (subject.emit e).result c with ⟨first | _, c'⟩
    · have hfail : (subject.emitAll (e :: es)).result c = (.error first, c') := Act.result_bind_error hemit
      rw [hfail] at h
      cases h
      exact ⟨0, Nat.zero_lt_succ _, Act.result_bind_error (result_noting .emit hemit stages)⟩
    · have hrest : (subject.emitAll es).result c' = (.error fault, after) := (Act.result_bind_ok hemit).symm.trans h
      obtain ⟨n, hn, hrest'⟩ := result_emitAll_noted_error subject hrest (stages ++ [(.emit, none)])
      refine ⟨n + 1, Nat.succ_lt_succ hn, ?_⟩
      rw [List.replicate_succ, List.cons_append, List.append_cons]
      exact (Act.result_bind_ok (result_noting .emit hemit stages)).trans hrest'

/-! ## What a self-test comes to -/

/-- The stages up to the attached channel. -/
def opening : List (Stage × Option Fault) := [(.configure, none), (.create, none), (.attach, none)]

/-- **All ways that a self-test can take**: the stages that were entered, and the support that it comes to. Once the
channel is attached, the last stage is to detach it. -/
inductive Course (cause : Cause) (records : List Record) : List (Stage × Option Fault) → Support → Prop where
  | notConfigured (fault : Fault) : Course cause records [(.configure, some fault)] .none
  | notCreated (fault : Fault) : Course cause records [(.configure, none), (.create, some fault)] .none
  | notAttached (fault : Fault) :
    Course cause records [(.configure, none), (.create, none), (.attach, some fault)] .none
  /-- An emission failed behind some that did not. -/
  | notEmitted (n : Nat) (fault : Fault) (detached : Option Fault) (hn : n < 3) : Course cause records
    (opening ++ (List.replicate n (.emit, none) ++ [(.emit, some fault)]) ++ [(.detach, detached)]) .none
  | graded (detached : Option Fault) : Course cause records
    (opening ++ List.replicate 3 (.emit, none) ++ [(.detach, detached)]) (grade cause records)

/-- **A self-test enters its stages in one of these orders**, and noting them leaves it as it is. -/
theorem run_noted (subject : Subject σ δ) (cause : Cause) (s : σ) : ∃ level reports c stages,
    run subject cause s = (level, reports, c) ∧
    run subject.noted cause { state := s } = (level, reports, c.noted stages) ∧
    Course cause c.records stages level := by
  obtain ⟨level, reports, c, hway⟩ := exists_way subject cause s
  suffices hnoted : ∃ stages, Way subject.noted cause { state := s } level reports (c.noted stages) ∧
      Course cause c.records stages level by
    obtain ⟨stages, hnoted, hcourse⟩ := hnoted
    exact ⟨level, reports, c, stages, run_of_way hway, run_of_way hnoted, hcourse⟩
  cases hway with
  | notConfigured hconfigure =>
    exact ⟨_, .notConfigured (result_noting .configure hconfigure []), .notConfigured _⟩
  | notCreated hconfigure hcreate =>
    exact ⟨_, .notCreated (result_noting .configure hconfigure []) (result_noting .create hcreate _), .notCreated _⟩
  | notAttached hconfigure hcreate hattach =>
    exact ⟨_, .notAttached (result_noting .configure hconfigure []) (result_noting .create hcreate _)
      (result_noting .attach hattach _), .notAttached _⟩
  | @notEmitted _ _ stopped _ _ _ _ _ _ hconfigure hcreate hattach hemit hstop htold =>
    obtain ⟨n, hn, hemit'⟩ := result_emitAll_noted_error subject hemit opening
    exact ⟨_, .notEmitted (result_noting .configure hconfigure []) (result_noting .create hcreate _)
      (result_noting .attach hattach _) hemit' (result_noting .detach hstop _) (by rw [tellAll_noted, htold]),
      .notEmitted n _ (fault? stopped) hn⟩
  | @graded _ stopped _ _ _ _ _ _ hconfigure hcreate hattach hemit hstop htold =>
    have hemit' := result_emitAll_noted_ok subject hemit opening
    exact ⟨_, .graded (result_noting .configure hconfigure []) (result_noting .create hcreate _)
      (result_noting .attach hattach _) hemit' (result_noting .detach hstop _) (by rw [tellAll_noted, htold]),
      .graded (fault? stopped)⟩

/-! ## What every stage keeps -/

/-- What every stage of a subject keeps, whether it fails or not, and every report to it. -/
structure Subject.Maintains (subject : Subject σ δ) (P : Collecting σ → Prop) : Prop where
  configure : subject.configure.Maintains P
  create : subject.create.Maintains P
  start : ∀ r, (subject.backend.start r).Maintains P
  stop : ∀ d, (subject.backend.stop d).Maintains P
  tell : ∀ report c, P c → P (subject.backend.tell report c)
  emit : ∀ e, (subject.emit e).Maintains P

namespace Subject.Maintains

variable {subject : Subject σ δ} {P : Collecting σ → Prop}

theorem emitAll (h : subject.Maintains P) : ∀ es : List Emission, (subject.emitAll es).Maintains P
  | [] => .pure ()
  | e :: es => (h.emit e).bind fun _ => h.emitAll es

theorem tellAll (h : subject.Maintains P) : ∀ (reports : List Diagnostic) (c : Collecting σ), P c →
    P (subject.backend.tellAll reports c)
  | [], _, hc => hc
  | report :: reports, c, hc => h.tellAll reports _ (h.tell report c hc)

/-- **What every stage keeps holds when a self-test ends.** -/
theorem run (h : subject.Maintains P) (cause : Cause) {s : σ} (hstart : P { state := s }) :
    P (run subject cause s).2.2 := by
  obtain ⟨level, reports, last, hway⟩ := exists_way subject cause s
  rw [run_of_way hway]
  cases hway with
  | notConfigured hconfigure => exact h.configure.of_result hconfigure hstart
  | notCreated hconfigure hcreate => exact h.create.of_result hcreate (h.configure.of_result hconfigure hstart)
  | notAttached hconfigure hcreate hattach =>
    exact (h.start _).of_result hattach (h.create.of_result hcreate (h.configure.of_result hconfigure hstart))
  | notEmitted hconfigure hcreate hattach hemit hstop htold | graded hconfigure hcreate hattach hemit hstop htold =>
    have hattached := (h.start _).of_result hattach
      (h.create.of_result hcreate (h.configure.of_result hconfigure hstart))
    have hstopped := (h.stop _).of_result hstop ((h.emitAll _).of_result hemit hattached)
    exact htold ▸ h.tellAll _ _ hstopped

end Subject.Maintains

end Probe

end LogAssay
