import LogAssay.Attachment

/-!
# Interceptors on a bench

Several interceptors of one backend attach channels, and their recorders are closed in any order, again and again. A
move is one attachment or one closing, and recorders stay on the bench after they were closed. The backend may be any,
and may refuse to attach as well as to detach.

## Main statement

* `effect_step`: all that a move can do. It does nothing, or the backend refuses an attachment, or there is one more
  open recorder, or one less.
-/

namespace LogAssay

variable {σ δ : Type}

/-! ## Attaching and closing with any backend -/

namespace Station

variable {b : Backend σ δ} {request : Request} {s : Station σ}

/-- A free channel is attached if the backend can attach it. -/
theorem attach_free (hfree : request.channel ∉ s.attached) {d : δ} {backend : σ}
    (h : (b.start request).result s.backend = (.ok d, backend)) :
    s.attach b request = (.ok ⟨request.channel, some d⟩, ⟨request.channel :: s.attached, backend⟩) := by
  simp only [attach, List.contains_eq_mem, hfree, decide_false, Bool.false_eq_true, if_false, h]

/-- The fault of a backend is passed on, and the channel stays free. -/
theorem attach_refused (hfree : request.channel ∉ s.attached) {fault : Fault} {backend : σ}
    (h : (b.start request).result s.backend = (.error fault, backend)) :
    s.attach b request = (.error fault, { s with backend := backend }) := by
  simp only [attach, List.contains_eq_mem, hfree, decide_false, Bool.false_eq_true, if_false, h]

end Station

/-- What no report changes is not changed by many. -/
theorem Backend.tellAll_keeps {α : Type} {b : Backend σ δ} {f : σ → α} (h : ∀ report s, f (b.tell report s) = f s)
    (reports : List Diagnostic) (s : σ) : f (b.tellAll reports s) = f s := by
  induction reports generalizing s with
  | nil => rfl
  | cons report reports ih => exact (ih (b.tell report s)).trans (h report s)

namespace Recorder

/-- The state of a backend after a recorder was closed: an open one was to be detached, which is reported if it
failed. -/
def letGo (b : Backend σ δ) (s : σ) (r : Recorder δ) : σ :=
  match r.detachment with
  | none => s
  | some d => b.tellAll (report r.channel ((b.stop d).result s).1) ((b.stop d).result s).2

theorem letGo_open (b : Backend σ δ) {r : Recorder δ} {d : δ} (h : r.detachment = some d) (s : σ) :
    r.letGo b s = b.tellAll (report r.channel ((b.stop d).result s).1) ((b.stop d).result s).2 := by
  rw [letGo, h]

/-- Where reports change nothing, closing a recorder detaches its channel and that is all. -/
theorem letGo_silent {b : Backend σ δ} (silent : b.Silent) {r : Recorder δ} {d : δ} (h : r.detachment = some d)
    (s : σ) : r.letGo b s = ((b.stop d).result s).2 := by
  rw [letGo_open b h, silent.tellAll]

/-- Closing an open recorder, whether the backend can detach its channel or not. -/
theorem close_open (b : Backend σ δ) {r : Recorder δ} {d : δ} (h : r.detachment = some d) (s : Station σ) :
    r.close b s = (report r.channel ((b.stop d).result s.backend).1, r.ended,
      ⟨s.attached.filter (· ≠ r.channel), r.letGo b s.backend⟩) := by
  rw [close, letGo_open b h, h]

/-- Closing a closed recorder does nothing. -/
theorem close_closed (b : Backend σ δ) {r : Recorder δ} (h : r.detachment = none) (s : Station σ) :
    r.close b s = ([], r, s) := by
  rw [close, h]

theorem ended_of_closed {r : Recorder δ} (h : r.detachment = none) : r.ended = r := by
  rw [ended, ← h]

theorem backend_close (b : Backend σ δ) (r : Recorder δ) (s : Station σ) :
    (r.close b s).2.2.backend = r.letGo b s.backend := by
  cases hd : r.detachment with
  | none => rw [close_closed b hd, letGo, hd]
  | some d => rw [close_open b hd]

/-- The station after recorders were closed, the last one first. -/
def closeAll (b : Backend σ δ) : List (Recorder δ) → Station σ → Station σ
  | [], s => s
  | r :: others, s => (r.close b (closeAll b others s)).2.2

/-- **Closing recorders detaches each of their channels once, the last one first**, whether detaching fails or not. -/
theorem backend_closeAll (b : Backend σ δ) : ∀ (rs : List (Recorder δ)) (s : Station σ),
    (closeAll b rs s).backend = rs.reverse.foldl (letGo b) s.backend
  | [], _ => rfl
  | r :: rs, s => by
    rw [closeAll, backend_close, backend_closeAll b rs s, List.reverse_cons, List.foldl_append]
    rfl

end Recorder

/-- What can be asked of interceptors and of their recorders. -/
inductive Move where
  | attach (interceptor : Nat) (request : Request)
  | close (index : Nat)

/-- A recorder with the interceptor that made it and what the interceptor was asked for. -/
structure Issued (δ : Type) where
  interceptor : Nat
  request : Request
  recorder : Recorder δ

namespace Issued

/-- Whether a recorder of an interceptor is open for a channel. -/
def holds (interceptor : Nat) (channel : String) (x : Issued δ) : Bool :=
  x.interceptor = interceptor && x.recorder.channel = channel && !x.recorder.closed

/-- The recorder after it was closed. -/
def ended (x : Issued δ) : Issued δ := { x with recorder := x.recorder.ended }

@[simp] theorem holds_ended (interceptor : Nat) (channel : String) (x : Issued δ) :
    x.ended.holds interceptor channel = false := by
  simp [holds, ended, Recorder.ended, Recorder.closed]

end Issued

/-- Interceptors of one backend, with the channels that each has attached and all recorders made so far. -/
structure Bench (σ δ : Type) where
  backend : σ
  attached : Nat → List String := fun _ => []
  recorders : List (Issued δ) := []

namespace Bench

/-! ## Moves -/

/-- What one interceptor sees. -/
def station (s : Bench σ δ) (interceptor : Nat) : Station σ := ⟨s.attached interceptor, s.backend⟩

/-- The interceptors after one of them has done something. -/
def withStation (s : Bench σ δ) (interceptor : Nat) (station : Station σ) : Bench σ δ :=
  { s with
    backend := station.backend
    attached := fun i => if i = interceptor then station.attached else s.attached i }

/-- Carries a move out. -/
def step (b : Backend σ δ) (s : Bench σ δ) : Move → Bench σ δ
  | .attach i request =>
    match (s.station i).attach b request with
    | (.error _, station) => s.withStation i station
    | (.ok recorder, station) =>
      { s.withStation i station with recorders := s.recorders ++ [⟨i, request, recorder⟩] }
  | .close index =>
    match s.recorders[index]? with
    | none => s
    | some x =>
      let (_, recorder, station) := x.recorder.close b (s.station x.interceptor)
      { s.withStation x.interceptor station with
        recorders := s.recorders.set index { x with recorder := recorder } }

/-- Carries moves out, one after the other. -/
def run (b : Backend σ δ) (s : Bench σ δ) (moves : List Move) : Bench σ δ := moves.foldl (step b) s

/-! ## What a move does -/

/-- One more open recorder, with what the backend gave for it. -/
def opened (s : Bench σ δ) (interceptor : Nat) (request : Request) (d : δ) (backend : σ) : Bench σ δ :=
  { s.withStation interceptor ⟨request.channel :: s.attached interceptor, backend⟩ with
    recorders := s.recorders ++ [⟨interceptor, request, ⟨request.channel, some d⟩⟩] }

/-- One open recorder less, with its channel free. -/
def shut (s : Bench σ δ) (index : Nat) (x : Issued δ) (backend : σ) : Bench σ δ :=
  { s.withStation x.interceptor ⟨(s.attached x.interceptor).filter (· ≠ x.recorder.channel), backend⟩ with
    recorders := s.recorders.set index x.ended }

@[simp] theorem backend_opened (s : Bench σ δ) (interceptor : Nat) (request : Request) (d : δ) (backend : σ) :
    (s.opened interceptor request d backend).backend = backend := rfl

@[simp] theorem backend_shut (s : Bench σ δ) (index : Nat) (x : Issued δ) (backend : σ) :
    (s.shut index x backend).backend = backend := rfl

theorem recorders_opened (s : Bench σ δ) (interceptor : Nat) (request : Request) (d : δ) (backend : σ) :
    (s.opened interceptor request d backend).recorders
      = s.recorders ++ [⟨interceptor, request, ⟨request.channel, some d⟩⟩] := rfl

theorem recorders_shut (s : Bench σ δ) (index : Nat) (x : Issued δ) (backend : σ) :
    (s.shut index x backend).recorders = s.recorders.set index x.ended := rfl

theorem mem_attached_opened (s : Bench σ δ) (interceptor : Nat) (request : Request) (d : δ) (backend : σ)
    (i : Nat) (c : String) : c ∈ (s.opened interceptor request d backend).attached i
      ↔ (i = interceptor ∧ c = request.channel) ∨ c ∈ s.attached i := by
  by_cases hi : i = interceptor
  · subst hi
    simp [opened, withStation]
  · simp [opened, withStation, hi]

theorem mem_attached_shut (s : Bench σ δ) (index : Nat) (x : Issued δ) (backend : σ) (i : Nat) (c : String) :
    c ∈ (s.shut index x backend).attached i
      ↔ c ∈ s.attached i ∧ ¬(i = x.interceptor ∧ c = x.recorder.channel) := by
  by_cases hi : i = x.interceptor
  · subst hi
    simp [shut, withStation]
  · simp [shut, withStation, hi]

/-- All that a move can leave of a bench. -/
inductive Effect (b : Backend σ δ) (s : Bench σ δ) : Move → Bench σ δ → Prop where
  | nothing {move : Move} : Effect b s move s
  /-- The backend could not attach a free channel. -/
  | refused {interceptor : Nat} {request : Request} {fault : Fault} {backend : σ}
    (h : (b.start request).result s.backend = (.error fault, backend)) :
    Effect b s (.attach interceptor request) { s with backend := backend }
  | opened {interceptor : Nat} {request : Request} {d : δ} {backend : σ}
    (hfree : request.channel ∉ s.attached interceptor)
    (h : (b.start request).result s.backend = (.ok d, backend)) :
    Effect b s (.attach interceptor request) (s.opened interceptor request d backend)
  /-- An open recorder was closed, whether the backend could detach the channel or not. -/
  | shut {index : Nat} {x : Issued δ} {d : δ} (hx : s.recorders[index]? = some x)
    (hopen : x.recorder.detachment = some d) :
    Effect b s (.close index) (s.shut index x (x.recorder.letGo b s.backend))

section Step

variable {b : Backend σ δ} {s : Bench σ δ}

theorem withStation_backend (s : Bench σ δ) (interceptor : Nat) (backend : σ) :
    s.withStation interceptor ⟨s.attached interceptor, backend⟩ = { s with backend := backend } := by
  simp only [withStation]
  congr
  funext i
  split
  · next h => rw [h]
  · rfl

/-- Attaching an attached channel does nothing. -/
theorem step_attach_attached {interceptor : Nat} {request : Request}
    (h : request.channel ∈ s.attached interceptor) : s.step b (.attach interceptor request) = s := by
  simp only [step, Station.attach_attached b (s := s.station interceptor) h]
  exact withStation_backend s interceptor s.backend

theorem step_attach_refused {interceptor : Nat} {request : Request} {fault : Fault} {backend : σ}
    (hfree : request.channel ∉ s.attached interceptor)
    (h : (b.start request).result s.backend = (.error fault, backend)) :
    s.step b (.attach interceptor request) = { s with backend := backend } := by
  simp only [step, Station.attach_refused (s := s.station interceptor) hfree h]
  exact withStation_backend s interceptor backend

theorem step_attach_ok {interceptor : Nat} {request : Request} {d : δ} {backend : σ}
    (hfree : request.channel ∉ s.attached interceptor)
    (h : (b.start request).result s.backend = (.ok d, backend)) :
    s.step b (.attach interceptor request) = s.opened interceptor request d backend := by
  simp only [step, Station.attach_free (s := s.station interceptor) hfree h]
  rfl

/-- **Closing a closed recorder does nothing**, whatever has been attached since. -/
theorem step_close_closed {index : Nat} {x : Issued δ} (hx : s.recorders[index]? = some x)
    (h : x.recorder.detachment = none) : s.step b (.close index) = s := by
  obtain ⟨hlt, rfl⟩ := List.getElem?_eq_some_iff.1 hx
  simp only [step, hx, Recorder.close_closed b h]
  rw [List.set_getElem_self]
  exact withStation_backend s _ s.backend

theorem step_close_open {index : Nat} {x : Issued δ} {d : δ} (hx : s.recorders[index]? = some x)
    (h : x.recorder.detachment = some d) :
    s.step b (.close index) = s.shut index x (x.recorder.letGo b s.backend) := by
  simp only [step, hx, Recorder.close_open b h]
  rfl

/-- **All that a move can do.** -/
theorem effect_step (b : Backend σ δ) (s : Bench σ δ) (move : Move) : Effect b s move (s.step b move) := by
  cases move with
  | attach interceptor request =>
    by_cases hattached : request.channel ∈ s.attached interceptor
    · rw [step_attach_attached hattached]
      exact .nothing
    · rcases hstart : (b.start request).result s.backend with ⟨fault | d, backend⟩
      · rw [step_attach_refused hattached hstart]
        exact .refused hstart
      · rw [step_attach_ok hattached hstart]
        exact .opened hattached hstart
  | close index =>
    cases hx : s.recorders[index]? with
    | none =>
      rw [step, hx]
      exact .nothing
    | some x =>
      cases hd : x.recorder.detachment with
      | none =>
        rw [step_close_closed hx hd]
        exact .nothing
      | some d =>
        rw [step_close_open hx hd]
        exact .shut hx hd

end Step

/-- What every move keeps holds after every run of moves. -/
theorem run_induction {b : Backend σ δ} {P : Bench σ δ → Prop}
    (hstep : ∀ s move s', P s → Effect b s move s' → P s') :
    ∀ {s : Bench σ δ} (moves : List Move), P s → P (s.run b moves)
  | _, [], h => h
  | s, move :: moves, h => run_induction hstep moves (hstep s move _ h (effect_step b s move))

end Bench

end LogAssay
