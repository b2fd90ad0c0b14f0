import LogAssay.Proofs.Attachment.Bench

/-!
# The life of an attachment

The channels that an interceptor has attached and the recorders that are open are kept in step by every attachment and
every closing, also where the backend fails. To count what is asked of a backend it is watched: a watched backend does
what the backend does, notes each call, and numbers what it gives to detach a channel. Forgetting the notes leaves the
run as it is without them (`unwatched_run`), so that the counts are those of any backend.

## Main statement

* `lawful_run`: after every run of moves, a channel is attached iff one recorder is open for it, attaching fails on
  attached channels without a call, closing always ends a recorder, and each closed recorder was detached once.
-/

namespace LogAssay

variable {σ δ : Type}

/-! ## Watched backends -/

/-- The state of a backend, with what was asked of it. -/
structure Watched (σ : Type) where
  state : σ
  /-- The requests to attach a channel, in order. -/
  starts : List Request := []
  /-- How many of them were met. -/
  issued : Nat := 0
  /-- The numbers of the attachments that were to be detached, in order. -/
  stops : List Nat := []

/-- A backend that does the same and notes what is asked of it. Attachments carry numbers. -/
def Backend.watched (b : Backend σ δ) : Backend (Watched σ) (Nat × δ) where
  start request := do
    let w ← get
    let (outcome, state) := (b.start request).result w.state
    set { w with state := state, starts := w.starts ++ [request] }
    let d ← Act.ofExcept outcome
    modify fun w => { w with issued := w.issued + 1 }
    return (w.issued, d)
  stop numbered := do
    let w ← get
    let (outcome, state) := (b.stop numbered.2).result w.state
    set { w with state := state, stops := w.stops ++ [numbered.1] }
    Act.ofExcept outcome
  tell report w := { w with state := b.tell report w.state }

section Watched

variable (b : Backend σ δ) (w : Watched σ)

theorem start_watched_ok {request : Request} {d : δ} {state : σ}
    (h : (b.start request).result w.state = (.ok d, state)) :
    (b.watched.start request).result w = (.ok (w.issued, d),
      { w with state := state, starts := w.starts ++ [request], issued := w.issued + 1 }) := by
  unfold Backend.watched
  rw [Act.result_bind_ok (Act.result_get w), h]
  rfl

theorem start_watched_error {request : Request} {fault : Fault} {state : σ}
    (h : (b.start request).result w.state = (.error fault, state)) :
    (b.watched.start request).result w
      = (.error fault, { w with state := state, starts := w.starts ++ [request] }) := by
  unfold Backend.watched
  rw [Act.result_bind_ok (Act.result_get w), h]
  rfl

theorem stop_watched (n : Nat) (d : δ) :
    (b.watched.stop (n, d)).result w = (((b.stop d).result w.state).1,
      { w with state := ((b.stop d).result w.state).2, stops := w.stops ++ [n] }) := rfl

theorem tellAll_watched (reports : List Diagnostic) :
    b.watched.tellAll reports w = { w with state := b.tellAll reports w.state } := by
  induction reports generalizing w with
  | nil => rfl
  | cons report reports ih => exact ih { w with state := b.tell report w.state }

end Watched

/-- The recorder of the backend that was watched. -/
def Issued.unwatched (x : Issued (Nat × δ)) : Issued δ :=
  { x with recorder := ⟨x.recorder.channel, x.recorder.detachment.map (·.2)⟩ }

/-- **Closing a watched recorder** leaves the backend as it would be otherwise, with one more note. -/
theorem Issued.letGo_watched (b : Backend σ δ) (w : Watched σ) {x : Issued (Nat × δ)} {d : Nat × δ}
    (h : x.recorder.detachment = some d) :
    x.recorder.letGo b.watched w
      = { w with state := x.unwatched.recorder.letGo b w.state, stops := w.stops ++ [d.1] } := by
  have hunwatched : x.unwatched.recorder.detachment = some d.2 := by rw [unwatched, h]; rfl
  rw [Recorder.letGo_open b.watched h, Recorder.letGo_open b hunwatched, stop_watched, tellAll_watched]
  rfl

namespace Bench

/-- The bench of the backend that was watched. -/
def unwatched (s : Bench (Watched σ) (Nat × δ)) : Bench σ δ :=
  ⟨s.backend.state, s.attached, s.recorders.map Issued.unwatched⟩

variable {b : Backend σ δ} {s : Bench (Watched σ) (Nat × δ)}

theorem unwatched_opened (i : Nat) (request : Request) (d : Nat × δ) (w : Watched σ) :
    (s.opened i request d w).unwatched = s.unwatched.opened i request d.2 w.state := by
  unfold unwatched opened withStation
  rw [List.map_append]
  rfl

theorem unwatched_shut (index : Nat) (x : Issued (Nat × δ)) (w : Watched σ) :
    (s.shut index x w).unwatched = s.unwatched.shut index x.unwatched w.state := by
  unfold unwatched shut withStation
  rw [List.map_set]
  rfl

/-- **Watching changes nothing** of what a move does. -/
theorem unwatched_step (b : Backend σ δ) (s : Bench (Watched σ) (Nat × δ)) (move : Move) :
    (s.step b.watched move).unwatched = s.unwatched.step b move := by
  cases move with
  | attach i request =>
    by_cases hattached : request.channel ∈ s.attached i
    · rw [step_attach_attached hattached, step_attach_attached (s := s.unwatched) hattached]
    · rcases hstart : (b.start request).result s.backend.state with ⟨fault | d, state⟩
      · rw [step_attach_refused hattached (start_watched_error b s.backend hstart),
          step_attach_refused (s := s.unwatched) hattached hstart]
        rfl
      · rw [step_attach_ok hattached (start_watched_ok b s.backend hstart),
          step_attach_ok (s := s.unwatched) hattached hstart, unwatched_opened]
  | close index =>
    have hunwatched : s.unwatched.recorders[index]? = s.recorders[index]?.map Issued.unwatched := by
      simp [unwatched]
    cases hx : s.recorders[index]? with
    | none => simp [step, hx, hunwatched]
    | some x =>
      rw [hx] at hunwatched
      cases hd : x.recorder.detachment with
      | none =>
        have hd' : x.unwatched.recorder.detachment = none := by simp [Issued.unwatched, hd]
        rw [step_close_closed hx hd, step_close_closed hunwatched hd']
      | some d =>
        have hd' : x.unwatched.recorder.detachment = some d.2 := by simp [Issued.unwatched, hd]
        rw [step_close_open hx hd, step_close_open hunwatched hd', unwatched_shut,
          Issued.letGo_watched b s.backend hd]
        rfl

theorem unwatched_run (b : Backend σ δ) : ∀ (s : Bench (Watched σ) (Nat × δ)) (moves : List Move),
    (s.run b.watched moves).unwatched = s.unwatched.run b moves
  | _, [] => rfl
  | s, move :: moves => by
    have hrest := unwatched_run b (s.step b.watched move) moves
    rw [unwatched_step] at hrest
    exact hrest

/-! ## Channels and recorders in step -/

/-- Whether a recorder has been made and closed. -/
def closedAt (s : Bench σ δ) (index : Nat) : Bool := s.recorders[index]?.any (·.recorder.closed)

/-- **The invariant.** An attached channel has one open recorder and another one has none. Recorders are numbered in
the order of their making, and the backend was asked once to detach each of the closed ones. -/
structure Tracked (s : Bench (Watched σ) (Nat × δ)) : Prop where
  held : ∀ i c, s.recorders.countP (Issued.holds i c) = if c ∈ s.attached i then 1 else 0
  issued : s.backend.issued = s.recorders.length
  numbered : ∀ n (x : Issued (Nat × δ)) d, s.recorders[n]? = some x → x.recorder.detachment = some d → d.1 = n
  stops : ∀ n, s.backend.stops.count n = if s.closedAt n then 1 else 0

namespace Tracked

theorem initial (state : σ) : Tracked ({ backend := { state } } : Bench (Watched σ) (Nat × δ)) where
  held := by simp
  issued := rfl
  numbered := by simp
  stops := by simp [closedAt]

/-- A request that the backend cannot meet leaves everything but the backend as it was. -/
theorem refused (h : Tracked s) {w : Watched σ} (hissued : w.issued = s.backend.issued)
    (hstops : w.stops = s.backend.stops) : Tracked { s with backend := w } where
  held := h.held
  issued := hissued.trans h.issued
  numbered := h.numbered
  stops := by
    intro n
    rw [hstops]
    exact h.stops n

/-- One more open recorder, for a channel that had none. -/
theorem opened (h : Tracked s) {i : Nat} {request : Request} (hfree : request.channel ∉ s.attached i) (d : δ)
    {w : Watched σ} (hissued : w.issued = s.backend.issued + 1) (hstops : w.stops = s.backend.stops) :
    Tracked (s.opened i request (s.backend.issued, d) w) where
  held := by
    intro j c
    have hheld := h.held j c
    simp only [mem_attached_opened, recorders_opened, List.countP_append, List.countP_singleton, hheld,
      Issued.holds, Recorder.closed]
    by_cases hnew : j = i ∧ c = request.channel
    · obtain ⟨rfl, rfl⟩ := hnew
      simp [hfree]
    · have hother : ¬(i = j ∧ request.channel = c) := fun he => hnew ⟨he.1.symm, he.2.symm⟩
      simp [hnew, hother]
  issued := by
    rw [backend_opened, recorders_opened, hissued, h.issued, List.length_append]
    rfl
  numbered := by
    intro n x d' hx hd
    rw [recorders_opened, List.getElem?_append] at hx
    split at hx
    · exact h.numbered n x d' hx hd
    · next hn =>
      obtain ⟨hzero, rfl⟩ : n - s.recorders.length = 0 ∧ _ := by simpa [List.getElem?_singleton, eq_comm] using hx
      obtain rfl : (s.backend.issued, d) = d' := Option.some.inj hd
      show s.backend.issued = n
      rw [h.issued]
      omega
  stops := by
    intro n
    have hclosed : (s.opened i request (s.backend.issued, d) w).closedAt n = s.closedAt n := by
      unfold closedAt
      rw [recorders_opened, List.getElem?_append]
      split
      · rfl
      · next hn =>
        rw [List.getElem?_eq_none (Nat.le_of_not_lt hn), List.getElem?_singleton]
        split <;> rfl
    rw [backend_opened, hstops, hclosed]
    exact h.stops n

/-- One open recorder less. It was the only one of its channel. -/
theorem shut (h : Tracked s) {index : Nat} {x : Issued (Nat × δ)} {d : Nat × δ}
    (hx : s.recorders[index]? = some x) (hopen : x.recorder.detachment = some d) {w : Watched σ}
    (hissued : w.issued = s.backend.issued) (hstops : w.stops = s.backend.stops ++ [d.1]) :
    Tracked (s.shut index x w) where
  held := by
    intro i c
    obtain ⟨hlt, hget⟩ := List.getElem?_eq_some_iff.1 hx
    have hheld := h.held i c
    simp only [mem_attached_shut, recorders_shut]
    rw [List.countP_set hlt, hget, Issued.holds_ended, hheld]
    by_cases hmine : i = x.interceptor ∧ c = x.recorder.channel
    · obtain ⟨rfl, rfl⟩ := hmine
      have hholds : x.holds x.interceptor x.recorder.channel = true := by
        simp [Issued.holds, Recorder.closed, hopen]
      simp only [hholds, and_self, not_true, and_false, if_true, if_false]
      split <;> simp
    · have hholds : x.holds i c = false := by
        rw [Bool.eq_false_iff]
        intro hh
        simp only [Issued.holds, Bool.and_eq_true, decide_eq_true_eq] at hh
        exact hmine ⟨hh.1.1.symm, hh.1.2.symm⟩
      simp [hholds, hmine]
  issued := by
    rw [backend_shut, recorders_shut, List.length_set, hissued]
    exact h.issued
  numbered := by
    intro n y d' hy hd
    rw [recorders_shut, List.getElem?_set] at hy
    split at hy
    · split at hy
      · cases hy
        cases hd
      · cases hy
    · exact h.numbered n y d' hy hd
  stops := by
    intro n
    have hnumber := h.numbered index x d hx hopen
    have hn := h.stops n
    obtain ⟨hlt, hget⟩ := List.getElem?_eq_some_iff.1 hx
    rw [backend_shut, hstops, List.count_append, hn, hnumber]
    unfold closedAt
    rw [recorders_shut, List.getElem?_set]
    by_cases he : index = n
    · subst he
      simp [hlt, hget, Recorder.closed, hopen, Issued.ended, Recorder.ended]
    · simp [he]

/-- **Every move keeps channels and recorders in step.** -/
theorem effect (h : Tracked s) {move : Move} {s' : Bench (Watched σ) (Nat × δ)}
    (heffect : Effect b.watched s move s') : Tracked s' := by
  cases heffect with
  | nothing => exact h
  | @refused i request fault w hstart =>
    rcases hb : (b.start request).result s.backend.state with ⟨fault' | d, state⟩
    · rw [start_watched_error b s.backend hb] at hstart
      cases hstart
      exact h.refused rfl rfl
    · rw [start_watched_ok b s.backend hb] at hstart
      cases hstart
  | @opened i request d w hfree hstart =>
    rcases hb : (b.start request).result s.backend.state with ⟨fault | d', state⟩
    · rw [start_watched_error b s.backend hb] at hstart
      cases hstart
    · rw [start_watched_ok b s.backend hb] at hstart
      cases hstart
      exact h.opened hfree d' rfl rfl
  | @shut index x d hx hopen =>
    have hbackend := Issued.letGo_watched b s.backend hopen
    exact h.shut hx hopen (by rw [hbackend]) (by rw [hbackend])

theorem run (b : Backend σ δ) (state : σ) (moves : List Move) :
    Tracked (({ backend := { state } } : Bench (Watched σ) (Nat × δ)).run b.watched moves) :=
  run_induction (fun _ _ _ h heffect => h.effect heffect) moves (initial state)

end Tracked

/-! ## Attaching and closing in any state -/

/-- What attaching a channel does on a bench. -/
structure AttachLawful (b : Backend σ δ) (s : Bench (Watched σ) (Nat × δ)) (i : Nat) (request : Request) : Prop where
  /-- A channel is refused as attached already iff it is, unless the backend itself fails in these words. -/
  already_iff : ((s.station i).attach b.watched request).1 = .error (.alreadyAttached request.channel) ↔
    request.channel ∈ s.attached i ∨
      ((b.start request).result s.backend.state).1 = .error (.alreadyAttached request.channel)
  /-- The backend is left alone then, and so is everything else. -/
  attached : request.channel ∈ s.attached i → s.step b.watched (.attach i request) = s
  /-- A free channel is one call to the backend. -/
  free : request.channel ∉ s.attached i →
    (s.step b.watched (.attach i request)).backend.starts = s.backend.starts ++ [request] ∧
      (s.step b.watched (.attach i request)).backend.stops = s.backend.stops
  /-- A failure leaves the attached channels and the recorders as they were. -/
  failed : ∀ fault, ((s.station i).attach b.watched request).1 = .error fault →
    (s.step b.watched (.attach i request)).attached = s.attached ∧
      (s.step b.watched (.attach i request)).recorders = s.recorders
  /-- A success gives an open recorder for the channel. -/
  succeeded : ∀ r, ((s.station i).attach b.watched request).1 = .ok r →
    r.channel = request.channel ∧ r.closed = false ∧
      (s.step b.watched (.attach i request)).recorders = s.recorders ++ [⟨i, request, r⟩]

/-- What closing a recorder does on a bench. -/
structure CloseLawful (b : Backend σ δ) (s : Bench (Watched σ) (Nat × δ)) (n : Nat) (x : Issued (Nat × δ)) :
    Prop where
  /-- Closing has no failure of its own. One to detach the channel is reported. -/
  reports : (x.recorder.close b.watched (s.station x.interceptor)).1 = match x.recorder.detachment with
    | none => []
    | some d => Recorder.report x.recorder.channel ((b.stop d.2).result s.backend.state).1
  /-- The recorder is closed in any case. -/
  ended : (s.step b.watched (.close n)).recorders = s.recorders.set n x.ended
  /-- Closing an open recorder frees its channel in any case, and no other one. -/
  freed : x.recorder.closed = false → ∀ i c, c ∈ (s.step b.watched (.close n)).attached i ↔
    c ∈ s.attached i ∧ ¬(i = x.interceptor ∧ c = x.recorder.channel)
  /-- Closing a closed one changes nothing: a channel that was attached anew stays attached. -/
  again : x.recorder.closed = true → s.step b.watched (.close n) = s

theorem attachLawful (b : Backend σ δ) (s : Bench (Watched σ) (Nat × δ)) (i : Nat) (request : Request) :
    AttachLawful b s i request := by
  by_cases hattached : request.channel ∈ s.attached i
  · have hattach := Station.attach_attached b.watched (s := s.station i) hattached
    have hstep : s.step b.watched (.attach i request) = s := step_attach_attached hattached
    constructor
    · simp [hattach, hattached]
    · exact fun _ => hstep
    · exact fun hfree => absurd hattached hfree
    · exact fun _ _ => by rw [hstep]; exact ⟨rfl, rfl⟩
    · intro r hr
      rw [hattach] at hr
      cases hr
  · rcases hb : (b.start request).result s.backend.state with ⟨fault | d, state⟩
    · have hstart := start_watched_error b s.backend hb
      have hattach := Station.attach_refused (s := s.station i) hattached hstart
      have hstep := step_attach_refused hattached hstart
      constructor
      · simp [hattach, hb, hattached]
      · exact fun h => absurd h hattached
      · exact fun _ => by rw [hstep]; exact ⟨rfl, rfl⟩
      · exact fun _ _ => by rw [hstep]; exact ⟨rfl, rfl⟩
      · intro r hr
        rw [hattach] at hr
        cases hr
    · have hstart := start_watched_ok b s.backend hb
      have hattach := Station.attach_free (s := s.station i) hattached hstart
      have hstep := step_attach_ok hattached hstart
      constructor
      · simp [hattach, hb, hattached]
      · exact fun h => absurd h hattached
      · exact fun _ => by rw [hstep]; exact ⟨rfl, rfl⟩
      · intro fault hfault
        rw [hattach] at hfault
        cases hfault
      · intro r hr
        rw [hattach] at hr
        cases hr
        exact ⟨rfl, rfl, by rw [hstep]; rfl⟩

theorem closeLawful (b : Backend σ δ) {s : Bench (Watched σ) (Nat × δ)} {n : Nat} {x : Issued (Nat × δ)}
    (hx : s.recorders[n]? = some x) : CloseLawful b s n x := by
  cases hd : x.recorder.detachment with
  | none =>
    have hstep : s.step b.watched (.close n) = s := step_close_closed hx hd
    have hended : x.ended = x := by rw [Issued.ended, Recorder.ended_of_closed hd]
    constructor
    · rw [Recorder.close_closed b.watched hd, hd]
    · obtain ⟨hlt, rfl⟩ := List.getElem?_eq_some_iff.1 hx
      rw [hstep, hended, List.set_getElem_self]
    · intro hopen
      simp [Recorder.closed, hd] at hopen
    · exact fun _ => hstep
  | some d =>
    have hstep := step_close_open (b := b.watched) hx hd
    constructor
    · rw [Recorder.close_open b.watched hd, hd]
      rfl
    · rw [hstep, recorders_shut]
    · intro _ i c
      rw [hstep]
      exact mem_attached_shut ..
    · intro hclosed
      simp [Recorder.closed, hd] at hclosed

/-- **The life of an attachment**, for every backend and every run of moves. Watching the backend leaves the run as it
is. A channel is attached iff exactly one recorder is open for it. Attaching and closing do what they have to. The
backend was asked exactly once to detach what a closed recorder held, and never what an open one holds. -/
theorem lawful_run (b : Backend σ δ) (state : σ) (moves : List Move) :
    let s := ({ backend := { state } } : Bench (Watched σ) (Nat × δ)).run b.watched moves
    s.unwatched = ({ backend := state } : Bench σ δ).run b moves ∧
      (∀ i c, s.recorders.countP (Issued.holds i c) = if c ∈ s.attached i then 1 else 0) ∧
      (∀ i request, AttachLawful b s i request) ∧
      ∀ n x, s.recorders[n]? = some x →
        CloseLawful b s n x ∧ (∀ d, x.recorder.detachment = some d → d.1 = n) ∧
          s.backend.stops.count n = if x.recorder.closed then 1 else 0 := by
  have htracked := Tracked.run b state moves
  refine ⟨unwatched_run b _ moves, htracked.held, attachLawful b _, ?_⟩
  intro n x hx
  have hstops := htracked.stops n
  unfold closedAt at hstops
  rw [hx] at hstops
  exact ⟨closeLawful b hx, fun d => htracked.numbered n x d hx, hstops⟩

end Bench

end LogAssay
