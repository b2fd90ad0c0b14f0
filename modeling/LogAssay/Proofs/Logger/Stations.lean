import LogAssay.Session.Surroundings
import LogAssay.Proofs.Attachment.Bench
import LogAssay.Proofs.Logger.Ledger

/-!
# Interceptors at work

Several interceptors attach channels of one logger tree and close their recorders again, in any order. A move is
one attachment or one closing. `Effect` says all that a move can do: nothing, one more open attachment, or one
less. The recorders that are open are the ledger of the tree, and every run of moves keeps it (`Sound.run`).
-/

namespace LogAssay

open LoggerTree (Holder Holds)

/-- A recorder with the interceptor that made it and what the interceptor was asked for. -/
structure Made where
  interceptor : Nat
  request : Request
  recorder : Recorder Detachment

namespace Made

/-- The native level that a recorder asks for. -/
def native (m : Made) : Int := Thresholds.standardLevel m.request.severity

/-- The open attachment that a recorder stands for. -/
def holder? (m : Made) : Option Holder :=
  match m.recorder.detachment with
  | some (.tree d) => some ⟨d.serial, m.request⟩
  | _ => none

/-- The recorder after it was closed. -/
def shut (m : Made) : Made := { m with recorder := { m.recorder with detachment := none } }

/-- Whether a recorder is closed or knows the attachment that it was made for. -/
def IsTree (m : Made) : Prop :=
  ∀ d, m.recorder.detachment = some d → ∃ serial, d = .tree ⟨m.request.channel, serial⟩

theorem IsTree.exists_serial {m : Made} (h : m.IsTree) (hopen : m.recorder.closed = false) :
    ∃ serial, m.recorder.detachment = some (.tree ⟨m.request.channel, serial⟩) := by
  cases hd : m.recorder.detachment with
  | none => simp [Recorder.closed, hd] at hopen
  | some d =>
    obtain ⟨serial, rfl⟩ := h d hd
    exact ⟨serial, rfl⟩

theorem IsTree.shut (m : Made) : m.shut.IsTree := by
  intro d hd
  cases hd

end Made

/-- Interceptors of one logger tree, with the channels that each has attached and all recorders made so far. -/
structure Stations where
  around : Surroundings
  attached : Nat → List String := fun _ => []
  recorders : List Made := []

namespace Stations

/-! ## Moves -/

/-- What one interceptor sees. -/
def station (s : Stations) (interceptor : Nat) : Station Surroundings :=
  ⟨s.attached interceptor, s.around⟩

/-- The interceptors after one of them has done something. -/
def withStation (s : Stations) (interceptor : Nat) (station : Station Surroundings) : Stations :=
  { s with
    around := station.backend
    attached := fun i => if i = interceptor then station.attached else s.attached i }

/-- Carries a move out. -/
def step (s : Stations) : Move → Stations
  | .attach i request =>
    match Station.attach Surroundings.treeBackend request (s.station i) with
    | (.error _, station) => s.withStation i station
    | (.ok recorder, station) =>
      { s.withStation i station with recorders := s.recorders ++ [⟨i, request, recorder⟩] }
  | .close index =>
    match s.recorders[index]? with
    | none => s
    | some m =>
      let (_, recorder, station) := m.recorder.close Surroundings.treeBackend (s.station m.interceptor)
      { s.withStation m.interceptor station with
        recorders := s.recorders.set index { m with recorder := recorder } }

/-- Carries moves out, one after the other. -/
def run (s : Stations) (moves : List Move) : Stations := moves.foldl step s

theorem run_append (s : Stations) (moves more : List Move) :
    s.run (moves ++ more) = (s.run moves).run more := List.foldl_append

/-- No recorder has been made, no level is overridden, and the numbers of handlers to come are new. -/
structure IsInitial (s : Stations) : Prop where
  recorders : s.recorders = []
  overrides : ∀ name, s.around.tree.overrides.get (Logger.canonical name) = none
  serials : ∀ name, ∀ h ∈ (s.around.tree.logger name).handlers, h.serial < s.around.nextSerial

/-! ## What a move does -/

/-- What a move leaves of the surroundings and of the recorders. -/
inductive Effect (s : Stations) : Surroundings → List Made → Prop where
  | nothing : Effect s s.around s.recorders
  | attached (interceptor : Nat) (request : Request) :
    Effect s
      { s.around with
        nextSerial := s.around.nextSerial + 1
        tree := s.around.tree.attach request s.around.nextSerial }
      (s.recorders ++ [⟨interceptor, request,
        ⟨request.channel, some (.tree ⟨request.channel, s.around.nextSerial⟩)⟩⟩])
  | closed {index : Nat} {m : Made} {serial : Nat} (hm : s.recorders[index]? = some m)
    (hopen : m.recorder.detachment = some (.tree ⟨m.request.channel, serial⟩)) :
    Effect s { s.around with tree := s.around.tree.detach ⟨m.request.channel, serial⟩ }
      (s.recorders.set index m.shut)

theorem effect_attach (s : Stations) (interceptor : Nat) (request : Request) :
    Effect s (s.step (.attach interceptor request)).around
      (s.step (.attach interceptor request)).recorders := by
  by_cases h : request.channel ∈ (s.station interceptor).attached
  · have hstep : s.step (.attach interceptor request) = s.withStation interceptor (s.station interceptor) := by
      rw [step, Station.attach_attached _ h]
    rw [hstep]
    exact .nothing
  · have hattach : Station.attach Surroundings.treeBackend request (s.station interceptor)
        = (.ok ⟨request.channel, some (.tree ⟨request.channel, s.around.nextSerial⟩)⟩,
          ⟨request.channel :: s.attached interceptor,
            { s.around with
              nextSerial := s.around.nextSerial + 1
              tree := s.around.tree.attach request s.around.nextSerial }⟩) := Station.attach_free h rfl
    rw [step, hattach]
    exact .attached interceptor request

/-- Closing an open recorder. -/
theorem step_close {s : Stations} {index : Nat} {m : Made} {serial : Nat}
    (hm : s.recorders[index]? = some m)
    (hopen : m.recorder.detachment = some (.tree ⟨m.request.channel, serial⟩)) :
    (s.step (.close index)).around
        = { s.around with tree := s.around.tree.detach ⟨m.request.channel, serial⟩ } ∧
      (s.step (.close index)).recorders = s.recorders.set index m.shut := by
  have hclose : m.recorder.close Surroundings.treeBackend (s.station m.interceptor)
      = ([], { m.recorder with detachment := none },
        ⟨(s.attached m.interceptor).filter (· ≠ m.recorder.channel),
          { s.around with tree := s.around.tree.detach ⟨m.request.channel, serial⟩ }⟩) := by
    rw [Recorder.close_open _ hopen, Recorder.letGo_silent Surroundings.silent_treeBackend hopen]
    rfl
  rw [step, hm]
  simp only [hclose]
  exact ⟨rfl, rfl⟩

theorem effect_close {s : Stations} (h : ∀ m ∈ s.recorders, m.IsTree) (index : Nat) :
    Effect s (s.step (.close index)).around (s.step (.close index)).recorders := by
  cases hm : s.recorders[index]? with
  | none =>
    rw [step, hm]
    exact .nothing
  | some m =>
    cases hd : m.recorder.detachment with
    | none =>
      rw [step, hm]
      simp only [Recorder.close_closed _ hd]
      obtain ⟨hlt, rfl⟩ := List.getElem?_eq_some_iff.1 hm
      show Effect s s.around (s.recorders.set index s.recorders[index])
      rw [List.set_getElem_self]
      exact .nothing
    | some d =>
      obtain ⟨serial, rfl⟩ := h m (List.mem_of_getElem? hm) d hd
      obtain ⟨haround, hrecorders⟩ := step_close hm hd
      rw [haround, hrecorders]
      exact .closed hm hd

/-! ## The ledger -/

/-- The open attachments. -/
def ledger (s : Stations) : List Holder := s.recorders.filterMap Made.holder?

/-- Closing a recorder takes its attachment out of the open ones. -/
theorem filterMap_holder?_set {x : Holder} : ∀ {recorders : List Made} {index : Nat} {m : Made},
    ((recorders.filterMap Made.holder?).map Holder.serial).Nodup → recorders[index]? = some m →
    m.holder? = some x →
    (recorders.set index m.shut).filterMap Made.holder?
      = (recorders.filterMap Made.holder?).filter (·.serial ≠ x.serial)
  -- the recorder itself is the first one: no other attachment has its number
  | first :: recorders, 0, m, unique, hm, hx => by
    obtain rfl : first = m := by simpa using hm
    have hshut : first.shut.holder? = none := rfl
    rw [List.filterMap_cons_some hx, List.map_cons, List.nodup_cons] at unique
    rw [List.set_cons_zero, List.filterMap_cons_none hshut, List.filterMap_cons_some hx,
      List.filter_cons_of_neg (by simp), List.filter_eq_self.2]
    intro y hy
    rw [decide_eq_true_eq]
    intro hserial
    exact unique.1 (hserial ▸ List.mem_map_of_mem hy)
  | first :: recorders, index + 1, m, unique, hm, hx => by
    rw [List.getElem?_cons_succ] at hm
    have hmem : x ∈ recorders.filterMap Made.holder? :=
      List.mem_filterMap.2 ⟨m, List.mem_of_getElem? hm, hx⟩
    rw [List.set_cons_succ]
    cases hfirst : first.holder? with
    | none =>
      rw [List.filterMap_cons_none hfirst] at unique
      rw [List.filterMap_cons_none hfirst, List.filterMap_cons_none hfirst]
      exact filterMap_holder?_set unique hm hx
    | some y =>
      rw [List.filterMap_cons_some hfirst, List.map_cons, List.nodup_cons] at unique
      have hne : y.serial ≠ x.serial := fun h => unique.1 (h ▸ List.mem_map_of_mem hmem)
      rw [List.filterMap_cons_some hfirst, List.filterMap_cons_some hfirst,
        List.filter_cons_of_pos (by simpa using hne), filterMap_holder?_set unique.2 hm hx]

/-! ## Soundness -/

/-- The open attachments are the ledger of the tree. Their handlers have numbers of their own, from some first
number on. -/
structure Sound (t₀ : LoggerTree) (first : Nat) (s : Stations) : Prop where
  trees : ∀ m ∈ s.recorders, m.IsTree
  holds : Holds t₀ s.around.tree s.ledger
  unique : (s.ledger.map Holder.serial).Nodup
  serials : ∀ x ∈ s.ledger, first ≤ x.serial ∧ x.serial < s.around.nextSerial
  first_le : first ≤ s.around.nextSerial

theorem IsInitial.sound {s : Stations} (h : s.IsInitial) :
    Sound s.around.tree s.around.nextSerial s := by
  have hledger : s.ledger = [] := by rw [ledger, h.recorders]; rfl
  refine ⟨?_, ?_, ?_, ?_, Nat.le_refl _⟩
  · rw [h.recorders]
    intro m hm
    cases hm
  · rw [hledger]
    exact .initial h.overrides
  · rw [hledger]
    exact List.nodup_nil
  · rw [hledger]
    intro x hx
    cases hx

namespace Sound

variable {t₀ : LoggerTree} {first : Nat} {s : Stations}

theorem effect (h : Sound t₀ first s) (move : Move) :
    Effect s (s.step move).around (s.step move).recorders := by
  cases move with
  | attach interceptor request => exact effect_attach s interceptor request
  | close index => exact effect_close h.trees index

theorem mem_ledger {index : Nat} {m : Made} {serial : Nat} (hm : s.recorders[index]? = some m)
    (hopen : m.recorder.detachment = some (.tree ⟨m.request.channel, serial⟩)) :
    ⟨serial, m.request⟩ ∈ s.ledger := by
  refine List.mem_filterMap.2 ⟨m, List.mem_of_getElem? hm, ?_⟩
  rw [Made.holder?, hopen]

theorem exists_of_mem_ledger (h : Sound t₀ first s) {x : Holder} (hx : x ∈ s.ledger) :
    ∃ (index : Nat) (m : Made) (serial : Nat), s.recorders[index]? = some m ∧
      m.recorder.detachment = some (.tree ⟨m.request.channel, serial⟩) ∧ x = ⟨serial, m.request⟩ := by
  obtain ⟨m, hmem, hholder⟩ := List.mem_filterMap.1 hx
  obtain ⟨index, hindex⟩ := List.getElem?_of_mem hmem
  cases hd : m.recorder.detachment with
  | none => simp [Made.holder?, hd] at hholder
  | some d =>
    obtain ⟨serial, rfl⟩ := h.trees m hmem d hd
    rw [Made.holder?, hd] at hholder
    exact ⟨index, m, serial, hindex, hd, (Option.some.inj hholder).symm⟩

/-- The ledger after a recorder was closed. -/
theorem ledger_closed (h : Sound t₀ first s) {index : Nat} {m : Made} {serial : Nat}
    (hm : s.recorders[index]? = some m)
    (hopen : m.recorder.detachment = some (.tree ⟨m.request.channel, serial⟩)) :
    (s.recorders.set index m.shut).filterMap Made.holder? = s.ledger.filter (·.serial ≠ serial) := by
  have hx : m.holder? = some ⟨serial, m.request⟩ := by rw [Made.holder?, hopen]
  exact filterMap_holder?_set (x := ⟨serial, m.request⟩) h.unique hm hx

/-- One more open attachment. Its number is new, so that the numbers stay different. -/
theorem attached (h : Sound t₀ first s) (interceptor : Nat) (request : Request) {channels : Nat → List String} :
    Sound t₀ first ⟨{ s.around with
        nextSerial := s.around.nextSerial + 1
        tree := s.around.tree.attach request s.around.nextSerial },
      channels, s.recorders ++ [⟨interceptor, request,
        ⟨request.channel, some (.tree ⟨request.channel, s.around.nextSerial⟩)⟩⟩]⟩ := by
  have hledger : ∀ m : Made, m.holder? = some ⟨s.around.nextSerial, request⟩ →
      (s.recorders ++ [m]).filterMap Made.holder? = s.ledger ++ [⟨s.around.nextSerial, request⟩] := by
    intro m hm
    rw [List.filterMap_append, List.filterMap_cons_some hm]
    rfl
  refine ⟨?_, ?_, ?_, ?_, Nat.le_succ_of_le h.first_le⟩
  · intro m hm d hd
    rcases List.mem_append.1 hm with hm | hm
    · exact h.trees m hm d hd
    · rw [List.mem_singleton.1 hm] at hd ⊢
      exact ⟨_, (Option.some.inj hd).symm⟩
  · rw [ledger, hledger _ rfl]
    exact h.holds.attach request _
  · rw [ledger, hledger _ rfl, List.map_append, List.nodup_append]
    refine ⟨h.unique, by simp, ?_⟩
    intro a ha b hb
    obtain ⟨x, hx, rfl⟩ := List.mem_map.1 ha
    have hlt := (h.serials x hx).2
    rw [List.map_singleton, List.mem_singleton] at hb
    rw [hb]
    show x.serial ≠ s.around.nextSerial
    omega
  · rw [ledger, hledger _ rfl]
    intro x hx
    show first ≤ x.serial ∧ x.serial < s.around.nextSerial + 1
    rcases List.mem_append.1 hx with hx | hx
    · have := h.serials x hx
      omega
    · rw [List.mem_singleton.1 hx]
      exact ⟨h.first_le, Nat.lt_succ_self _⟩

/-- One open attachment less. The handlers that were there before any move have lower numbers, so they stay. -/
theorem closed (h : Sound t₀ first s)
    (before : ∀ name, ∀ y ∈ (t₀.logger name).handlers, y.serial < first) {index : Nat} {m : Made} {serial : Nat}
    (hm : s.recorders[index]? = some m)
    (hopen : m.recorder.detachment = some (.tree ⟨m.request.channel, serial⟩)) {channels : Nat → List String} :
    Sound t₀ first ⟨{ s.around with tree := s.around.tree.detach ⟨m.request.channel, serial⟩ }, channels,
      s.recorders.set index m.shut⟩ := by
  have hx := mem_ledger hm hopen
  have hledger := h.ledger_closed hm hopen
  refine ⟨?_, ?_, ?_, ?_, h.first_le⟩
  · intro y hy
    rcases List.mem_or_eq_of_mem_set hy with hy | rfl
    · exact h.trees y hy
    · exact .shut m
  · rw [ledger, hledger]
    refine h.holds.detach h.unique hx ?_
    intro name y hy
    have hlt := before name y hy
    have hfirst : first ≤ serial := (h.serials _ hx).1
    show y.serial ≠ serial
    omega
  · rw [ledger, hledger]
    exact h.unique.sublist (List.filter_sublist.map _)
  · rw [ledger, hledger]
    intro x hmem
    exact h.serials x (List.mem_filter.1 hmem).1

end Sound

theorem Effect.sound {t₀ : LoggerTree} {first : Nat} {s : Stations} {around : Surroundings}
    {recorders : List Made} (heffect : Effect s around recorders) (h : Sound t₀ first s)
    (before : ∀ name, ∀ y ∈ (t₀.logger name).handlers, y.serial < first) (channels : Nat → List String) :
    Sound t₀ first ⟨around, channels, recorders⟩ := by
  cases heffect with
  | nothing => exact ⟨h.trees, h.holds, h.unique, h.serials, h.first_le⟩
  | attached interceptor request => exact h.attached interceptor request
  | closed hm hopen => exact h.closed before hm hopen

/-- **Every move keeps the ledger.** -/
theorem Sound.step {t₀ : LoggerTree} {first : Nat} {s : Stations} (h : Sound t₀ first s)
    (before : ∀ name, ∀ y ∈ (t₀.logger name).handlers, y.serial < first) (move : Move) :
    Sound t₀ first (s.step move) := (h.effect move).sound h before _

/-- **Every run of moves keeps the ledger.** -/
theorem Sound.run {t₀ : LoggerTree} {first : Nat}
    (before : ∀ name, ∀ y ∈ (t₀.logger name).handlers, y.serial < first) :
    ∀ {s : Stations} (moves : List Move), Sound t₀ first s → Sound t₀ first (s.run moves)
  | _, [], h => h
  | _, move :: moves, h => Sound.run before moves (h.step before move)

theorem IsInitial.sound_run {s : Stations} (h : s.IsInitial) (moves : List Move) :
    Sound s.around.tree s.around.nextSerial (s.run moves) :=
  h.sound.run h.serials moves

end Stations

end LogAssay
