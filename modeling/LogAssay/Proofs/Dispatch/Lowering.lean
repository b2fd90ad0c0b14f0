import LogAssay.Proofs.Attachment.Bench
import LogAssay.Proofs.Dispatch.Levels
import LogAssay.Session.Surroundings

/-!
# Levels that recorders lower

A recorder on a logger of a hub puts back the level that it found when it is closed. It does not know of the others:
closing one that lowered the level takes down the levels of those above it too. So nobody is disturbed exactly if none
of these asked for less than what is put back. Recorders that are closed in the reverse order of their making have
nobody above them.

## Main statement

* `undisturbed_iff`: in every state of a run the level is low enough for all open recorders, and what it was before
  when none is open, iff no recorder that lowered the level is closed while a later one is open that asked for less
  than the level to be put back.
-/

namespace LogAssay

open Dispatch

/-! ## Recorders of a hub -/

/-- Interceptors of one hub at work. -/
abbrev HubBench := Bench Surroundings Detachment

namespace Surroundings

variable {around : Surroundings}

theorem start_hub (h : around.hub.IsWilling) (request : Request) : ∃ around',
    (hubBackend.start request).result around = (.ok (.hub ⟨request.channel, around.nextSerial,
      Hub.found (around.hub.level request.channel) request.severity⟩), around') ∧
      around'.hub.refusal = around.hub.refusal ∧ ∀ name, around'.hub.level name
        = if name = request.channel then Hub.lowered (around.hub.level name) request.severity
          else around.hub.level name := by
  obtain ⟨hub, hattach, hrefusal, hlevel⟩ := Hub.result_attach h request around.nextSerial
  rw [result_attachHub, hattach]
  exact ⟨_, rfl, hrefusal, hlevel⟩

theorem stop_hub (h : around.hub.IsWilling) (d : Hub.Detachment) :
    let around' := ((hubBackend.stop (.hub d)).result around).2
    around'.hub.refusal = around.hub.refusal ∧ ∀ name, around'.hub.level name
      = if name = d.name then d.restored.elim (around.hub.level name) .text else around.hub.level name := by
  obtain ⟨hub, hdetach, hrefusal, hlevel⟩ := Hub.result_detach h d
  have hstop : hubBackend.stop (.hub d) = onHub (Hub.detach d) := rfl
  rw [hstop, result_onHub, hdetach]
  exact ⟨hrefusal, hlevel⟩

end Surroundings

namespace HubBench

variable {s s' : HubBench} {name before : String}

/-- Carries moves out, one after the other. -/
abbrev run (s : HubBench) (moves : List Move) : HubBench := Bench.run Surroundings.hubBackend s moves

/-- The level of a logger. -/
def level (s : HubBench) (name : String) : Value := s.backend.hub.level name

/-- What a recorder holds of a logger, if it is open on it. -/
def hold? (name : String) (x : Issued Detachment) : Option Hold :=
  match x.recorder.detachment with
  | some (.hub d) => if d.name = name then some ⟨x.request.severity, d.restored⟩ else none
  | _ => none

/-- What the open recorders of a logger hold, in the order of their making. -/
def holds (s : HubBench) (name : String) : List Hold := s.recorders.filterMap (hold? name)

/-- The level of a logger is low enough for its open recorders, and what it was before if it has none. -/
structure Undisturbed (s : HubBench) (name : String) (before : Value) : Prop where
  low_enough : ∀ x ∈ s.recorders, x.request.channel = name → x.recorder.closed = false →
    ∃ place, Hub.placeOf (s.level name) = some place ∧ place ≤ x.request.severity.rank
  put_back : (∀ x ∈ s.recorders, x.request.channel = name → x.recorder.closed = true) → s.level name = before

/-- Closing a recorder disturbs others of its logger: it puts back a level that it has lowered, and a later one is open
that asked for less than this level. -/
def Disturbs (s : HubBench) (name : String) (index : Nat) : Prop :=
  ∃ x serial level, s.recorders[index]? = some x ∧ x.recorder.detachment = some (.hub ⟨name, serial, some level⟩) ∧
    ∃ y ∈ s.recorders.drop (index + 1), y.request.channel = name ∧ y.recorder.closed = false ∧
      Hub.lowers (.text level) y.request.severity = true

/-! ## What is kept -/

/-- Nothing is refused, and each open recorder knows the logger that it was made for. -/
structure Ready (s : HubBench) : Prop where
  willing : s.backend.hub.IsWilling
  made : ∀ x ∈ s.recorders, ∀ d, x.recorder.detachment = some d →
    ∃ serial restored, d = .hub ⟨x.request.channel, serial, restored⟩

/-- The open recorders of a logger stand on a stack of levels. -/
structure Sound (name before : String) (s : HubBench) : Prop extends Ready s where
  stacked : ∃ top, s.level name = .text top ∧ Stacked before (s.holds name) top

theorem Ready.effect (h : s.Ready) {move : Move} (heffect : Bench.Effect Surroundings.hubBackend s move s') :
    Ready s' := by
  cases heffect with
  | nothing => exact h
  | @refused _ request _ _ hstart =>
    obtain ⟨around, hok, -, -⟩ := Surroundings.start_hub h.willing request
    cases hstart.symm.trans hok
  | @opened i request d around hfree hstart =>
    obtain ⟨around', hok, hrefusal, -⟩ := Surroundings.start_hub h.willing request
    cases hstart.symm.trans hok
    refine ⟨h.willing.congr hrefusal, ?_⟩
    intro x hx d hd
    rcases List.mem_append.1 hx with hx | hx
    · exact h.made x hx d hd
    · rw [List.mem_singleton.1 hx] at hd ⊢
      exact ⟨_, _, (Option.some.inj hd).symm⟩
  | @shut index x d hx hopen =>
    obtain ⟨serial, restored, rfl⟩ := h.made x (List.mem_of_getElem? hx) d hopen
    refine ⟨h.willing.congr ?_, ?_⟩
    · rw [Bench.backend_shut, Recorder.letGo_silent Surroundings.silent_hubBackend hopen]
      exact (Surroundings.stop_hub h.willing _).1
    intro y hy d hd
    rcases List.mem_or_eq_of_mem_set hy with hy | rfl
    · exact h.made y hy d hd
    · cases hd

theorem Ready.run (h : s.Ready) (moves : List Move) : Ready (s.run moves) :=
  Bench.run_induction (fun _ _ _ h heffect => h.effect heffect) moves h

/-- What an open recorder of a logger holds. -/
theorem hold?_of_open {x : Issued Detachment} {serial : Nat} {restored : Option String}
    (hopen : x.recorder.detachment = some (.hub ⟨name, serial, restored⟩)) :
    hold? name x = some ⟨x.request.severity, restored⟩ := by
  unfold hold?
  rw [hopen]
  exact if_pos rfl

theorem Ready.exists_detachment (h : s.Ready) {x : Issued Detachment} (hx : x ∈ s.recorders)
    (hopen : x.recorder.closed = false) :
    ∃ serial restored, x.recorder.detachment = some (.hub ⟨x.request.channel, serial, restored⟩) := by
  cases hd : x.recorder.detachment with
  | none => simp [Recorder.closed, hd] at hopen
  | some d =>
    obtain ⟨serial, restored, rfl⟩ := h.made x hx d hd
    exact ⟨serial, restored, rfl⟩

/-- Only the open recorders of a logger hold something of it. -/
theorem Ready.of_hold? (h : s.Ready) {x : Issued Detachment} (hx : x ∈ s.recorders) {y : Hold}
    (hhold : hold? name x = some y) :
    x.request.channel = name ∧ x.recorder.closed = false ∧ x.request.severity = y.asked := by
  cases hd : x.recorder.detachment with
  | none => simp [hold?, hd] at hhold
  | some d =>
    obtain ⟨serial, restored, rfl⟩ := h.made x hx d hd
    simp only [hold?, hd, Option.ite_none_right_eq_some, Option.some.injEq] at hhold
    obtain ⟨hname, rfl⟩ := hhold
    exact ⟨hname, by simp [Recorder.closed, hd], rfl⟩

/-- A list around one of its elements, and with another one in its place. -/
theorem set_eq_around {α : Type} {l : List α} {index : Nat} {x : α} (hx : l[index]? = some x) (y : α) :
    l = l.take index ++ x :: l.drop (index + 1) ∧ l.set index y = l.take index ++ y :: l.drop (index + 1) := by
  obtain ⟨hlt, rfl⟩ := List.getElem?_eq_some_iff.1 hx
  have hset : ∀ z, l.set index z = l.take index ++ z :: l.drop (index + 1) := by
    intro z
    rw [List.set_eq_take_append_cons_drop, if_pos hlt]
  refine ⟨?_, hset y⟩
  rw [← hset, List.set_getElem_self]

theorem holds_opened (s : HubBench) (i : Nat) (request : Request) (serial : Nat) (restored : Option String)
    (around : Surroundings) (name : String) :
    holds (s.opened i request (.hub ⟨request.channel, serial, restored⟩) around) name
      = if name = request.channel then s.holds name ++ [⟨request.severity, restored⟩] else s.holds name := by
  unfold holds
  rw [Bench.recorders_opened, List.filterMap_append]
  split
  · next hname =>
    subst hname
    rw [List.filterMap_cons_some (hold?_of_open rfl), List.filterMap_nil]
  · next hname =>
    rw [List.filterMap_cons_none, List.filterMap_nil, List.append_nil]
    exact if_neg fun he => hname he.symm

/-- What is held before and after a recorder is closed. -/
theorem holds_shut {index : Nat} {x : Issued Detachment} (hx : s.recorders[index]? = some x) (around : Surroundings)
    (name : String) :
    let earlier := (s.recorders.take index).filterMap (hold? name)
    let later := (s.recorders.drop (index + 1)).filterMap (hold? name)
    s.holds name = earlier ++ ((hold? name x).toList ++ later) ∧
      holds (s.shut index x around) name = earlier ++ later := by
  intro earlier later
  obtain ⟨hlist, hset⟩ := set_eq_around hx x.ended
  have hended : hold? name x.ended = none := rfl
  unfold holds
  constructor
  · rw [hlist, List.filterMap_append, List.filterMap_cons]
    cases hold? name x <;> rfl
  · rw [Bench.recorders_shut, hset, List.filterMap_append, List.filterMap_cons_none hended]

/-- The level of a logger after a recorder was closed. -/
theorem Ready.level_shut (h : s.Ready) (index : Nat) {x : Issued Detachment} {d : Hub.Detachment}
    (hopen : x.recorder.detachment = some (.hub d)) (other : String) :
    level (s.shut index x (x.recorder.letGo Surroundings.hubBackend s.backend)) other
      = if other = d.name then d.restored.elim (s.level other) .text else s.level other := by
  rw [Recorder.letGo_silent Surroundings.silent_hubBackend hopen]
  exact (Surroundings.stop_hub h.willing d).2 other

/-- One more recorder, on top of the stack of its logger. -/
theorem Sound.stacked_opened (h : Sound name before s) (i : Nat) {request : Request} (serial : Nat)
    {around : Surroundings} (hlevel : ∀ name, around.hub.level name
      = if name = request.channel then Hub.lowered (s.level name) request.severity else s.level name) :
    ∃ top, around.hub.level name = .text top ∧ Stacked before (holds (s.opened i request
      (.hub ⟨request.channel, serial, Hub.found (s.level request.channel) request.severity⟩) around) name) top := by
  obtain ⟨top, htop, hstacked⟩ := h.stacked
  rw [hlevel, holds_opened]
  split
  · next hname =>
    rw [← hname, htop]
    obtain ⟨top', hlowered, hpushed⟩ := hstacked.push request.severity
    exact ⟨top', hlowered, hpushed⟩
  · exact ⟨top, htop, hstacked⟩

/-- One recorder less, which disturbs nobody. -/
theorem Sound.stacked_shut (h : Sound name before s) {index : Nat} {x : Issued Detachment} {serial : Nat}
    {restored : Option String} (hx : s.recorders[index]? = some x)
    (hopen : x.recorder.detachment = some (.hub ⟨x.request.channel, serial, restored⟩))
    (hfair : ¬s.Disturbs name index) {around : Surroundings} (hlevel : ∀ name, around.hub.level name
      = if name = x.request.channel then restored.elim (s.level name) .text else s.level name) :
    ∃ top, around.hub.level name = .text top ∧ Stacked before (holds (s.shut index x around) name) top := by
  obtain ⟨top, htop, hstacked⟩ := h.stacked
  obtain ⟨hheld, hholds⟩ := holds_shut hx around name
  rw [hheld] at hstacked
  rw [hlevel, hholds]
  split
  · next hname =>
    subst hname
    rw [hold?_of_open hopen] at hstacked
    refine ⟨restored.getD top, by rw [htop]; cases restored <;> rfl, Stacked.remove ?_ hstacked⟩
    -- whoever is above and would be disturbed is a later open recorder
    intro level hfound y hy
    obtain rfl : restored = some level := hfound
    obtain ⟨z, hz, hhold⟩ := List.mem_filterMap.1 hy
    obtain ⟨hchannel, hzopen, hasked⟩ := h.toReady.of_hold? (List.mem_of_mem_drop hz) hhold
    rw [Bool.eq_false_iff]
    intro hlowers
    exact hfair ⟨x, serial, level, hx, hopen, z, hz, hchannel, hzopen, by rw [hasked]; exact hlowers⟩
  · next hname =>
    have hother : hold? name x = none := by
      unfold hold?
      rw [hopen]
      exact if_neg fun he => hname he.symm
    rw [hother] at hstacked
    exact ⟨top, htop, hstacked⟩

/-- **A move that disturbs nobody keeps the stack.** -/
theorem Sound.effect (h : Sound name before s) {move : Move}
    (heffect : Bench.Effect Surroundings.hubBackend s move s')
    (hfair : ∀ index, move = .close index → ¬s.Disturbs name index) : Sound name before s' := by
  refine ⟨h.toReady.effect heffect, ?_⟩
  cases heffect with
  | nothing => exact h.stacked
  | @refused _ request _ _ hstart =>
    obtain ⟨around, hok, -, -⟩ := Surroundings.start_hub h.willing request
    cases hstart.symm.trans hok
  | @opened i request d around hfree hstart =>
    obtain ⟨around', hok, -, hlevel⟩ := Surroundings.start_hub h.willing request
    cases hstart.symm.trans hok
    exact h.stacked_opened i s.backend.nextSerial hlevel
  | @shut index x d hx hopen =>
    obtain ⟨serial, restored, rfl⟩ := h.made x (List.mem_of_getElem? hx) d hopen
    exact h.stacked_shut hx hopen (hfair index rfl) (h.level_shut index hopen)

/-- **A run that disturbs nobody keeps the stack.** -/
theorem Sound.run : ∀ {s : HubBench} (moves : List Move), Sound name before s →
    (∀ earlier index, earlier ++ [.close index] <+: moves →
      ¬Disturbs (s.run earlier) name index) →
    Sound name before (s.run moves)
  | _, [], h, _ => h
  | s, move :: moves, h, hfair => by
    have hnext : Sound name before (s.step Surroundings.hubBackend move) := by
      refine h.effect (Bench.effect_step _ s move) ?_
      rintro index rfl
      exact hfair [] index (List.prefix_append [_] moves)
    refine Sound.run moves hnext ?_
    intro earlier index hprefix
    exact hfair (move :: earlier) index (List.cons_prefix_cons.2 ⟨rfl, hprefix⟩)

/-- On a stack of levels nobody is disturbed. -/
theorem Sound.undisturbed (h : Sound name before s) : s.Undisturbed name (.text before) := by
  obtain ⟨top, htop, hstacked⟩ := h.stacked
  constructor
  · rintro x hx rfl hopen
    obtain ⟨serial, restored, hd⟩ := h.exists_detachment hx hopen
    have hmem : ⟨x.request.severity, restored⟩ ∈ s.holds x.request.channel :=
      List.mem_filterMap.2 ⟨x, hx, hold?_of_open hd⟩
    rw [htop]
    exact Hub.lowers_eq_false_iff.1 (hstacked.not_lowers _ hmem)
  · intro hclosed
    have hholds : s.holds name = [] := by
      refine List.filterMap_eq_nil_iff.2 ?_
      intro x hx
      cases hhold : hold? name x with
      | none => rfl
      | some y =>
        obtain ⟨hchannel, hopen, -⟩ := h.toReady.of_hold? hx hhold
        rw [hclosed x hx hchannel] at hopen
        cases hopen
    rw [hholds] at hstacked
    cases hstacked
    exact htop

/-- Where closing a recorder disturbs another one, the level is too high for the other one from then on. -/
theorem Ready.not_undisturbed (h : s.Ready) {index : Nat} (hdisturbs : s.Disturbs name index) (level : Value) :
    ¬Undisturbed (s.step Surroundings.hubBackend (.close index)) name level := by
  obtain ⟨x, serial, found, hx, hopen, y, hy, hchannel, hyopen, hlowers⟩ := hdisturbs
  intro hundisturbed
  rw [Bench.step_close_open hx hopen] at hundisturbed
  have hlevel := h.level_shut index hopen name
  rw [if_pos rfl, Option.elim_some] at hlevel
  have hmem : y ∈ s.recorders.set index x.ended := by
    rw [(set_eq_around hx x.ended).2]
    exact List.mem_append_right _ (List.mem_cons_of_mem _ hy)
  obtain ⟨place, hplace, hle⟩ := hundisturbed.low_enough y hmem hchannel hyopen
  rw [hlevel] at hplace
  exact absurd (Hub.rank_lt_of_lowers hlowers hplace) (Nat.not_lt.2 hle)

/-- **When recorders of a logger do not disturb each other.** On a logger with a known level, through any number of
interceptors and in every state of a run, the level is at most what each open recorder asked for, and the level from
before when none is open, exactly if no recorder that lowered the level is closed while a later one is open that asked
for less than the level to be put back. -/
theorem undisturbed_iff {s : HubBench} (hnew : s.recorders = []) (hwilling : s.backend.hub.IsWilling) {name : String}
    {place : Nat} (hknown : Hub.placeOf (s.level name) = some place) (moves : List Move) :
    (∀ earlier, earlier <+: moves →
      Undisturbed (s.run earlier) name (s.level name)) ↔
    ∀ earlier index, earlier ++ [.close index] <+: moves →
      ¬Disturbs (s.run earlier) name index := by
  have hready : s.Ready := ⟨hwilling, by simp [hnew]⟩
  constructor
  · intro hall earlier index hprefix hdisturbs
    refine (hready.run earlier).not_undisturbed hdisturbs (s.level name) ?_
    have hstep := hall _ hprefix
    unfold run Bench.run at hstep
    rw [List.foldl_append] at hstep
    exact hstep
  · intro hfair earlier hprefix
    obtain ⟨level, hlevel⟩ : ∃ level, s.level name = .text level := by
      unfold Hub.placeOf at hknown
      split at hknown
      · next level heq => exact ⟨level, heq⟩
      · cases hknown
    have hsound : Sound name level s := by
      refine ⟨hready, level, hlevel, ?_⟩
      unfold holds
      rw [hnew]
      exact .nil level
    rw [hlevel]
    refine (hsound.run earlier ?_).undisturbed
    intro before index hbefore
    exact hfair before index (hbefore.trans hprefix)

/-! Two recorders on a logger at `INFO`: the first one lowers the level to `DEBUG`, the second one to `TRACE`. -/

/-- Interceptors of a new hub. -/
def atRest : HubBench := { backend := { now := ⟨0⟩ } }

def fineThenFinest : List Move :=
  [.attach 0 ⟨"app", .fine, "", .named "a"⟩, .attach 1 ⟨"app", .finest, "", .named "b"⟩]

/-- Closed in reverse order they disturb nobody. -/
theorem undisturbed_iff_nested : Hub.placeOf (atRest.level "app") = some 2 ∧
    ∀ earlier, earlier <+: fineThenFinest ++ [.close 1, .close 0] →
      Undisturbed (atRest.run earlier) "app" (atRest.level "app") := by
  have hknown : Hub.placeOf (atRest.level "app") = some 2 := by decide
  have hiff := undisturbed_iff (s := atRest) rfl (fun _ => rfl) hknown (fineThenFinest ++ [.close 1, .close 0])
  refine ⟨hknown, hiff.2 ?_⟩
  intro earlier index hprefix hdisturbs
  have hcases : (earlier = fineThenFinest ∧ index = 1) ∨ (earlier = fineThenFinest ++ [.close 1] ∧ index = 0) := by
    obtain ⟨others, heq⟩ := hprefix
    unfold fineThenFinest at heq ⊢
    match earlier, heq with
    | [], heq => simp at heq
    | [_], heq => simp at heq
    | [_, _], heq =>
      left
      simp at heq
      simp [heq]
    | [_, _, _], heq =>
      right
      simp at heq
      simp [heq]
    | _ :: _ :: _ :: _ :: _, heq => simp at heq
  obtain ⟨x, serial, level, -, -, y, hy, -, hopen, -⟩ := hdisturbs
  rcases hcases with ⟨rfl, rfl⟩ | ⟨rfl, rfl⟩
  · have hnone : (atRest.run fineThenFinest).recorders.drop 2 = [] := by rfl
    rw [hnone] at hy
    cases hy
  · have hclosed : (atRest.run (fineThenFinest ++ [.close 1])).recorders.drop 1
        = [⟨1, ⟨"app", .finest, "", .named "b"⟩, ⟨"app", none⟩⟩] := by rfl
    rw [hclosed, List.mem_singleton] at hy
    rw [hy] at hopen
    cases hopen

/-- Closed in the order of their making, the first one puts `INFO` back while the second one is open, and the second one
leaves the logger at `DEBUG`. -/
theorem not_undisturbed_crossed :
    let one := atRest.run (fineThenFinest ++ [.close 0])
    let both := atRest.run (fineThenFinest ++ [.close 0, .close 1])
    atRest.level "app" = .text "INFO" ∧ one.level "app" = .text "INFO" ∧ both.level "app" = .text "DEBUG" ∧
      ¬one.Undisturbed "app" (atRest.level "app") ∧ ¬both.Undisturbed "app" (atRest.level "app") := by
  have hone : level (atRest.run (fineThenFinest ++ [.close 0])) "app" = .text "INFO" := by rfl
  have hboth : level (atRest.run (fineThenFinest ++ [.close 0, .close 1])) "app" = .text "DEBUG" := by rfl
  intro one both
  refine ⟨rfl, hone, hboth, ?_, ?_⟩
  · intro h
    have hopen : (atRest.run (fineThenFinest ++ [.close 0])).recorders[1]?
        = some ⟨1, ⟨"app", .finest, "", .named "b"⟩, ⟨"app", some (.hub ⟨"app", 1, some "DEBUG"⟩)⟩⟩ := by rfl
    obtain ⟨place, hplace, hle⟩ := h.low_enough _ (List.mem_of_getElem? hopen) rfl rfl
    rw [hone] at hplace
    obtain rfl : 2 = place := Option.some.inj hplace
    cases hle
  · intro h
    have hclosed : (atRest.run (fineThenFinest ++ [.close 0, .close 1])).recorders.map (·.recorder.closed)
        = [true, true] := by rfl
    have hback := h.put_back ?_
    · rw [hboth, show atRest.level "app" = .text "INFO" from rfl] at hback
      simp at hback
    · intro x hx _
      have hmem := List.mem_map_of_mem (f := fun x : Issued Detachment => x.recorder.closed) hx
      rw [hclosed] at hmem
      simpa using hmem

end HubBench

end LogAssay
