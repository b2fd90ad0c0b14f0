import LogAssay.Proofs.Logger.Stations

/-!
# What an open recorder hears

A recorder hears its logger if the level in force there does not hold back what the recorder asks for. Attaching
sees to that. But the level in force may be inherited from a logger that is lowered only as long as others are
attached to it, and attaching does not lower a logger that already inherits a level that is low enough.

## Main statements

* `hears_iff`: when an open recorder hears its logger, and when it is sure to do so until it is closed.
* `not_hears_enclosed`: closing the recorder of an enclosing logger can leave an open recorder deaf.
-/

namespace LogAssay

namespace LoggerTree

open Logger

/-! ## Where a level in force comes from -/

/-- The logger that the level in force comes from, if any has one. -/
def source? (t : LoggerTree) (name : String) : Option String :=
  (outward name).find? fun m => (t.logger m).level ≠ 0

theorem firstLevel_of_find? {t : LoggerTree} {source : String} : ∀ {path : List String},
    path.find? (fun m => (t.logger m).level ≠ 0) = some source → t.firstLevel path = (t.logger source).level
  | m :: path, h => by
    rw [firstLevel]
    by_cases hm : (t.logger m).level = 0
    · rw [List.find?_cons_of_neg (by simp [hm])] at h
      rw [if_pos hm]
      exact firstLevel_of_find? h
    · rw [List.find?_cons_of_pos (by simp [hm])] at h
      obtain rfl := Option.some.inj h
      rw [if_neg hm]

/-- The level in force is low enough whatever becomes of other loggers. -/
def Secured (t₀ t : LoggerTree) (name : String) (native : Int) : Prop :=
  t₀.effectiveLevel name ≤ native ∨ ∃ v, t.applied? name = some v ∧ v ≤ native

namespace Holds

variable {t₀ t : LoggerTree} {hs : List Holder}

/-- A level in force is what it was, or the level that its source was lowered to. -/
theorem firstLevel_origin (h : Holds t₀ t hs) : ∀ path : List String,
    t.firstLevel path = t₀.firstLevel path ∨
      ∃ source v, path.find? (fun m => (t.logger m).level ≠ 0) = some source ∧
        t.applied? source = some v ∧ t.firstLevel path = v
  | [] => .inl rfl
  | m :: path => by
    have hlevel := h.level m
    rw [firstLevel, firstLevel]
    cases happlied : t.applied? m with
    | some v =>
      -- a lowered logger has a level, so the search ends here
      rw [happlied, Option.getD_some] at hlevel
      have hne : (t.logger m).level ≠ 0 := by
        have := (h.lowered m v happlied).1
        omega
      refine .inr ⟨m, v, List.find?_cons_of_pos (by simp [hne]), happlied, ?_⟩
      rw [if_neg hne, hlevel]
    | none =>
      rw [happlied, Option.getD_none] at hlevel
      rw [hlevel]
      by_cases hzero : (t₀.logger m).level = 0
      · rw [if_pos hzero, if_pos hzero, List.find?_cons_of_neg (by simp [hlevel, hzero])]
        exact h.firstLevel_origin path
      · rw [if_neg hzero, if_neg hzero]
        exact .inl rfl

theorem effectiveLevel_le_iff (h : Holds t₀ t hs) (name : String) (native : Int) :
    t.effectiveLevel name ≤ native ↔ t₀.effectiveLevel name ≤ native ∨
      ∃ source v, t.source? name = some source ∧ t.applied? source = some v ∧ v ≤ native := by
  constructor
  · intro hle
    rcases h.firstLevel_origin (outward name) with hsame | ⟨source, v, hsource, happlied, hv⟩
    · rw [effectiveLevel, hsame] at hle
      exact .inl hle
    · rw [effectiveLevel, hv] at hle
      exact .inr ⟨source, v, hsource, happlied, hle⟩
  · rintro (hle | ⟨source, v, hsource, happlied, hle⟩)
    · exact Int.le_trans (h.effectiveLevel_le name) hle
    · have hlevel := h.level source
      rw [happlied, Option.getD_some] at hlevel
      rw [effectiveLevel, firstLevel_of_find? hsource, hlevel]
      exact hle

/-- The level that a logger was lowered to is in force for it. -/
theorem effectiveLevel_of_applied (h : Holds t₀ t hs) {name : String} {v : Int}
    (happlied : t.applied? name = some v) : t.effectiveLevel name = v := by
  have hlevel := h.level name
  have hpos := (h.lowered name v happlied).1
  rw [happlied, Option.getD_some] at hlevel
  rw [effectiveLevel_of_ne_zero (by omega), hlevel]

theorem effectiveLevel_le_of_secured (h : Holds t₀ t hs) {name : String} {native : Int}
    (hs : Secured t₀ t name native) : t.effectiveLevel name ≤ native := by
  rcases hs with hle | ⟨v, happlied, hle⟩
  · exact Int.le_trans (h.effectiveLevel_le name) hle
  · rwa [h.effectiveLevel_of_applied happlied]

/-- If nothing else is attached, then a level in force that is low enough is secured. -/
theorem secured_of_effectiveLevel_le (h : Holds t₀ t hs) {name : String} {native : Int}
    (alone : ∀ x ∈ hs, canonical x.request.channel = canonical name)
    (hle : t.effectiveLevel name ≤ native) : Secured t₀ t name native := by
  cases happlied : t.applied? name with
  | some v => exact .inr ⟨v, happlied, by rwa [h.effectiveLevel_of_applied happlied] at hle⟩
  | none =>
    -- no logger is lowered, so every level is what it was
    refine .inl ?_
    have hlevels : ∀ m, (t.logger m).level = (t₀.logger m).level := by
      intro m
      have hnone : t.applied? m = none := by
        by_cases hm : canonical m = canonical name
        · rw [t.applied?_congr hm, happlied]
        · have hon : on hs m = [] := by
            rw [on, List.filter_eq_nil_iff]
            intro x hx
            rw [decide_eq_true_eq, alone x hx]
            exact fun hname => hm hname.symm
          rw [applied?, h.free m hon]
          rfl
      rw [h.level, hnone]
      rfl
    rwa [effectiveLevel, firstLevel_congr fun m _ => hlevels m] at hle

end Holds

end LoggerTree

namespace Stations

open Logger LoggerTree

/-- The level in force for the logger of a recorder lets through what the recorder asks for. -/
def Hears (s : Stations) (m : Made) : Prop := s.around.tree.effectiveLevel m.request.channel ≤ m.native

/-- An event that reaches the level of a recorder is let through by the logger and taken by the handler. -/
def Gets (s : Stations) (m : Made) (level : Int) : Prop :=
  s.around.tree.isOpen m.request.channel level = true ∧
    ∃ x, m.holder? = some x ∧ x.handler ∈ s.around.tree.takers m.request.channel level

namespace Sound

variable {t₀ : LoggerTree} {first : Nat} {s : Stations} {i : Nat} {m : Made} {serial : Nat}

/-! ## Hearing -/

theorem handler_mem_takers (h : Sound t₀ first s) (hm : s.recorders[i]? = some m)
    (hopen : m.recorder.detachment = some (.tree ⟨m.request.channel, serial⟩)) {level : Int}
    (hlevel : m.native ≤ level) :
    (Holder.mk serial m.request).handler ∈ s.around.tree.takers m.request.channel level := by
  have hmem : (Holder.mk serial m.request).handler ∈ (s.around.tree.logger m.request.channel).handlers := by
    rw [h.holds.handlers]
    refine List.mem_append_right _ (List.mem_map_of_mem (List.mem_filter.2 ⟨mem_ledger hm hopen, ?_⟩))
    exact decide_eq_true rfl
  exact mem_takers_self hmem hlevel

/-- The level in force is all that can keep an event from an open recorder. -/
theorem hears_iff_gets (h : Sound t₀ first s) (hm : s.recorders[i]? = some m)
    (hopen : m.recorder.detachment = some (.tree ⟨m.request.channel, serial⟩)) :
    s.Hears m ↔ ∀ level, m.native ≤ level → s.Gets m level := by
  have hpos : 0 < m.native := Thresholds.standardLevel_pos _
  constructor
  · intro hears level hlevel
    refine ⟨?_, ⟨serial, m.request⟩, ?_, h.handler_mem_takers hm hopen hlevel⟩
    · have hle : s.around.tree.effectiveLevel m.request.channel ≤ level := Int.le_trans hears hlevel
      exact isOpen_iff.2 ⟨by omega, hle⟩
    · rw [Made.holder?, hopen]
  · intro hall
    exact (isOpen_iff.1 (hall m.native (Int.le_refl _)).1).2

/-! ## Until the recorder is closed -/

theorem getElem?_effect {around : Surroundings} {recorders : List Made} (heffect : Effect s around recorders)
    (hm : s.recorders[i]? = some m) : recorders[i]? = some m ∨ recorders[i]? = some m.shut := by
  obtain ⟨hlt, -⟩ := List.getElem?_eq_some_iff.1 hm
  cases heffect with
  | nothing => exact .inl hm
  | attached interceptor request => exact .inl (by rw [List.getElem?_append_left hlt, hm])
  | @closed index other serial' hother hopen =>
    by_cases hi : index = i
    · subst hi
      obtain rfl : m = other := Option.some.inj (hm.symm.trans hother)
      exact .inr (List.getElem?_set_self hlt)
    · exact .inl (by rw [List.getElem?_set_ne hi, hm])

/-- A move leaves a recorder as it is or closes it. -/
theorem getElem?_step (h : Sound t₀ first s) (hm : s.recorders[i]? = some m) (move : Move) :
    (s.step move).recorders[i]? = some m ∨ (s.step move).recorders[i]? = some m.shut :=
  getElem?_effect (h.effect move) hm

section Run

variable (before : ∀ name, ∀ y ∈ (t₀.logger name).handlers, y.serial < first)
include before

theorem getElem?_run : ∀ (moves : List Move) {s : Stations} {m : Made}, Sound t₀ first s →
    s.recorders[i]? = some m →
    (s.run moves).recorders[i]? = some m ∨ (s.run moves).recorders[i]? = some m.shut
  | [], _, _, _, hm => .inl hm
  | move :: moves, s, m, h, hm => by
    have hstep := h.step before move
    show ((s.step move).run moves).recorders[i]? = _ ∨ ((s.step move).run moves).recorders[i]? = _
    rcases h.getElem?_step hm move with hsame | hshut
    · exact getElem?_run moves hstep hsame
    · rcases getElem?_run moves hstep hshut with hs | hs
      · exact .inr hs
      · exact .inr hs

/-- What is open after a run was open all the time. -/
theorem getElem?_step_of_run (h : Sound t₀ first s) (hm : s.recorders[i]? = some m)
    (hopen : m.recorder.detachment = some (.tree ⟨m.request.channel, serial⟩)) {move : Move}
    {moves : List Move} (hstill : ((s.step move).run moves).recorders[i]? = some m) :
    (s.step move).recorders[i]? = some m := by
  rcases h.getElem?_step hm move with hsame | hshut
  · exact hsame
  · exfalso
    have hne : m ≠ m.shut := by
      intro heq
      rw [heq] at hopen
      cases hopen
    rcases getElem?_run before moves (h.step before move) hshut with hs | hs
    · exact hne (Option.some.inj (hstill.symm.trans hs))
    · exact hne (Option.some.inj (hstill.symm.trans hs))

end Run

/-- While a recorder is open, the closing of another one leaves at least one holder at its logger. -/
theorem applied_closed (h : Sound t₀ first s) {index : Nat} {other : Made} {serial' : Nat}
    (hopen : m.recorder.detachment = some (.tree ⟨m.request.channel, serial⟩))
    (hother : s.recorders[index]? = some other)
    (hopen' : other.recorder.detachment = some (.tree ⟨other.request.channel, serial'⟩))
    (hstill : (s.recorders.set index other.shut)[i]? = some m) :
    (s.around.tree.detach ⟨other.request.channel, serial'⟩).applied? m.request.channel
      = s.around.tree.applied? m.request.channel := by
  have hx := mem_ledger hother hopen'
  have hkept : (⟨serial, m.request⟩ : Holder) ∈ s.ledger.filter (·.serial ≠ serial') := by
    rw [← h.ledger_closed hother hopen']
    exact List.mem_filterMap.2 ⟨m, List.mem_of_getElem? hstill, by rw [Made.holder?, hopen]⟩
  rw [h.holds.applied?_detached hx, if_neg]
  rintro ⟨hname, hfew⟩
  have hlength : (on (s.ledger.filter (·.serial ≠ serial')) m.request.channel).length + 1
      = (on s.ledger m.request.channel).length := length_on_remove h.unique hx hname
  have hmem : (⟨serial, m.request⟩ : Holder) ∈ on (s.ledger.filter (·.serial ≠ serial')) m.request.channel :=
    List.mem_filter.2 ⟨hkept, decide_eq_true rfl⟩
  have hpos := List.length_pos_of_mem hmem
  omega

theorem applied_effect (h : Sound t₀ first s) {around : Surroundings} {recorders : List Made}
    (heffect : Effect s around recorders)
    (hopen : m.recorder.detachment = some (.tree ⟨m.request.channel, serial⟩))
    (hstill : recorders[i]? = some m) {v : Int} (happlied : s.around.tree.applied? m.request.channel = some v) :
    ∃ w, around.tree.applied? m.request.channel = some w ∧ w ≤ v := by
  cases heffect with
  | nothing => exact ⟨v, happlied, Int.le_refl _⟩
  | attached interceptor request =>
    have hinforce := h.holds.effectiveLevel_of_applied happlied
    show ∃ w, (s.around.tree.attach request s.around.nextSerial).applied? _ = some w ∧ w ≤ v
    rw [applied?_attach]
    split
    · -- attaching to the same logger lowers only what is in force, and that is the lowered level
      next hlow =>
      rw [effectiveLevel_congr _ hlow.1] at hinforce
      exact ⟨_, rfl, by omega⟩
    · exact ⟨v, happlied, Int.le_refl _⟩
  | closed hother hopen' =>
    exact ⟨v, (h.applied_closed hopen hother hopen' hstill).trans happlied, Int.le_refl _⟩

/-- As long as a recorder is open, its logger is not lowered any less. -/
theorem applied_step (h : Sound t₀ first s) (move : Move)
    (hopen : m.recorder.detachment = some (.tree ⟨m.request.channel, serial⟩))
    (hstill : (s.step move).recorders[i]? = some m) {v : Int}
    (happlied : s.around.tree.applied? m.request.channel = some v) :
    ∃ w, (s.step move).around.tree.applied? m.request.channel = some w ∧ w ≤ v :=
  h.applied_effect (h.effect move) hopen hstill happlied

/-- **A secured recorder stays secured until it is closed.** -/
theorem secured_run (before : ∀ name, ∀ y ∈ (t₀.logger name).handlers, y.serial < first)
    (hopen : m.recorder.detachment = some (.tree ⟨m.request.channel, serial⟩)) :
    ∀ (moves : List Move) {s : Stations}, Sound t₀ first s → s.recorders[i]? = some m →
      (s.run moves).recorders[i]? = some m → Secured t₀ s.around.tree m.request.channel m.native →
      Secured t₀ (s.run moves).around.tree m.request.channel m.native
  | [], _, _, _, _, hsec => hsec
  | move :: moves, s, h, hm, hstill, hsec => by
    have hnext := h.getElem?_step_of_run before hm hopen hstill
    refine secured_run before hopen moves (h.step before move) hnext hstill ?_
    rcases hsec with hle | ⟨v, happlied, hle⟩
    · exact .inl hle
    · obtain ⟨w, hw, hwv⟩ := h.applied_step move hopen hnext happlied
      exact .inr ⟨w, hw, Int.le_trans hwv hle⟩

/-! ## If all others go -/

/-- The recorders of other loggers can be closed one by one. That leaves a recorder, and the level that its logger
was lowered to, as they are. The induction is on the number of attachments to other loggers. -/
theorem exists_alone (before : ∀ name, ∀ y ∈ (t₀.logger name).handlers, y.serial < first) :
    ∀ (count : Nat) {s : Stations}, Sound t₀ first s → s.recorders[i]? = some m →
      (s.ledger.filter (canonical ·.request.channel ≠ canonical m.request.channel)).length = count →
      ∃ moves, (s.run moves).recorders[i]? = some m ∧
        (s.run moves).around.tree.applied? m.request.channel = s.around.tree.applied? m.request.channel ∧
        ∀ x ∈ (s.run moves).ledger, canonical x.request.channel = canonical m.request.channel
  | 0, s, h, hm, hcount => by
    refine ⟨[], hm, rfl, ?_⟩
    intro x hx
    have hnil := List.filter_eq_nil_iff.1 (List.length_eq_zero_iff.1 hcount) x hx
    simpa using hnil
  | count + 1, s, h, hm, hcount => by
    obtain ⟨x, hx⟩ := List.exists_mem_of_length_pos (by rw [hcount]; exact Nat.succ_pos count)
    obtain ⟨hmem, hname⟩ := List.mem_filter.1 hx
    rw [decide_eq_true_eq] at hname
    obtain ⟨index, other, serial, hindex, hopen, rfl⟩ := h.exists_of_mem_ledger hmem
    -- closing the recorder of one of the other attachments
    obtain ⟨haround, hrecorders⟩ := step_close hindex hopen
    have hstep := h.step before (.close index)
    have hledger : (s.step (.close index)).ledger = s.ledger.filter (·.serial ≠ serial) := by
      rw [ledger, hrecorders, h.ledger_closed hindex hopen]
    have hkept : (s.step (.close index)).recorders[i]? = some m := by
      rw [hrecorders, List.getElem?_set_ne, hm]
      rintro rfl
      obtain rfl := Option.some.inj (hm.symm.trans hindex)
      exact hname rfl
    have happlied : (s.step (.close index)).around.tree.applied? m.request.channel
        = s.around.tree.applied? m.request.channel := by
      rw [haround]
      show (s.around.tree.detach ⟨other.request.channel, serial⟩).applied? _ = _
      rw [h.holds.applied?_detached hmem, if_neg fun hc => hname hc.1.symm]
    have hfewer : ((s.step (.close index)).ledger.filter
        (canonical ·.request.channel ≠ canonical m.request.channel)).length = count := by
      have hremove := length_remove (h.unique.sublist (List.filter_sublist.map _)) hx
      rw [hledger, List.filter_filter]
      rw [List.filter_filter, hcount] at hremove
      simp only [Bool.and_comm] at hremove ⊢
      exact Nat.succ.inj hremove
    obtain ⟨moves, hsame, hlowered, halone⟩ := exists_alone before count hstep hkept hfewer
    exact ⟨.close index :: moves, hsame, hlowered.trans happlied, halone⟩

/-- A recorder that hears its logger whatever others do is secured. -/
theorem secured_of_hears (h : Sound t₀ first s)
    (before : ∀ name, ∀ y ∈ (t₀.logger name).handlers, y.serial < first) (hm : s.recorders[i]? = some m)
    (hall : ∀ moves, (s.run moves).recorders[i]? = some m → (s.run moves).Hears m) :
    Secured t₀ s.around.tree m.request.channel m.native := by
  obtain ⟨moves, hstill, happlied, halone⟩ := h.exists_alone before _ hm rfl
  have hsound := h.run before moves
  have hsec := hsound.holds.secured_of_effectiveLevel_le halone (hall moves hstill)
  rwa [Secured, happlied] at hsec

end Sound

/-- **What an open recorder hears.** In every state that interceptors can reach from loggers of any levels:

* an open recorder gets every event on its logger that reaches its level exactly if it hears the logger;
* it hears the logger exactly if the level in force was low enough before any attachment, or comes from a logger
  that has been lowered far enough;
* it goes on to do so until it is closed, whatever is attached and closed meanwhile, exactly if the level in
  force was low enough before any attachment, or its own logger has been lowered far enough. -/
theorem hears_iff {s₀ : Stations} (h₀ : s₀.IsInitial) (moves : List Move) {i : Nat} {m : Made}
    (hm : (s₀.run moves).recorders[i]? = some m) (hopen : m.recorder.closed = false) :
    ((∀ level, m.native ≤ level → (s₀.run moves).Gets m level) ↔ (s₀.run moves).Hears m) ∧
      ((s₀.run moves).Hears m ↔ s₀.Hears m ∨
        ∃ source v, (s₀.run moves).around.tree.source? m.request.channel = some source ∧
          (s₀.run moves).around.tree.applied? source = some v ∧ v ≤ m.native) ∧
      ((∀ more, (s₀.run (moves ++ more)).recorders[i]? = some m → (s₀.run (moves ++ more)).Hears m) ↔
        s₀.Hears m ∨
          ∃ v, (s₀.run moves).around.tree.applied? m.request.channel = some v ∧ v ≤ m.native) := by
  have h := h₀.sound_run moves
  obtain ⟨serial, hserial⟩ := (h.trees m (List.mem_of_getElem? hm)).exists_serial hopen
  refine ⟨(h.hears_iff_gets hm hserial).symm, h.holds.effectiveLevel_le_iff _ _, ?_, ?_⟩
  · intro hall
    refine h.secured_of_hears h₀.serials hm ?_
    intro more
    rw [← run_append]
    exact hall more
  · intro hsec more hstill
    rw [run_append] at hstill ⊢
    have hsound := h.run h₀.serials more
    exact hsound.holds.effectiveLevel_le_of_secured
      (Sound.secured_run h₀.serials hserial more h hm hstill hsec)

/-- Interceptors of a new logger tree, in which only the root has a level. -/
def atRest : Stations := { around := { now := ⟨0⟩ } }

theorem isInitial_atRest : atRest.IsInitial where
  recorders := rfl
  overrides _ := rfl
  serials name h hmem := by
    change h ∈ (({} : LoggerTree).logger name).handlers at hmem
    rw [handlers_new] at hmem
    cases hmem

/-- A recorder of `app.db` that was made after one of `app`: it hears what it asks for, but not for sure. -/
theorem hears_iff_enclosed :
    let moves : List Move :=
      [.attach 0 ⟨"app", .info, "", .named "app"⟩, .attach 1 ⟨"app.db", .info, "", .named "db"⟩]
    let m : Made := ⟨1, ⟨"app.db", .info, "", .named "db"⟩, ⟨"app.db", some (.tree ⟨"app.db", 1⟩)⟩⟩
    (atRest.run moves).recorders[1]? = some m ∧ m.recorder.closed = false ∧
      (∀ level, 20 ≤ level → (atRest.run moves).Gets m level) ∧
      ¬ ∀ more, (atRest.run (moves ++ more)).recorders[1]? = some m →
        (atRest.run (moves ++ more)).Hears m := by
  intro moves m
  have hears := hears_iff isInitial_atRest moves (i := 1) (m := m) rfl rfl
  refine ⟨rfl, rfl, hears.1.2 ?_, fun hall => ?_⟩
  · show (atRest.run moves).around.tree.effectiveLevel "app.db" ≤ 20
    decide +kernel
  · rcases hears.2.2.1 hall with hle | ⟨v, happlied, -⟩
    · exact absurd hle (show ¬ atRest.around.tree.effectiveLevel "app.db" ≤ 20 by decide +kernel)
    · have hnone : (atRest.run moves).around.tree.applied? "app.db" = none := by decide +kernel
      cases hnone.symm.trans happlied

/-- After the recorder of `app` is closed, the open recorder of `app.db` is deaf to what it asked for. -/
theorem not_hears_enclosed :
    let s := atRest.run
      [.attach 0 ⟨"app", .info, "", .named "app"⟩, .attach 1 ⟨"app.db", .info, "", .named "db"⟩, .close 0]
    ∃ m, s.recorders[1]? = some m ∧ m.recorder.closed = false ∧ m.native = 20 ∧
      s.around.tree.effectiveLevel m.request.channel = 30 ∧ ¬ s.Hears m := by
  have hlevel : (atRest.run [.attach 0 ⟨"app", .info, "", .named "app"⟩,
      .attach 1 ⟨"app.db", .info, "", .named "db"⟩, .close 0]).around.tree.effectiveLevel "app.db" = 30 := by
    decide +kernel
  refine ⟨⟨1, ⟨"app.db", .info, "", .named "db"⟩, ⟨"app.db", some (.tree ⟨"app.db", 1⟩)⟩⟩,
    rfl, rfl, rfl, hlevel, ?_⟩
  show ¬ _ ≤ (20 : Int)
  rw [hlevel]
  decide

end Stations

end LogAssay
