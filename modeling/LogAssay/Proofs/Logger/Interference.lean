import LogAssay.Proofs.Logger.Overrides
import LogAssay.Proofs.Logger.Roster
import Mathlib.Data.List.Induction

/-!
# Levels set by others

While recorders of a logger are open, other code may set the level of this logger, or of any other one. The override
of the logger remembers the level from before the first recorder and the level that it put in its place last. When the
last recorder is closed, the level is left alone if it is another one. So a level that was set meanwhile outlives the
recorders, unless one more recorder lowers the logger after that: then the level in place is the override's own again,
and the level from before the first recorder is put back over the one that was set.

## Main statements

* `LoggerTree.beneath_attach`, `beneath_detach`, `beneath_setLevel`: what attaching, detaching and setting a level do to
  the level that will be left when the recorders of a logger are closed.
* `Stations.Reckoned.undergoAll`: overrides count the open recorders of their logger, whatever levels are set meanwhile.
* `Stations.set_level_outlives_iff`: the level that is left when the last recorder is closed.
-/

namespace LogAssay

open Logger LoggerTree

namespace LoggerTree

variable {t : LoggerTree} {name : String}

/-! ## The level beneath an override -/

/-- The level that a logger is left with when its override ends: the level that is remembered if the level in place is
the one that was put there, and the level in place otherwise. -/
def beneath (t : LoggerTree) (name : String) : Int :=
  if t.applied? name = some (t.logger name).level then (t.heldOverride name).saved else (t.logger name).level

section Same

variable {t' : LoggerTree} (hoverride : t'.overrides.get (canonical name) = t.overrides.get (canonical name))
  (hlogger : t'.logger name = t.logger name)
include hoverride hlogger

theorem heldOverride_eq : t'.heldOverride name = t.heldOverride name := by
  rw [heldOverride, hoverride, hlogger, heldOverride]

theorem beneath_eq : t'.beneath name = t.beneath name := by
  rw [beneath, heldOverride_eq hoverride hlogger, applied?, hoverride, hlogger, beneath, applied?]

end Same

/-- A logger without an override keeps its level. -/
theorem beneath_of_free (h : t.overrides.get (canonical name) = none) : t.beneath name = (t.logger name).level := by
  rw [beneath, applied?, h, if_neg (by simp)]

theorem saved_of_free (h : t.overrides.get (canonical name) = none) :
    (t.heldOverride name).saved = (t.logger name).level := by
  rw [heldOverride, h]
  rfl

/-- Lowering a level changes it: a level below the one in force is not the logger's own. -/
theorem ne_level_of_lt {native : Int} (hpos : 0 < native) (h : native < t.effectiveLevel name) :
    native ≠ (t.logger name).level := by
  intro heq
  by_cases hzero : (t.logger name).level = 0
  · omega
  · rw [effectiveLevel_of_ne_zero hzero] at h
    omega

/-! ### Attaching -/

theorem saved_attach (t : LoggerTree) (request : Request) (serial : Nat) (name : String) :
    ((t.attach request serial).heldOverride name).saved = (t.heldOverride name).saved := by
  by_cases hname : canonical name = canonical request.channel
  · rw [heldOverride, overrides_attach, overrides_lower, if_pos hname, t.heldOverride_congr hname]
    rfl
  · rw [heldOverride_eq]
    · rw [overrides_attach, overrides_lower, if_neg hname]
    · rw [logger_attach, if_neg hname]

/-- **Attaching** a channel that lowers the level of a logger leaves the remembered level beneath, and any other one
what was there. -/
theorem beneath_attach (t : LoggerTree) (request : Request) (serial : Nat) (name : String) :
    (t.attach request serial).beneath name =
      if ((t.attach request serial).logger name).level ≠ (t.logger name).level then (t.heldOverride name).saved
      else t.beneath name := by
  by_cases hlow : canonical name = canonical request.channel ∧
      Thresholds.standardLevel request.severity < t.effectiveLevel request.channel
  · -- the level in place is the one that was put there, and another one than before
    have hlevel : ((t.attach request serial).logger name).level = Thresholds.standardLevel request.severity := by
      rw [logger_attach, if_pos hlow.1]
      exact if_pos hlow.2
    have hchanged : Thresholds.standardLevel request.severity ≠ (t.logger name).level := by
      refine ne_level_of_lt (Thresholds.standardLevel_pos _) ?_
      rw [t.effectiveLevel_congr hlow.1]
      exact hlow.2
    rw [beneath, saved_attach, applied?_attach, if_pos hlow, hlevel, if_pos rfl, if_pos hchanged]
  · have hlevel : ((t.attach request serial).logger name).level = (t.logger name).level := by
      rw [logger_attach]
      split
      · next hname => exact if_neg fun h => hlow ⟨hname, h⟩
      · rfl
    rw [beneath, saved_attach, applied?_attach, if_neg hlow, hlevel, if_neg (not_not.2 rfl), beneath]

/-! ### Detaching -/

section Detach

variable {d : LoggerTree.Detachment} {held : Override}

theorem saved_detach (h : t.overrides.get (canonical d.name) = some held)
    (hkept : (t.detach d).overrides.get (canonical name) ≠ none) :
    ((t.detach d).heldOverride name).saved = (t.heldOverride name).saved := by
  have hoverride := overrides_detach h (canonical name)
  by_cases hname : canonical name = canonical d.name
  · rw [if_pos hname] at hoverride
    split at hoverride
    · rw [heldOverride, hoverride, heldOverride, hname, h]
      rfl
    · exact absurd hoverride hkept
  · rw [if_neg hname] at hoverride
    rw [heldOverride_eq hoverride ((logger_detach h name).trans (if_neg hname))]

/-- **Detaching** leaves what is beneath, and puts it in place if the override ends. -/
theorem beneath_detach (h : t.overrides.get (canonical d.name) = some held) :
    (t.detach d).beneath name = t.beneath name := by
  have hoverride := overrides_detach h (canonical name)
  have hlogger := logger_detach h name
  by_cases hname : canonical name = canonical d.name
  · rw [if_pos hname] at hoverride hlogger
    have happlied : t.applied? name = held.applied := by
      rw [applied?, hname, h]
      rfl
    have hsaved : (t.heldOverride name).saved = held.saved := by
      rw [heldOverride, hname, h]
      rfl
    by_cases hmany : 1 < held.holders
    · rw [if_pos hmany] at hoverride
      have hlevel : ((t.detach d).logger name).level = (t.logger name).level := by
        rw [hlogger]
        exact if_neg fun hlast => absurd hlast.1 (Nat.not_le.2 hmany)
      have happlied' : (t.detach d).applied? name = held.applied := by
        rw [applied?, hoverride]
        rfl
      rw [beneath, beneath, saved_detach h (by rw [hoverride]; simp), hlevel, happlied', happlied]
    · rw [if_neg hmany] at hoverride
      rw [beneath_of_free hoverride, hlogger, beneath, happlied, hsaved]
      simp only [Nat.not_lt.1 hmany, true_and]
  · rw [if_neg hname] at hoverride hlogger
    exact beneath_eq hoverride hlogger

end Detach

/-! ### Levels set by others -/

theorem saved_setLevel (hheld : t.overrides.get (canonical name) ≠ none) (other : String) (level : Int) :
    ((t.setLevel other level).heldOverride name).saved = (t.heldOverride name).saved := by
  obtain ⟨held, hget⟩ := Option.ne_none_iff_exists'.1 hheld
  have hget' : (t.setLevel other level).overrides.get (canonical name) = some held := hget
  rw [heldOverride, hget', heldOverride, hget]
  rfl

/-- **A level that others set** is beneath from then on, if it is not the one that the override has put in place. -/
theorem beneath_setLevel {other : String} {level : Int}
    (hfair : canonical other = canonical name → t.applied? name ≠ some level) :
    (t.setLevel other level).beneath name
      = if canonical other = canonical name then level else t.beneath name := by
  have hlogger : (t.setLevel other level).logger name
      = if canonical name = canonical other then { t.logger other with level := level } else t.logger name :=
    logger_change ..
  by_cases hname : canonical other = canonical name
  · have happlied : (t.setLevel other level).applied? name = t.applied? name := rfl
    rw [if_pos hname.symm] at hlogger
    rw [beneath, happlied, hlogger, if_neg (hfair hname), if_pos hname]
  · rw [if_neg (Ne.symm hname)] at hlogger
    have hoverride : (t.setLevel other level).overrides.get (canonical name) = t.overrides.get (canonical name) := rfl
    rw [if_neg hname, beneath_eq hoverride hlogger]

/-! ## Counting -/

/-- Overrides count the open attachments of their loggers, whatever the levels are. -/
structure Counted (t : LoggerTree) (hs : List Holder) : Prop where
  free : ∀ name, on hs name = [] → t.overrides.get (canonical name) = none
  held : ∀ name, on hs name ≠ [] → ∃ held, t.overrides.get (canonical name) = some held ∧
    held.holders = (on hs name).length

namespace Counted

variable {hs : List Holder}

theorem congr (h : Counted t hs) {t' : LoggerTree} (hoverrides : t'.overrides = t.overrides) : Counted t' hs where
  free name hon := by rw [hoverrides, h.free name hon]
  held name hon := by
    rw [hoverrides]
    exact h.held name hon

theorem holders_heldOverride (h : Counted t hs) (name : String) :
    (t.heldOverride name).holders = (on hs name).length := by
  by_cases hon : on hs name = []
  · rw [heldOverride, h.free name hon, hon]
    rfl
  · obtain ⟨held, hget, hholders⟩ := h.held name hon
    rw [heldOverride, hget]
    exact hholders

theorem held_of_mem (h : Counted t hs) {x : Holder} (hx : x ∈ hs) : ∃ held,
    t.overrides.get (canonical x.request.channel) = some held ∧ held.holders = (on hs x.request.channel).length :=
  h.held _ (List.ne_nil_of_mem (List.mem_filter.2 ⟨hx, by simp⟩))

theorem attach (h : Counted t hs) (x : Holder) : Counted (t.attach x.request x.serial) (hs ++ [x]) where
  free name hon := by
    rw [on_concat] at hon
    split at hon
    · simp at hon
    · next hname => rw [overrides_attach, overrides_lower, if_neg hname, h.free name hon]
  held name hon := by
    rw [on_concat] at hon ⊢
    rw [overrides_attach, overrides_lower]
    by_cases hname : canonical name = canonical x.request.channel
    · rw [if_pos hname, if_pos hname]
      refine ⟨_, rfl, ?_⟩
      rw [h.holders_heldOverride, on_congr hs hname, List.length_append, List.length_singleton]
    · rw [if_neg hname] at hon
      rw [if_neg hname, if_neg hname]
      exact h.held name hon

theorem detach (h : Counted t hs) {x : Holder} (unique : (hs.map Holder.serial).Nodup) (hx : x ∈ hs) :
    Counted (t.detach ⟨x.request.channel, x.serial⟩) (hs.filter (·.serial ≠ x.serial)) := by
  obtain ⟨held, hget, hholders⟩ := h.held_of_mem hx
  refine ⟨fun name hon => ?_, fun name hon => ?_⟩
  · rw [overrides_detach hget]
    by_cases hname : canonical name = canonical x.request.channel
    · have hlength := length_on_remove unique hx hname
      rw [hon, List.length_nil, on_congr hs hname] at hlength
      rw [if_pos hname, if_neg (by omega)]
    · rw [on_remove_of_ne unique hx hname] at hon
      rw [if_neg hname, h.free name hon]
  · rw [overrides_detach hget]
    by_cases hname : canonical name = canonical x.request.channel
    · have hlength := length_on_remove unique hx hname
      have hpos := List.length_pos_iff.2 hon
      rw [on_congr hs hname] at hlength
      rw [if_pos hname, if_pos (by omega)]
      refine ⟨_, rfl, ?_⟩
      show held.holders - 1 = _
      omega
    · rw [on_remove_of_ne unique hx hname] at hon ⊢
      rw [if_neg hname]
      exact h.held name hon

end Counted

theorem kept_counted (first : Nat) : Kept first Counted where
  attach x h := h.attach x
  detach unique hx _ h := h.detach unique hx

end LoggerTree

/-! ## Changes -/

/-- What may happen to loggers: a move of the interceptors, or a level that other code sets. -/
inductive Change where
  | move (m : Move)
  | set (name : String) (level : Int)

/-- A change sets the level of a logger. -/
def Change.Sets (name : String) (c : Change) : Prop :=
  ∃ other level, c = .set other level ∧ canonical other = canonical name

namespace Stations

variable {s : Stations} {first : Nat} {name : String}

/-- What a change leaves. -/
def undergo (s : Stations) : Change → Stations
  | .move m => s.step m
  | .set name level => { s with around := { s.around with tree := s.around.tree.setLevel name level } }

/-- What changes leave, one after the other. -/
def undergoAll (s : Stations) (changes : List Change) : Stations := changes.foldl undergo s

theorem undergoAll_append (s : Stations) (changes more : List Change) :
    s.undergoAll (changes ++ more) = (s.undergoAll changes).undergoAll more := List.foldl_append

/-- The level of a logger. -/
def level (s : Stations) (name : String) : Int := (s.around.tree.logger name).level

/-- Each open recorder knows its attachment, and overrides count them. -/
structure Reckoned (first : Nat) (s : Stations) : Prop where
  trees : ∀ m ∈ s.recorders, m.IsTree
  roster : Roster first Counted s.around s.ledger

theorem IsInitial.reckoned (h : s.IsInitial) : Reckoned s.around.nextSerial s := by
  have hledger : s.ledger = [] := by
    rw [ledger, h.recorders]
    rfl
  refine ⟨by simp [h.recorders], ?_⟩
  rw [hledger]
  exact {
    kept := ⟨fun name _ => h.overrides name, fun name hon => absurd rfl hon⟩
    unique := List.nodup_nil
    range := by simp
    first_le := Nat.le_refl _ }

/-- A move attaches a channel, closes an open attachment, or leaves the tree alone. -/
inductive TreeEffect (s : Stations) : Move → LoggerTree → Prop where
  | nothing (m : Move) : TreeEffect s m s.around.tree
  | attached (interceptor : Nat) (request : Request) :
    TreeEffect s (.attach interceptor request) (s.around.tree.attach request s.around.nextSerial)
  | closed (index : Nat) {x : Holder} (hx : x ∈ s.ledger) :
    TreeEffect s (.close index) (s.around.tree.detach ⟨x.request.channel, x.serial⟩)

namespace Reckoned

/-- The open attachments are counted after every move. -/
theorem effect (h : Reckoned first s) {around : Surroundings} {recorders : List Made}
    (heffect : Effect s around recorders) (channels : Nat → List String) :
    Reckoned first ⟨around, channels, recorders⟩ := by
  cases heffect with
  | nothing => exact ⟨h.trees, h.roster⟩
  | attached interceptor request =>
    refine ⟨fun m hm d hd => ?_, ?_⟩
    · rcases List.mem_append.1 hm with hm | hm
      · exact h.trees m hm d hd
      · rw [List.mem_singleton.1 hm] at hd ⊢
        exact ⟨_, (Option.some.inj hd).symm⟩
    · rw [ledger, List.filterMap_append]
      exact h.roster.attach (kept_counted first) request
  | @closed index m serial hm hopen =>
    have hholder : m.holder? = some ⟨serial, m.request⟩ := by rw [Made.holder?, hopen]
    have hx : ⟨serial, m.request⟩ ∈ s.ledger := List.mem_filterMap.2 ⟨m, List.mem_of_getElem? hm, hholder⟩
    refine ⟨fun y hy => ?_, ?_⟩
    · rcases List.mem_or_eq_of_mem_set hy with hy | rfl
      · exact h.trees y hy
      · exact .shut m
    · rw [ledger, filterMap_holder?_set (x := ⟨serial, m.request⟩) h.roster.unique hm hholder]
      exact h.roster.detach (kept_counted first) hx

theorem step (h : Reckoned first s) (m : Move) : Reckoned first (s.step m) := by
  cases m with
  | attach interceptor request => exact h.effect (effect_attach s interceptor request) _
  | close index => exact h.effect (effect_close h.trees index) _

/-- **Overrides count the open recorders** after every change. -/
theorem undergo (h : Reckoned first s) (c : Change) : Reckoned first (s.undergo c) := by
  cases c with
  | move m => exact h.step m
  | set name level =>
    exact ⟨h.trees, h.roster.kept.congr rfl, h.roster.unique, h.roster.range, h.roster.first_le⟩

theorem undergoAll : ∀ (changes : List Change) {s : Stations}, Reckoned first s → Reckoned first (s.undergoAll changes)
  | [], _, h => h
  | c :: changes, _, h => undergoAll changes (h.undergo c)

theorem on_eq_nil_iff (h : Reckoned first s) (name : String) : on s.ledger name = [] ↔ s.openOn name = [] := by
  rw [← List.length_eq_zero_iff, ledger, length_on_holders name h.trees]
  exact List.length_eq_zero_iff

/-- A logger has an override exactly if it has an open recorder. -/
theorem free_iff (h : Reckoned first s) (name : String) :
    s.around.tree.overrides.get (canonical name) = none ↔ s.openOn name = [] := by
  rw [← h.on_eq_nil_iff]
  refine ⟨fun hfree => ?_, h.roster.kept.free name⟩
  by_contra hon
  obtain ⟨held, hget, -⟩ := h.roster.kept.held name hon
  rw [hfree] at hget
  cases hget

/-- **What a move does to the tree.** -/
theorem treeEffect (h : Reckoned first s) (m : Move) : TreeEffect s m (s.step m).around.tree := by
  cases m with
  | attach interceptor request =>
    by_cases hattached : request.channel ∈ (s.station interceptor).attached
    · have hstep : s.step (.attach interceptor request) = s.withStation interceptor (s.station interceptor) := by
        rw [Stations.step, Station.attach_attached _ hattached]
      rw [hstep]
      exact .nothing _
    · have hattach : Station.attach Surroundings.treeBackend request (s.station interceptor)
          = (.ok ⟨request.channel, some (.tree ⟨request.channel, s.around.nextSerial⟩)⟩,
            ⟨request.channel :: s.attached interceptor,
              { s.around with
                nextSerial := s.around.nextSerial + 1
                tree := s.around.tree.attach request s.around.nextSerial }⟩) := Station.attach_free hattached rfl
      rw [Stations.step, hattach]
      exact .attached interceptor request
  | close index =>
    cases hm : s.recorders[index]? with
    | none =>
      rw [Stations.step, hm]
      exact .nothing _
    | some m =>
      cases hd : m.recorder.detachment with
      | none =>
        rw [Stations.step, hm]
        simp only [Recorder.close_closed _ hd]
        exact .nothing _
      | some d =>
        obtain ⟨serial, rfl⟩ := h.trees m (List.mem_of_getElem? hm) d hd
        have hx : ⟨serial, m.request⟩ ∈ s.ledger :=
          List.mem_filterMap.2 ⟨m, List.mem_of_getElem? hm, by rw [Made.holder?, hd]⟩
        rw [(step_close hm hd).1]
        exact .closed index hx

end Reckoned

/-! ## What is left -/

/-- The level that a logger is left with when its recorders are closed. -/
def beneath (s : Stations) (name : String) : Int := s.around.tree.beneath name

/-- The level that is remembered for a logger, or the level that will be. -/
def saved (s : Stations) (name : String) : Int := (s.around.tree.heldOverride name).saved

/-- A change is an attachment that lowers a logger. -/
def Lowers (s : Stations) (name : String) (c : Change) : Prop :=
  ∃ interceptor request, c = .move (.attach interceptor request) ∧ (s.undergo c).level name ≠ s.level name

/-- A change sets no level that an override of the logger has put in place. -/
def IsFair (s : Stations) (name : String) (c : Change) : Prop :=
  ∀ other level, c = .set other level → canonical other = canonical name → s.around.tree.applied? name ≠ some level

namespace Reckoned

/-- A logger without open recorders is left with its level. -/
theorem beneath_of_closed (h : Reckoned first s) (hclosed : s.openOn name = []) : s.beneath name = s.level name :=
  LoggerTree.beneath_of_free ((h.free_iff name).2 hclosed)

theorem saved_of_closed (h : Reckoned first s) (hclosed : s.openOn name = []) : s.saved name = s.level name :=
  LoggerTree.saved_of_free ((h.free_iff name).2 hclosed)

/-- **The level that is remembered stays the same** as long as a recorder is open. -/
theorem saved_undergo (h : Reckoned first s) (c : Change) (hopen : (s.undergo c).openOn name ≠ []) :
    (s.undergo c).saved name = s.saved name := by
  have hheld : (s.undergo c).around.tree.overrides.get (canonical name) ≠ none :=
    fun hfree => hopen (((h.undergo c).free_iff name).1 hfree)
  cases c with
  | set other level =>
    have hheld' : s.around.tree.overrides.get (canonical name) ≠ none := hheld
    exact LoggerTree.saved_setLevel hheld' other level
  | move m =>
    have heffect := h.treeEffect m
    have hheld' : (s.step m).around.tree.overrides.get (canonical name) ≠ none := hheld
    show ((s.step m).around.tree.heldOverride name).saved = _
    generalize (s.step m).around.tree = t at heffect hheld'
    cases heffect with
    | nothing => rfl
    | attached interceptor request => exact LoggerTree.saved_attach ..
    | closed index hx =>
      obtain ⟨held, hget, -⟩ := h.roster.kept.held_of_mem hx
      exact LoggerTree.saved_detach hget hheld'

/-- An attachment that lowers the logger leaves the level that is remembered. -/
theorem beneath_of_lowers (h : Reckoned first s) {c : Change} (hlowers : s.Lowers name c) :
    (s.undergo c).beneath name = s.saved name := by
  obtain ⟨interceptor, request, rfl, hchanged⟩ := hlowers
  have heffect := h.treeEffect (.attach interceptor request)
  have hlevel : ((s.step (.attach interceptor request)).around.tree.logger name).level ≠ s.level name := hchanged
  show (s.step (.attach interceptor request)).around.tree.beneath name = _
  generalize (s.step (.attach interceptor request)).around.tree = t at heffect hlevel
  cases heffect with
  | nothing => exact absurd rfl hlevel
  | attached => exact (LoggerTree.beneath_attach ..).trans (if_pos hlevel)

/-- Everything else leaves what was beneath, unless it sets the level. -/
theorem beneath_of_not_lowers (h : Reckoned first s) {c : Change} (hlowers : ¬s.Lowers name c) (hsets : ¬c.Sets name) :
    (s.undergo c).beneath name = s.beneath name := by
  cases c with
  | set other level =>
    have hname : canonical other ≠ canonical name := fun hname => hsets ⟨other, level, rfl, hname⟩
    refine (LoggerTree.beneath_setLevel fun heq => absurd heq hname).trans (if_neg hname)
  | move m =>
    have heffect := h.treeEffect m
    have hlevel : ∀ interceptor request, m = .attach interceptor request →
        ((s.step m).around.tree.logger name).level = s.level name := by
      rintro interceptor request rfl
      by_contra hchanged
      exact hlowers ⟨interceptor, request, rfl, hchanged⟩
    show (s.step m).around.tree.beneath name = _
    generalize (s.step m).around.tree = t at heffect hlevel
    cases heffect with
    | nothing => rfl
    | attached interceptor request =>
      exact (LoggerTree.beneath_attach ..).trans (if_neg (not_not.2 (hlevel interceptor request rfl)))
    | closed index hx =>
      obtain ⟨held, hget, -⟩ := h.roster.kept.held_of_mem hx
      exact LoggerTree.beneath_detach hget

end Reckoned

theorem beneath_set {other : String} {level : Int} (hfair : s.IsFair name (.set other level))
    (hname : canonical other = canonical name) :
    (s.undergo (.set other level)).beneath name = level :=
  (LoggerTree.beneath_setLevel (hfair other level rfl)).trans (if_pos hname)

/-! ## Episodes -/

/-- A run of changes during which a logger has open recorders: it has none before it, one or more after each change
except the last one, and none in the end. No change sets the level of the logger to the one that an override has put
there. -/
structure Episode (s : Stations) (name : String) (changes : List Change) : Prop where
  before : s.openOn name = []
  during : ∀ earlier, earlier <+: changes → earlier ≠ [] → earlier ≠ changes → (s.undergoAll earlier).openOn name ≠ []
  after : (s.undergoAll changes).openOn name = []
  fair : ∀ earlier c, earlier ++ [c] <+: changes → (s.undergoAll earlier).IsFair name c

/-- One of some changes is an attachment that lowers the logger. -/
def LowersWithin (s : Stations) (name : String) (changes : List Change) : Prop :=
  ∃ earlier c, earlier ++ [c] <+: changes ∧ (s.undergoAll earlier).Lowers name c

theorem lowersWithin_cons (c : Change) (changes : List Change) :
    s.LowersWithin name (c :: changes) ↔ s.Lowers name c ∨ (s.undergo c).LowersWithin name changes := by
  constructor
  · rintro ⟨earlier, d, hprefix, hlowers⟩
    cases earlier with
    | nil =>
      obtain ⟨rfl, -⟩ := List.cons_prefix_cons.1 hprefix
      exact .inl hlowers
    | cons e earlier =>
      obtain ⟨rfl, hrest⟩ := List.cons_prefix_cons.1 hprefix
      exact .inr ⟨earlier, d, hrest, hlowers⟩
  · rintro (hlowers | ⟨earlier, d, hprefix, hlowers⟩)
    · exact ⟨[], c, List.cons_prefix_cons.2 ⟨rfl, List.nil_prefix⟩, hlowers⟩
    · exact ⟨c :: earlier, d, List.cons_prefix_cons.2 ⟨rfl, hprefix⟩, hlowers⟩

/-- **What is left of the level of a logger** while others leave it alone and recorders stay open. -/
theorem Reckoned.beneath_undergoAll : ∀ {changes : List Change} {s : Stations}, Reckoned first s →
    (∀ c ∈ changes, ¬c.Sets name) →
    (∀ earlier, earlier <+: changes → earlier ≠ [] → earlier ≠ changes → (s.undergoAll earlier).openOn name ≠ []) →
    (s.LowersWithin name changes → (s.undergoAll changes).beneath name = s.saved name) ∧
    (¬s.LowersWithin name changes → (s.undergoAll changes).beneath name = s.beneath name)
  | [], s, h, _, _ => by
    refine ⟨?_, fun _ => rfl⟩
    rintro ⟨earlier, c, hprefix, -⟩
    simp at hprefix
  | c :: changes, s, h, hsets, hopen => by
    rw [List.forall_mem_cons] at hsets
    have hrest := (h.undergo c).beneath_undergoAll hsets.2 fun earlier hprefix hne hlast =>
      hopen (c :: earlier) (List.cons_prefix_cons.2 ⟨rfl, hprefix⟩) (by simp) (by simpa using hlast)
    -- the level that is remembered is looked at again only if there are further changes
    have hsaved : (s.undergo c).LowersWithin name changes → (s.undergo c).saved name = s.saved name := by
      rintro ⟨earlier, d, hprefix, -⟩
      refine h.saved_undergo c (hopen [c] (List.cons_prefix_cons.2 ⟨rfl, List.nil_prefix⟩) (by simp) ?_)
      intro heq
      obtain rfl : changes = [] := by simpa using heq.symm
      simp at hprefix
    rw [lowersWithin_cons]
    show (_ → ((s.undergo c).undergoAll changes).beneath name = _) ∧
      (_ → ((s.undergo c).undergoAll changes).beneath name = _)
    by_cases hwithin : (s.undergo c).LowersWithin name changes
    · exact ⟨fun _ => (hrest.1 hwithin).trans (hsaved hwithin), fun hnot => absurd (.inr hwithin) hnot⟩
    · rw [hrest.2 hwithin]
      refine ⟨?_, fun hnot => h.beneath_of_not_lowers (fun hlowers => hnot (.inl hlowers)) hsets.1⟩
      rintro (hlowers | hlowers)
      · exact h.beneath_of_lowers hlowers
      · exact absurd hlowers hwithin

namespace Episode

variable {changes : List Change}

/-- The level that is remembered during an episode is the one from before it. -/
theorem saved_eq (h : s.Episode name changes) (hs : Reckoned first s) :
    ∀ earlier, earlier <+: changes → earlier ≠ changes → (s.undergoAll earlier).saved name = s.level name := by
  intro earlier
  induction earlier using List.reverseRecOn with
  | nil => exact fun _ _ => hs.saved_of_closed h.before
  | append_singleton earlier c ih =>
    intro hprefix hlast
    have hopen := h.during _ hprefix (by simp) hlast
    rw [undergoAll_append] at hopen ⊢
    refine ((hs.undergoAll earlier).saved_undergo c hopen).trans (ih ((List.prefix_append ..).trans hprefix) ?_)
    rintro rfl
    have hlength := hprefix.length_le
    rw [List.length_append, List.length_singleton] at hlength
    omega

/-- An episode, told by the changes up to each number. -/
theorem of_take (before : s.openOn name = [])
    (during : ∀ n, 0 < n → n < changes.length → (s.undergoAll (changes.take n)).openOn name ≠ [])
    (after : (s.undergoAll changes).openOn name = [])
    (fair : ∀ n c, changes[n]? = some c → (s.undergoAll (changes.take n)).IsFair name c) : s.Episode name changes where
  before := before
  during earlier hprefix hne hlast := by
    obtain ⟨rest, rfl⟩ := hprefix
    have hrest : rest ≠ [] := fun h => hlast (by simp [h])
    have hopen := during earlier.length (List.length_pos_iff.2 hne)
      (by simpa using List.length_pos_iff.2 hrest)
    rwa [List.take_left] at hopen
  after := after
  fair earlier c hprefix := by
    obtain ⟨rest, rfl⟩ := hprefix
    have hfair := fair earlier.length c (by simp)
    rwa [List.append_assoc, List.take_left] at hfair

/-- The level in the end is what is beneath then. -/
theorem level_eq_beneath (h : s.Episode name changes) (hs : Reckoned first s) :
    (s.undergoAll changes).level name = (s.undergoAll changes).beneath name :=
  ((hs.undergoAll changes).beneath_of_closed h.after).symm

/-- Nobody sets the level. -/
theorem level_of_not_sets (h : s.Episode name changes) (hs : Reckoned first s) (hsets : ∀ c ∈ changes, ¬c.Sets name) :
    (s.undergoAll changes).level name = s.level name := by
  obtain ⟨hlowers, hnot⟩ := hs.beneath_undergoAll hsets h.during
  rw [h.level_eq_beneath hs]
  by_cases hwithin : s.LowersWithin name changes
  · rw [hlowers hwithin, hs.saved_of_closed h.before]
  · rw [hnot hwithin, hs.beneath_of_closed h.before]

/-- Somebody sets the level, and nobody does after that. -/
theorem level_of_sets {before after : List Change} {other : String} {level : Int}
    (h : s.Episode name (before ++ .set other level :: after)) (hs : Reckoned first s)
    (hname : canonical other = canonical name) (hsets : ∀ c ∈ after, ¬c.Sets name) :
    let set := s.undergoAll (before ++ [.set other level])
    (set.LowersWithin name after →
      (s.undergoAll (before ++ .set other level :: after)).level name = s.level name) ∧
    (¬set.LowersWithin name after →
      (s.undergoAll (before ++ .set other level :: after)).level name = level) := by
  have hsplit : before ++ .set other level :: after = (before ++ [.set other level]) ++ after := by simp
  have hprefix : before ++ [.set other level] <+: before ++ .set other level :: after :=
    hsplit ▸ List.prefix_append ..
  have hbeneath : (s.undergoAll (before ++ [.set other level])).beneath name = level := by
    rw [undergoAll_append]
    exact beneath_set (h.fair before _ hprefix) hname
  obtain ⟨hlowers, hnot⟩ := (hs.undergoAll (before ++ [.set other level])).beneath_undergoAll hsets
    fun earlier hearlier hne hlast => by
      rw [← undergoAll_append]
      refine h.during _ ?_ (by simp) ?_
      · rw [hsplit]
        exact (List.prefix_append_right_inj _).2 hearlier
      · rw [hsplit]
        simpa using hlast
  have hend : s.undergoAll (before ++ .set other level :: after)
      = (s.undergoAll (before ++ [.set other level])).undergoAll after := by
    rw [hsplit, undergoAll_append]
  rw [h.level_eq_beneath hs, hend]
  refine ⟨fun hwithin => ?_, fun hwithin => (hnot hwithin).trans hbeneath⟩
  rw [hlowers hwithin]
  refine h.saved_eq hs _ hprefix ?_
  intro heq
  obtain ⟨lowering, c, hlowering, -⟩ := hwithin
  obtain rfl : after = [] := by simpa using heq
  simp at hlowering

end Episode

/-- **Which levels outlive recorders.** On a logger with any level, with any number of interceptors, other loggers and
levels that other code sets: take the changes from the first recorder of the logger to the closing of the last one,
where other code never sets the level that is in place for the recorders. If no other code sets the level of the
logger, it is in the end what it was before. If other code does, then the level that it set last is the level in the
end, unless one more recorder lowers the logger after that; in this case the level from before the first recorder is
put back. -/
theorem set_level_outlives_iff {s₀ : Stations} (h₀ : s₀.IsInitial) (earlier changes : List Change) {name : String}
    (h : (s₀.undergoAll earlier).Episode name changes) :
    ((∀ c ∈ changes, ¬c.Sets name) →
      (s₀.undergoAll (earlier ++ changes)).level name = (s₀.undergoAll earlier).level name) ∧
    ∀ before other level after, changes = before ++ .set other level :: after → canonical other = canonical name →
      (∀ c ∈ after, ¬c.Sets name) →
      let set := s₀.undergoAll (earlier ++ (before ++ [.set other level]))
      ((s₀.undergoAll (earlier ++ changes)).level name = level ↔
        (set.LowersWithin name after → (s₀.undergoAll earlier).level name = level)) ∧
      (set.LowersWithin name after →
        (s₀.undergoAll (earlier ++ changes)).level name = (s₀.undergoAll earlier).level name) := by
  have hs := h₀.reckoned.undergoAll earlier
  rw [undergoAll_append]
  refine ⟨h.level_of_not_sets hs, ?_⟩
  rintro before other level after rfl hname hsets
  obtain ⟨hlowers, hnot⟩ := h.level_of_sets hs hname hsets
  rw [undergoAll_append]
  refine ⟨?_, hlowers⟩
  by_cases hwithin : ((s₀.undergoAll earlier).undergoAll (before ++ [.set other level])).LowersWithin name after
  · rw [hlowers hwithin]
    exact ⟨fun heq _ => heq, fun heq => heq hwithin⟩
  · rw [hnot hwithin]
    exact iff_of_true rfl fun h => absurd h hwithin

theorem isFair_move (s : Stations) (name : String) (m : Move) : s.IsFair name (.move m) := by
  intro other level h
  cases h

/-- The level of a logger is set while it has a recorder. -/
def setOnce : List Change := [.move (.attach 0 ⟨"app", .info, "", .named "a"⟩), .set "app" 40, .move (.close 0)]

theorem set_level_outlives_iff_once : (atRest.undergoAll []).Episode "app" setOnce ∧
    (atRest.undergoAll setOnce).level "app" = 40 := by
  have hepisode : (atRest.undergoAll []).Episode "app" setOnce := by
    refine .of_take rfl ?_ (List.eq_nil_of_length_eq_zero (by decide +kernel)) ?_
    · intro n hpos hlt
      match n, hpos, hlt with
      | 1, _, _ => exact List.ne_nil_of_length_pos (by decide +kernel)
      | 2, _, _ => exact List.ne_nil_of_length_pos (by decide +kernel)
    · intro n c hc
      match n, hc with
      | 0, hc | 2, hc =>
        obtain rfl := Option.some.inj hc
        exact isFair_move _ _ _
      | 1, hc =>
        obtain rfl := Option.some.inj hc
        intro other level heq _
        obtain ⟨-, rfl⟩ := Change.set.inj heq
        decide +kernel
  obtain ⟨-, hset⟩ := set_level_outlives_iff isInitial_atRest [] setOnce hepisode
  obtain ⟨hiff, -⟩ := hset (setOnce.take 1) "app" 40 (setOnce.drop 2) rfl rfl (by simp [setOnce, Change.Sets])
  refine ⟨hepisode, hiff.2 ?_⟩
  -- nothing is attached after the level was set
  rintro ⟨earlier, c, hprefix, interceptor, request, rfl, -⟩
  have hmem := hprefix.subset (List.mem_append_right earlier (List.mem_singleton_self _))
  simp [setOnce] at hmem

/-- The level of a logger is set while it has a recorder, and a second recorder lowers it again. -/
def setAndLowered : List Change :=
  [.move (.attach 0 ⟨"app", .info, "", .named "a"⟩), .set "app" 40, .move (.attach 1 ⟨"app", .fine, "", .named "b"⟩),
    .move (.close 0), .move (.close 1)]

/-- The level from before both recorders is put back over the level that was set. -/
theorem not_set_level_outlives_lowered : (atRest.undergoAll []).Episode "app" setAndLowered ∧
    atRest.level "app" = 0 ∧ (atRest.undergoAll (setAndLowered.take 2)).level "app" = 40 ∧
    (∀ c ∈ setAndLowered.drop 2, ¬c.Sets "app") ∧ (atRest.undergoAll setAndLowered).level "app" = 0 := by
  refine ⟨?_, by decide +kernel, by decide +kernel, by simp [setAndLowered, Change.Sets], by decide +kernel⟩
  refine .of_take rfl ?_ (List.eq_nil_of_length_eq_zero (by decide +kernel)) ?_
  · intro n hpos hlt
    match n, hpos, hlt with
    | 1, _, _ | 2, _, _ | 3, _, _ | 4, _, _ => exact List.ne_nil_of_length_pos (by decide +kernel)
  · intro n c hc
    match n, hc with
    | 0, hc | 2, hc | 3, hc | 4, hc =>
      obtain rfl := Option.some.inj hc
      exact isFair_move _ _ _
    | 1, hc =>
      obtain rfl := Option.some.inj hc
      intro other level heq _
      obtain ⟨-, rfl⟩ := Change.set.inj heq
      decide +kernel

end Stations

end LogAssay
