import LogAssay.Proofs.Logger.Path
import Mathlib.Data.List.Nodup

/-!
# The ledger of open attachments

Attaching and detaching change a logger tree in ways that depend on each other: several attachments share the
override of one logger, and the level in force for a logger may be inherited from one that is overridden.
A ledger lists the attachments that are open, and `Holds` says what the tree is then.

## What is kept

* Handlers stand behind those that were there, in the order of the ledger.
* A logger without open attachments has no override and the level that it had.
* Otherwise its override remembers this level and counts the attachments. If the level was lowered, then below
  the level that was in force before any attachment.

`Holds.attach` and `Holds.detach` are the two steps. No level in force ever rises above what it was
(`Holds.effectiveLevel_le`).
-/

namespace LogAssay

theorem Thresholds.standardLevel_pos (s : Severity) : 0 < standardLevel s := by
  cases s <;> decide

namespace LoggerTree

open Logger

/-! ## Names of one logger -/

section Congr

variable {a b : String}

theorem logger_congr (t : LoggerTree) (h : canonical a = canonical b) : t.logger a = t.logger b := by
  rw [logger, h, logger]

theorem effectiveLevel_congr (t : LoggerTree) (h : canonical a = canonical b) :
    t.effectiveLevel a = t.effectiveLevel b := by
  rw [← effectiveLevel_canonical, h, effectiveLevel_canonical]

end Congr

/-- In a new tree nothing has a handler. -/
theorem handlers_new (name : String) : (({} : LoggerTree).logger name).handlers = [] := by
  show ((List.lookup (canonical name) [(rootName, ({ level := 30 } : Logger))]).getD {}).handlers = []
  rw [List.lookup_cons]
  split
  · rfl
  · rfl

/-! ## What the operations change -/

/-- The level override of a logger, as one more holder finds it. -/
def heldOverride (t : LoggerTree) (name : String) : Override :=
  (t.overrides.get (canonical name)).getD { saved := (t.logger name).level }

/-- The level that a logger was lowered to, if it is. -/
def applied? (t : LoggerTree) (name : String) : Option Int :=
  (t.overrides.get (canonical name)).bind (·.applied)

theorem applied?_congr (t : LoggerTree) {a b : String} (h : canonical a = canonical b) :
    t.applied? a = t.applied? b := by
  rw [applied?, h, applied?]

theorem heldOverride_congr (t : LoggerTree) {a b : String} (h : canonical a = canonical b) :
    t.heldOverride a = t.heldOverride b := by
  rw [heldOverride, h, t.logger_congr h, heldOverride]

theorem applied_heldOverride (t : LoggerTree) (name : String) : (t.heldOverride name).applied = t.applied? name := by
  unfold heldOverride applied?
  cases t.overrides.get (canonical name) with
  | none => rfl
  | some held => rfl

theorem logger_lower (t : LoggerTree) (name other : String) (native : Int) :
    (t.lower name native).logger other
      = if canonical other = canonical name ∧ native < t.effectiveLevel name then
          { t.logger name with level := native }
        else t.logger other := by
  unfold lower
  by_cases hlow : native < t.effectiveLevel name
  · rw [if_pos hlow]
    show (t.setLevel name native).logger other = _
    rw [setLevel, logger_change]
    simp [hlow]
  · rw [if_neg hlow, if_neg fun h => hlow h.2]
    rfl

theorem overrides_lower (t : LoggerTree) (name key : String) (native : Int) :
    (t.lower name native).overrides.get key
      = if key = canonical name then
          some ⟨(t.heldOverride name).saved,
            if native < t.effectiveLevel name then some native else (t.heldOverride name).applied,
            (t.heldOverride name).holders + 1⟩
        else t.overrides.get key := by
  unfold lower
  by_cases hlow : native < t.effectiveLevel name
  · rw [if_pos hlow, if_pos hlow]
    exact Directory.get_put ..
  · rw [if_neg hlow, if_neg hlow]
    exact Directory.get_put ..

theorem logger_attach (t : LoggerTree) (request : Request) (serial : Nat) (other : String) :
    (t.attach request serial).logger other
      = if canonical other = canonical request.channel then
          { t.logger other with
            level := if Thresholds.standardLevel request.severity < t.effectiveLevel request.channel then
              Thresholds.standardLevel request.severity else (t.logger other).level
            handlers := (t.logger other).handlers
              ++ [⟨serial, Thresholds.standardLevel request.severity, request.testId, request.collector⟩] }
        else t.logger other := by
  rw [attach, logger_change, logger_lower]
  by_cases h : canonical other = canonical request.channel
  · rw [if_pos h, if_pos h, t.logger_congr h]
    by_cases hlow : Thresholds.standardLevel request.severity < t.effectiveLevel request.channel
    · simp [hlow]
    · simp [hlow]
  · rw [if_neg h, if_neg h, logger_lower, if_neg fun hc => h hc.1]

theorem overrides_attach (t : LoggerTree) (request : Request) (serial : Nat) :
    (t.attach request serial).overrides
      = (t.lower request.channel (Thresholds.standardLevel request.severity)).overrides := rfl

/-- Attaching puts a level in place where it lowers a logger. -/
theorem applied?_attach (t : LoggerTree) (request : Request) (serial : Nat) (name : String) :
    (t.attach request serial).applied? name =
      if canonical name = canonical request.channel ∧
          Thresholds.standardLevel request.severity < t.effectiveLevel request.channel
      then some (Thresholds.standardLevel request.severity) else t.applied? name := by
  rw [applied?, overrides_attach, overrides_lower]
  by_cases hname : canonical name = canonical request.channel
  · rw [if_pos hname, Option.bind_some]
    by_cases hlow : Thresholds.standardLevel request.severity < t.effectiveLevel request.channel
    · rw [if_pos hlow, if_pos ⟨hname, hlow⟩]
    · rw [if_neg hlow, if_neg fun h => hlow h.2, applied_heldOverride, t.applied?_congr hname]
  · rw [if_neg hname, if_neg fun h => hname h.1, applied?]

section Release

variable {t : LoggerTree} {name : String} {held : Override}

theorem overrides_release (h : t.overrides.get (canonical name) = some held) (key : String) :
    (t.release name).overrides.get key
      = if key = canonical name then
          if 1 < held.holders then some { held with holders := held.holders - 1 } else none
        else t.overrides.get key := by
  unfold release
  simp only [h]
  by_cases hmany : 1 < held.holders
  · rw [if_pos hmany, if_pos hmany]
    exact Directory.get_put ..
  · rw [if_neg hmany, if_neg hmany]
    split
    · exact Directory.get_put ..
    · exact Directory.get_put ..

theorem logger_release (h : t.overrides.get (canonical name) = some held) (other : String) :
    (t.release name).logger other
      = if canonical other = canonical name ∧ held.holders ≤ 1 ∧ held.applied = some (t.logger name).level then
          { t.logger name with level := held.saved }
        else t.logger other := by
  have hput : ∀ overrides, ({ t with overrides := overrides } : LoggerTree).logger = t.logger := fun _ => rfl
  unfold release
  simp only [h]
  by_cases hmany : 1 < held.holders
  · rw [if_pos hmany, if_neg (by omega), hput]
  · rw [if_neg hmany, hput]
    by_cases happlied : held.applied = some (t.logger name).level
    · rw [if_pos happlied, setLevel, logger_change, hput]
      simp [happlied, show held.holders ≤ 1 by omega]
    · rw [if_neg happlied, if_neg fun hc => happlied hc.2.2, hput]

end Release

theorem overrides_detach {t : LoggerTree} {d : Detachment} {held : Override}
    (h : t.overrides.get (canonical d.name) = some held) (key : String) :
    (t.detach d).overrides.get key
      = if key = canonical d.name then
          if 1 < held.holders then some { held with holders := held.holders - 1 } else none
        else t.overrides.get key := overrides_release (t := t.change d.name _) h key

/-- An override that ends leaves no level in place. -/
theorem applied?_detach {t : LoggerTree} {d : Detachment} {held : Override}
    (h : t.overrides.get (canonical d.name) = some held) (name : String) :
    (t.detach d).applied? name
      = if canonical name = canonical d.name ∧ held.holders ≤ 1 then none else t.applied? name := by
  rw [applied?, overrides_detach h]
  by_cases hname : canonical name = canonical d.name
  · rw [if_pos hname, t.applied?_congr hname]
    by_cases hmany : 1 < held.holders
    · rw [if_pos hmany, if_neg fun hc => absurd hc.2 (Nat.not_le.2 hmany), applied?, h]
      rfl
    · rw [if_neg hmany, if_pos ⟨hname, Nat.not_lt.1 hmany⟩]
      rfl
  · rw [if_neg hname, if_neg fun hc => hname hc.1, applied?]

theorem logger_detach {t : LoggerTree} {d : Detachment} {held : Override}
    (h : t.overrides.get (canonical d.name) = some held) (other : String) :
    (t.detach d).logger other
      = if canonical other = canonical d.name then
          { t.logger other with
            level := if held.holders ≤ 1 ∧ held.applied = some (t.logger other).level then held.saved
              else (t.logger other).level
            handlers := (t.logger other).handlers.filter (·.serial ≠ d.serial) }
        else t.logger other := by
  rw [detach, logger_release (t := t.change d.name _) h, logger_change, logger_change, if_pos rfl]
  by_cases hname : canonical other = canonical d.name
  · rw [if_pos hname, t.logger_congr hname]
    by_cases hlast : held.holders ≤ 1 ∧ held.applied = some (t.logger d.name).level
    · rw [if_pos ⟨hname, hlast⟩, if_pos hlast, if_pos hname]
    · rw [if_neg fun hc => hlast hc.2, if_pos hname, if_neg hlast]
  · rw [if_neg fun hc => hname hc.1, if_neg hname, if_neg hname]

theorem handlers_release (t : LoggerTree) (name other : String) :
    ((t.release name).logger other).handlers = (t.logger other).handlers := by
  unfold release
  dsimp only
  split
  · rfl
  · split
    · rfl
    · split
      · rw [setLevel, logger_change]
        split
        · next h =>
          show (LoggerTree.logger _ name).handlers = _
          rw [logger_congr _ h.symm]
          rfl
        · rfl
      · rfl

theorem handlers_detach (t : LoggerTree) (d : Detachment) (other : String) :
    ((t.detach d).logger other).handlers
      = if canonical other = canonical d.name then
          (t.logger other).handlers.filter (·.serial ≠ d.serial)
        else (t.logger other).handlers := by
  rw [detach, handlers_release, logger_change]
  split
  · next h => rw [t.logger_congr h]
  · rfl

/-! ## The ledger -/

/-- An open attachment: the number of its handler, and what was asked for. -/
structure Holder where
  serial : Nat
  request : Request

/-- The handler of an attachment. -/
def Holder.handler (h : Holder) : Handler :=
  ⟨h.serial, Thresholds.standardLevel h.request.severity, h.request.testId, h.request.collector⟩

/-- The attachments to a logger, among some. -/
def on (hs : List Holder) (name : String) : List Holder :=
  hs.filter (canonical ·.request.channel = canonical name)

section Attachments

variable {hs : List Holder} {x : Holder}

theorem on_congr {a b : String} (hs : List Holder) (h : canonical a = canonical b) : on hs a = on hs b := by
  rw [on, h, on]

theorem on_concat (hs : List Holder) (h : Holder) (name : String) :
    on (hs ++ [h]) name = if canonical name = canonical h.request.channel then on hs name ++ [h]
      else on hs name := by
  unfold on
  rw [List.filter_append]
  by_cases hname : canonical name = canonical h.request.channel
  · rw [if_pos hname, List.filter_cons_of_pos (by simp [hname])]
    rfl
  · rw [if_neg hname, List.filter_cons_of_neg (by simpa using fun hc => hname hc.symm)]
    simp

theorem eq_of_serial_eq (unique : (hs.map Holder.serial).Nodup) (hx : x ∈ hs) {y : Holder} (hy : y ∈ hs)
    (h : y.serial = x.serial) : y = x :=
  List.inj_on_of_nodup_map unique hy hx h

theorem on_remove (hs : List Holder) (x : Holder) (name : String) :
    on (hs.filter (·.serial ≠ x.serial)) name = (on hs name).filter (·.serial ≠ x.serial) := by
  unfold on
  rw [List.filter_filter, List.filter_filter]
  simp only [Bool.and_comm]

/-- Only the logger of a closed attachment loses a holder. -/
theorem on_remove_of_ne (unique : (hs.map Holder.serial).Nodup) (hx : x ∈ hs) {name : String}
    (h : canonical name ≠ canonical x.request.channel) :
    on (hs.filter (·.serial ≠ x.serial)) name = on hs name := by
  rw [on_remove, List.filter_eq_self]
  intro y hy
  obtain ⟨hmem, hname⟩ := List.mem_filter.1 hy
  rw [decide_eq_true_eq] at hname ⊢
  intro hserial
  rw [eq_of_serial_eq unique hx hmem hserial] at hname
  exact h hname.symm

theorem length_remove : ∀ {hs : List Holder}, (hs.map Holder.serial).Nodup → x ∈ hs →
    (hs.filter (·.serial ≠ x.serial)).length + 1 = hs.length
  | y :: hs, unique, hx => by
    rw [List.map_cons, List.nodup_cons] at unique
    by_cases hy : y.serial = x.serial
    · -- the number is met once, so the rest is kept
      have hrest : hs.filter (·.serial ≠ x.serial) = hs := by
        rw [List.filter_eq_self]
        intro z hz
        rw [decide_eq_true_eq]
        intro hserial
        exact unique.1 (hy ▸ hserial ▸ List.mem_map_of_mem hz)
      rw [List.filter_cons_of_neg (by simp [hy]), hrest, List.length_cons]
    · have hmem : x ∈ hs := by
        rcases List.mem_cons.1 hx with rfl | hmem
        · exact absurd rfl hy
        · exact hmem
      rw [List.filter_cons_of_pos (by simp [hy]), List.length_cons, List.length_cons,
        length_remove unique.2 hmem]

/-- The number of holders that a logger keeps. -/
theorem length_on_remove (unique : (hs.map Holder.serial).Nodup) (hx : x ∈ hs) {name : String}
    (h : canonical name = canonical x.request.channel) :
    (on (hs.filter (·.serial ≠ x.serial)) name).length + 1 = (on hs name).length := by
  rw [on_remove]
  refine length_remove (unique.sublist (List.filter_sublist.map _)) (List.mem_filter.2 ⟨hx, ?_⟩)
  simp [h]

end Attachments

/-! ### Handlers -/

/-- The handlers of a tree while some attachments are open, whatever the levels are. -/
def Staffed (t₀ t : LoggerTree) (hs : List Holder) : Prop :=
  ∀ name, (t.logger name).handlers = (t₀.logger name).handlers ++ (on hs name).map Holder.handler

namespace Staffed

variable {t₀ t : LoggerTree} {hs : List Holder} {x : Holder}

theorem attach (h : Staffed t₀ t hs) (request : Request) (serial : Nat) :
    Staffed t₀ (t.attach request serial) (hs ++ [⟨serial, request⟩]) := by
  intro name
  rw [logger_attach, on_concat]
  split
  · rw [List.map_append, ← List.append_assoc, ← h name]
    rfl
  · exact h name

theorem detach (h : Staffed t₀ t hs) (unique : (hs.map Holder.serial).Nodup) (hx : x ∈ hs)
    (fresh : ∀ name, ∀ y ∈ (t₀.logger name).handlers, y.serial ≠ x.serial) :
    Staffed t₀ (t.detach ⟨x.request.channel, x.serial⟩) (hs.filter (·.serial ≠ x.serial)) := by
  intro name
  rw [handlers_detach]
  by_cases hname : canonical name = canonical x.request.channel
  · have hbefore : (t₀.logger name).handlers.filter (·.serial ≠ x.serial) = (t₀.logger name).handlers := by
      rw [List.filter_eq_self]
      intro y hy
      simpa using fresh name y hy
    rw [if_pos hname, on_remove, h name, List.filter_append, hbefore, List.filter_map]
    rfl
  · rw [if_neg hname, on_remove_of_ne unique hx hname]
    exact h name

end Staffed

/-! ### The tree -/

/-- What a tree is while some attachments are open, given what it was before any was. -/
structure Holds (t₀ t : LoggerTree) (hs : List Holder) : Prop where
  handlers : ∀ name, (t.logger name).handlers
    = (t₀.logger name).handlers ++ (on hs name).map Holder.handler
  passing : ∀ name, (t.logger name).passesOn = (t₀.logger name).passesOn
  /-- A logger without open attachments has no override. -/
  free : ∀ name, on hs name = [] → t.overrides.get (canonical name) = none
  /-- An override remembers the level before it and counts its holders. -/
  held : ∀ name, on hs name ≠ [] → t.overrides.get (canonical name)
    = some ⟨(t₀.logger name).level, t.applied? name, (on hs name).length⟩
  level : ∀ name, (t.logger name).level = (t.applied? name).getD (t₀.logger name).level
  /-- A level is lowered below what was in force. -/
  lowered : ∀ name v, t.applied? name = some v → 0 < v ∧ v < t₀.effectiveLevel name

/-- A tree without overrides is as it was before any attachment. -/
theorem Holds.initial {t : LoggerTree} (h : ∀ name, t.overrides.get (canonical name) = none) :
    Holds t t [] where
  handlers name := (List.append_nil _).symm
  passing _ := rfl
  free name _ := h name
  held name hne := absurd rfl hne
  level name := by rw [applied?, h]; rfl
  lowered name v hv := by rw [applied?, h] at hv; cases hv

namespace Holds

variable {t₀ t : LoggerTree} {hs : List Holder}

/-- **No level in force rises above what it was.** -/
theorem effectiveLevel_le (h : Holds t₀ t hs) (name : String) :
    t.effectiveLevel name ≤ t₀.effectiveLevel name := by
  refine LoggerTree.effectiveLevel_le (fun m => ?_) name
  have hlevel := h.level m
  cases happlied : t.applied? m with
  | none => exact .inl (by rw [hlevel, happlied]; rfl)
  | some v =>
    obtain ⟨hpos, hlt⟩ := h.lowered m v happlied
    rw [happlied, Option.getD_some] at hlevel
    exact .inr ⟨by omega, by omega⟩

/-- The override that one more holder finds. -/
theorem heldOverride_eq (h : Holds t₀ t hs) (name : String) :
    t.heldOverride name = ⟨(t₀.logger name).level, t.applied? name, (on hs name).length⟩ := by
  by_cases hon : on hs name = []
  · have hnone := h.free name hon
    have hlevel := h.level name
    rw [applied?, hnone] at hlevel
    rw [heldOverride, applied?, hnone, hon, hlevel]
    rfl
  · rw [heldOverride, h.held name hon]
    rfl

/-- **Attaching keeps the ledger.** -/
theorem attach (h : Holds t₀ t hs) (request : Request) (serial : Nat) :
    Holds t₀ (t.attach request serial) (hs ++ [⟨serial, request⟩]) where
  handlers := Staffed.attach h.handlers request serial
  passing name := by
    rw [logger_attach]
    split
    · exact h.passing name
    · exact h.passing name
  free name hon := by
    rw [on_concat] at hon
    split at hon
    · simp at hon
    · next hname => rw [overrides_attach, overrides_lower, if_neg hname, h.free name hon]
  held name hon := by
    rw [applied?_attach, overrides_attach, overrides_lower, h.heldOverride_eq]
    rw [on_concat] at hon ⊢
    by_cases hname : canonical name = canonical request.channel
    · rw [if_pos hname, if_pos hname, t₀.logger_congr hname, on_congr hs hname, t.applied?_congr hname,
        List.length_append, List.length_singleton]
      simp only [hname, true_and]
    · rw [if_neg hname] at hon ⊢
      rw [if_neg hname, if_neg fun hc => hname hc.1]
      exact h.held name hon
  level name := by
    rw [logger_attach, applied?_attach]
    by_cases hname : canonical name = canonical request.channel
    · by_cases hlow : Thresholds.standardLevel request.severity < t.effectiveLevel request.channel
      · rw [if_pos hname, if_pos hlow, if_pos ⟨hname, hlow⟩]
        rfl
      · rw [if_pos hname, if_neg hlow, if_neg fun hc => hlow hc.2]
        exact h.level name
    · rw [if_neg hname, if_neg fun hc => hname hc.1]
      exact h.level name
  lowered name v hv := by
    rw [applied?_attach] at hv
    split at hv
    · next hlow =>
      -- what was in force at attaching is no more than what was in force at first
      cases hv
      have := h.effectiveLevel_le name
      rw [t.effectiveLevel_congr hlow.1] at this
      exact ⟨Thresholds.standardLevel_pos _, by omega⟩
    · exact h.lowered name v hv

/-! ### Detaching -/

variable {x : Holder}

/-- The override that an attachment to be closed holds. -/
theorem held_of_mem (h : Holds t₀ t hs) (hx : x ∈ hs) : t.overrides.get (canonical x.request.channel)
    = some ⟨(t₀.logger x.request.channel).level, t.applied? x.request.channel,
      (on hs x.request.channel).length⟩ := by
  refine h.held _ (List.ne_nil_of_mem (List.mem_filter.2 ⟨hx, ?_⟩))
  simp

/-- The level that detaching leaves a logger lowered to. -/
theorem applied?_detached (h : Holds t₀ t hs) (hx : x ∈ hs) (name : String) :
    (t.detach ⟨x.request.channel, x.serial⟩).applied? name
      = if canonical name = canonical x.request.channel ∧ (on hs name).length ≤ 1 then none
        else t.applied? name := by
  rw [applied?_detach (h.held_of_mem hx)]
  exact if_congr (and_congr_right fun hname => by rw [on_congr hs hname]) rfl rfl

theorem held_detached (h : Holds t₀ t hs) (unique : (hs.map Holder.serial).Nodup) (hx : x ∈ hs) (name : String)
    (hon : on (hs.filter (·.serial ≠ x.serial)) name ≠ []) :
    (t.detach ⟨x.request.channel, x.serial⟩).overrides.get (canonical name)
      = some ⟨(t₀.logger name).level, (t.detach ⟨x.request.channel, x.serial⟩).applied? name,
        (on (hs.filter (·.serial ≠ x.serial)) name).length⟩ := by
  have happlied := h.applied?_detached hx name
  rw [overrides_detach (h.held_of_mem hx)]
  by_cases hname : canonical name = canonical x.request.channel
  · -- another attachment is left, so the override stays, with one holder less
    have hlength := length_on_remove unique hx hname
    have hpos := List.length_pos_iff.2 hon
    rw [if_neg (by omega)] at happlied
    rw [on_congr hs hname] at hlength
    rw [happlied, if_pos hname, if_pos (by simp only; omega), t₀.logger_congr hname, t.applied?_congr hname]
    simp only [Option.some.injEq, Override.mk.injEq, true_and]
    omega
  · rw [on_remove_of_ne unique hx hname] at hon ⊢
    rw [if_neg fun hc => hname hc.1] at happlied
    rw [happlied, if_neg hname]
    exact h.held name hon

/-- The last attachment to go puts the level back: a lowered level is still the live one, and any other level
was never touched. -/
theorem level_detached (h : Holds t₀ t hs) (hx : x ∈ hs) (name : String) :
    ((t.detach ⟨x.request.channel, x.serial⟩).logger name).level
      = ((t.detach ⟨x.request.channel, x.serial⟩).applied? name).getD (t₀.logger name).level := by
  have happlied := h.applied?_detached hx name
  have hlevel := h.level name
  rw [logger_detach (h.held_of_mem hx)]
  by_cases hname : canonical name = canonical x.request.channel
  · rw [if_pos hname]
    simp only
    rw [← on_congr hs hname, ← t.applied?_congr hname, ← t₀.logger_congr hname]
    by_cases hlast : (on hs name).length ≤ 1
    · rw [if_pos ⟨hname, hlast⟩] at happlied
      rw [happlied, Option.getD_none]
      split
      · rfl
      · next hother =>
        rw [hlevel] at hother ⊢
        cases hv : t.applied? name with
        | none => rfl
        | some v =>
          rw [hv, Option.getD_some] at hother
          exact absurd ⟨hlast, rfl⟩ hother
    · rw [if_neg fun hc => hlast hc.2] at happlied
      rw [happlied, if_neg fun hc => hlast hc.1]
      exact hlevel
  · rw [if_neg fun hc => hname hc.1] at happlied
    rw [happlied, if_neg hname]
    exact hlevel

/-- **Detaching keeps the ledger.** -/
theorem detach (h : Holds t₀ t hs) (unique : (hs.map Holder.serial).Nodup) (hx : x ∈ hs)
    (fresh : ∀ name, ∀ y ∈ (t₀.logger name).handlers, y.serial ≠ x.serial) :
    Holds t₀ (t.detach ⟨x.request.channel, x.serial⟩) (hs.filter (·.serial ≠ x.serial)) where
  handlers := Staffed.detach h.handlers unique hx fresh
  passing name := by
    rw [logger_detach (h.held_of_mem hx)]
    split
    · exact h.passing name
    · exact h.passing name
  free name hon := by
    rw [overrides_detach (h.held_of_mem hx)]
    by_cases hname : canonical name = canonical x.request.channel
    · -- the attachment was the last one, so the override ends
      have hlength := length_on_remove unique hx hname
      rw [hon, List.length_nil, on_congr hs hname] at hlength
      rw [if_pos hname, if_neg (by simp only; omega)]
    · rw [on_remove_of_ne unique hx hname] at hon
      rw [if_neg hname]
      exact h.free name hon
  held := h.held_detached unique hx
  level := h.level_detached hx
  lowered name v hv := by
    rw [h.applied?_detached hx] at hv
    split at hv
    · cases hv
    · exact h.lowered name v hv

end Holds

end LoggerTree

end LogAssay
