import LogAssay.Proofs.Logger.Interference

/-!
# Shared overrides

All recorders of a logger share its override. While one of them stays open, others come and go: one that asks for less
than the level in force lowers the level, and closing it does not put the level back. So the level that the others
leave is told by what they asked for, and by the level in force when they asked for it.

`Holds` tells a tree by what it was before any attachment was open. `Atop` tells it by any earlier tree, in which other
attachments may be open already, and whose levels may have been set by anyone. All that is asked of this tree is that
it is well-formed, which nobody can change.

## Main statements

* `WellFormed.attach`, `detach`, `setLevel`, `setPassing`: a tree stays well-formed.
* `lowered_attach`: how attaching lowers a logger.
* `Atop.attach`, `Atop.detach`: what is kept while attachments come and go.
* `Atop.lowered_detach`: detaching leaves a logger lowered that had an override before.
-/

namespace LogAssay

namespace LoggerTree

open Logger (canonical)

/-! ## Well-formed trees -/

/-- A tree in which handlers have numbers below the next one, and overrides have holders. -/
structure WellFormed (t : LoggerTree) (next : Nat) : Prop where
  serials : ∀ name, ∀ y ∈ (t.logger name).handlers, y.serial < next
  holders : ∀ name held, t.overrides.get (canonical name) = some held → 0 < held.holders

theorem wellFormed_new (next : Nat) : WellFormed {} next where
  serials name y hy := by
    rw [handlers_new] at hy
    cases hy
  holders _ _ h := by cases h

namespace WellFormed

variable {t : LoggerTree} {next : Nat}

/-- The handler that is attached takes the next number. -/
theorem attach (h : t.WellFormed next) (request : Request) : (t.attach request next).WellFormed (next + 1) where
  serials name y hy := by
    rw [logger_attach] at hy
    split at hy
    · rcases List.mem_append.1 hy with hbefore | hnew
      · exact Nat.lt_succ_of_lt (h.serials name y hbefore)
      · rw [List.mem_singleton.1 hnew]
        exact Nat.lt_succ_self next
    · exact Nat.lt_succ_of_lt (h.serials name y hy)
  holders name held hget := by
    rw [overrides_attach, overrides_lower] at hget
    split at hget
    · cases hget
      exact Nat.succ_pos _
    · exact h.holders name held hget

theorem detach (h : t.WellFormed next) (d : Detachment) : (t.detach d).WellFormed next where
  serials name y hy := by
    rw [handlers_detach] at hy
    split at hy
    · exact h.serials name y (List.mem_filter.1 hy).1
    · exact h.serials name y hy
  holders name held hget := by
    cases hheld : t.overrides.get (canonical d.name) with
    | none =>
      rw [LoggerTree.detach, release] at hget
      simp only [change, hheld] at hget
      exact h.holders name held hget
    | some before =>
      rw [overrides_detach hheld] at hget
      split at hget
      · split at hget
        · next hmany =>
          cases hget
          exact Nat.sub_pos_of_lt hmany
        · cases hget
      · exact h.holders name held hget

theorem setLevel (h : t.WellFormed next) (name : String) (level : Int) : (t.setLevel name level).WellFormed next where
  serials other y hy := by
    rw [LoggerTree.setLevel, logger_change] at hy
    split at hy
    · exact h.serials name y hy
    · exact h.serials other y hy
  holders := h.holders

theorem setPassing (h : t.WellFormed next) (name : String) (passesOn : Bool) :
    (t.setPassing name passesOn).WellFormed next where
  serials other y hy := by
    rw [LoggerTree.setPassing, logger_change] at hy
    split at hy
    · exact h.serials name y hy
    · exact h.serials other y hy
  holders := h.holders

end WellFormed

/-! ## Lowered levels -/

/-- The level that attaching a channel lowers a logger to, if it does. -/
def lowering? (t : LoggerTree) (request : Request) (name : String) : Option Int :=
  if canonical name = canonical request.channel ∧
      Thresholds.standardLevel request.severity < t.effectiveLevel request.channel then
    some (Thresholds.standardLevel request.severity)
  else none

/-- The level that some attachments lower a logger to, each made in the tree that it is given with. The last one that
lowers it counts. -/
def loweredBy (made : List (LoggerTree × Request)) (name : String) : Option Int :=
  made.reverse.findSome? fun (t, request) => t.lowering? request name

theorem loweredBy_append (made more : List (LoggerTree × Request)) (name : String) :
    loweredBy (made ++ more) name = (loweredBy more name).or (loweredBy made name) := by
  rw [loweredBy, List.reverse_append, List.findSome?_append]
  rfl

theorem loweredBy_cons (t : LoggerTree) (request : Request) (made : List (LoggerTree × Request)) (name : String) :
    loweredBy ((t, request) :: made) name = (loweredBy made name).or (t.lowering? request name) := by
  rw [← List.singleton_append, loweredBy_append]
  congr 1
  rw [loweredBy, List.reverse_singleton, List.findSome?_singleton]

/-- How a logger is lowered between two trees, if it is: its level is the lower one, and its override has this as the
level that was put in place. -/
structure Lowered (t t' : LoggerTree) (name : String) (lowered : Option Int) : Prop where
  applied : t'.applied? name = lowered.or (t.applied? name)
  level : (t'.logger name).level = lowered.getD (t.logger name).level

section Lowered

variable {t t' t'' : LoggerTree} {name : String} {lowered lowered' : Option Int}

theorem Lowered.refl (t : LoggerTree) (name : String) : Lowered t t name none := ⟨rfl, rfl⟩

theorem Lowered.trans (h : Lowered t t' name lowered) (h' : Lowered t' t'' name lowered') :
    Lowered t t'' name (lowered'.or lowered) where
  applied := by rw [h'.applied, h.applied, Option.or_assoc]
  level := by rw [h'.level, h.level, Option.getD_or]

/-- **Attaching** lowers a logger if the channel is its own and asks for less than the level in force. -/
theorem lowered_attach (t : LoggerTree) (request : Request) (serial : Nat) (name : String) :
    Lowered t (t.attach request serial) name (t.lowering? request name) := by
  constructor
  · rw [applied?_attach, lowering?]
    split
    · rfl
    · rfl
  · rw [logger_attach, lowering?]
    by_cases hname : canonical name = canonical request.channel
    · by_cases hlow : Thresholds.standardLevel request.severity < t.effectiveLevel request.channel
      · rw [if_pos hname, if_pos hlow, if_pos ⟨hname, hlow⟩]
        rfl
      · rw [if_pos hname, if_neg hlow, if_neg fun hc => hlow hc.2]
        rfl
    · rw [if_neg hname, if_neg fun hc => hname hc.1]
      rfl

end Lowered

/-! ## Trees atop of trees -/

/-- What a tree is while some attachments are open, given what it was before these. -/
structure Atop (t₀ t : LoggerTree) (hs : List Holder) : Prop where
  handlers : Staffed t₀ t hs
  passing : ∀ name, (t.logger name).passesOn = (t₀.logger name).passesOn
  /-- A logger that had no override, and has no open attachment, has none. -/
  free : ∀ name, t₀.overrides.get (canonical name) = none → on hs name = [] → t.overrides.get (canonical name) = none
  /-- An override remembers what it remembered before, and counts all its holders. -/
  held : ∀ name, t₀.overrides.get (canonical name) ≠ none ∨ on hs name ≠ [] → t.overrides.get (canonical name)
    = some ⟨(t₀.heldOverride name).saved, t.applied? name, (t₀.heldOverride name).holders + (on hs name).length⟩
  /-- The level from before is beneath a new override. -/
  beneath : ∀ name, t₀.overrides.get (canonical name) = none → t.beneath name = (t₀.logger name).level

/-- A tree is atop of itself. -/
theorem Atop.initial (t : LoggerTree) : Atop t t [] where
  handlers _ := (List.append_nil _).symm
  passing _ := rfl
  free _ hfree _ := hfree
  held name hheld := by
    obtain ⟨held, hget⟩ := Option.ne_none_iff_exists'.1 (hheld.resolve_right (not_not.2 rfl))
    rw [heldOverride, applied?, hget]
    rfl
  beneath _ hfree := beneath_of_free hfree

namespace Atop

variable {t₀ t : LoggerTree} {hs : List Holder} {x : Holder}

/-- The override that one more holder finds. -/
theorem heldOverride_eq (h : Atop t₀ t hs) (name : String) : t.heldOverride name
    = ⟨(t₀.heldOverride name).saved, t.applied? name, (t₀.heldOverride name).holders + (on hs name).length⟩ := by
  by_cases hheld : t₀.overrides.get (canonical name) ≠ none ∨ on hs name ≠ []
  · rw [heldOverride, h.held name hheld]
    rfl
  · rw [not_or, not_not, not_not] at hheld
    obtain ⟨hfree₀, hon⟩ := hheld
    have hfree := h.free name hfree₀ hon
    have hbeneath := h.beneath name hfree₀
    rw [beneath_of_free hfree] at hbeneath
    rw [saved_of_free hfree₀, heldOverride, heldOverride, applied?, hfree, hfree₀, hon, ← hbeneath]
    rfl

/-- **Attaching** puts one more attachment on top. -/
theorem attach (h : Atop t₀ t hs) (x : Holder) : Atop t₀ (t.attach x.request x.serial) (hs ++ [x]) where
  handlers := h.handlers.attach x.request x.serial
  passing name := by
    rw [logger_attach]
    split
    · exact h.passing name
    · exact h.passing name
  free name hfree hon := by
    rw [on_concat] at hon
    split at hon
    · simp at hon
    · next hname => rw [overrides_attach, overrides_lower, if_neg hname, h.free name hfree hon]
  held name hheld := by
    rw [applied?_attach, overrides_attach, overrides_lower, h.heldOverride_eq]
    rw [on_concat] at hheld ⊢
    by_cases hname : canonical name = canonical x.request.channel
    · rw [if_pos hname, if_pos hname, t₀.heldOverride_congr hname, on_congr hs hname, t.applied?_congr hname,
        List.length_append, List.length_singleton, Nat.add_assoc]
      simp only [hname, true_and]
    · rw [if_neg hname] at hheld ⊢
      rw [if_neg hname, if_neg fun hc => hname hc.1]
      exact h.held name hheld
  beneath name hfree := by
    rw [beneath_attach, h.heldOverride_eq, saved_of_free hfree, h.beneath name hfree, ite_self]

/-! ### Detaching -/

/-- The override that an attachment to be closed holds. -/
theorem held_of_mem (h : Atop t₀ t hs) (hx : x ∈ hs) : t.overrides.get (canonical x.request.channel)
    = some ⟨(t₀.heldOverride x.request.channel).saved, t.applied? x.request.channel,
      (t₀.heldOverride x.request.channel).holders + (on hs x.request.channel).length⟩ :=
  h.held _ (.inr (List.ne_nil_of_mem (List.mem_filter.2 ⟨hx, by simp⟩)))

section Detach

variable {first : Nat} (wellFormed : t₀.WellFormed first) (unique : (hs.map Holder.serial).Nodup) (hx : x ∈ hs)
include wellFormed unique hx

/-- An override that is to stay has another holder. -/
theorem many_holders {name : String} (hname : canonical name = canonical x.request.channel)
    (hheld : t₀.overrides.get (canonical name) ≠ none ∨ on (hs.filter (·.serial ≠ x.serial)) name ≠ []) :
    1 < (t₀.heldOverride x.request.channel).holders + (on hs x.request.channel).length := by
  have hlength := length_on_remove unique hx hname
  rw [on_congr hs hname] at hlength
  rcases hheld with hheld | hon
  · obtain ⟨held, hget⟩ := Option.ne_none_iff_exists'.1 hheld
    have hpos := wellFormed.holders name held hget
    have hholders : (t₀.heldOverride x.request.channel).holders = held.holders := by
      rw [← t₀.heldOverride_congr hname, heldOverride, hget]
      rfl
    omega
  · have hpos := List.length_pos_iff.2 hon
    omega

/-- **Detaching takes an attachment away.** -/
theorem detach (h : Atop t₀ t hs) (hfirst : first ≤ x.serial) :
    Atop t₀ (t.detach ⟨x.request.channel, x.serial⟩) (hs.filter (·.serial ≠ x.serial)) where
  handlers := h.handlers.detach unique hx (ne_serial_of_before wellFormed.serials hfirst)
  passing name := by
    rw [logger_detach (h.held_of_mem hx)]
    split
    · exact h.passing name
    · exact h.passing name
  free name hfree hon := by
    rw [overrides_detach (h.held_of_mem hx)]
    by_cases hname : canonical name = canonical x.request.channel
    · have hlength := length_on_remove unique hx hname
      have hnone : (t₀.heldOverride x.request.channel).holders = 0 := by
        rw [← t₀.heldOverride_congr hname, heldOverride, hfree]
        rfl
      rw [hon, List.length_nil, on_congr hs hname] at hlength
      rw [if_pos hname, if_neg (by simp only; omega)]
    · rw [on_remove_of_ne unique hx hname] at hon
      rw [if_neg hname]
      exact h.free name hfree hon
  held name hheld := by
    rw [applied?_detach (h.held_of_mem hx), overrides_detach (h.held_of_mem hx)]
    by_cases hname : canonical name = canonical x.request.channel
    · have hmany := many_holders wellFormed unique hx hname hheld
      have hlength := length_on_remove unique hx hname
      rw [on_congr hs hname] at hlength
      rw [if_pos hname, if_pos hmany, if_neg fun hc => absurd hc.2 (Nat.not_le.2 hmany), t₀.heldOverride_congr hname,
        t.applied?_congr hname]
      simp only [Option.some.injEq, Override.mk.injEq, true_and]
      omega
    · rw [on_remove_of_ne unique hx hname] at hheld ⊢
      rw [if_neg hname, if_neg fun hc => hname hc.1]
      exact h.held name hheld
  beneath name hfree := by
    rw [beneath_detach (h.held_of_mem hx)]
    exact h.beneath name hfree

/-- **Detaching leaves a logger lowered** that had an override before. -/
theorem lowered_detach (h : Atop t₀ t hs) {name : String} (hheld : t₀.overrides.get (canonical name) ≠ none) :
    Lowered t (t.detach ⟨x.request.channel, x.serial⟩) name none := by
  have hlast : ¬(canonical name = canonical x.request.channel ∧
      (t₀.heldOverride x.request.channel).holders + (on hs x.request.channel).length ≤ 1) := fun hc =>
    absurd hc.2 (Nat.not_le.2 (many_holders wellFormed unique hx hc.1 (.inl hheld)))
  constructor
  · rw [applied?_detach (h.held_of_mem hx), if_neg hlast]
    rfl
  · rw [logger_detach (h.held_of_mem hx)]
    split
    · next hname => exact if_neg fun hc => hlast ⟨hname, hc.1⟩
    · rfl

end Detach

/-- What a tree is when all attachments are closed: levels may be lower, and overrides with them. -/
theorem logger_eq (h : Atop t₀ t []) {name : String} {level : Int} (hlevel : (t.logger name).level = level) :
    t.logger name = { t₀.logger name with level } := by
  have hhandlers : (t.logger name).handlers = (t₀.logger name).handlers :=
    (h.handlers name).trans (List.append_nil _)
  have hpassing := h.passing name
  cases hlogger : t.logger name with
  | mk found passesOn handlers =>
    rw [hlogger] at hhandlers hpassing hlevel
    subst hhandlers hpassing hlevel
    rfl

end Atop

/-- Attachments come and go atop of a well-formed tree. -/
theorem kept_atop {t₀ : LoggerTree} {first : Nat} (wellFormed : t₀.WellFormed first) : Kept first (Atop t₀) where
  attach x h := h.attach x
  detach unique hx hfirst h := h.detach wellFormed unique hx hfirst

end LoggerTree

end LogAssay
