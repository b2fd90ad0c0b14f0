import LogAssay.Dispatch.Hub

/-!
# Levels of a hub

Attaching a channel lowers the level of its logger if it is higher than what is asked for, and detaching puts back what
was found, each without regard to other attachments. So the open ones on a logger form a stack of levels (`Stacked`):
the first one found the level from before, and each that lowered the level found what the last one before it had set.

## Main statements

* `result_attach`, `result_detach`: what attaching and detaching do to the levels of a hub that refuses nothing.
* `Stacked.not_lowers`: the level on top of a stack is low enough for everyone on it.
* `Stacked.push`, `Stacked.remove`: attaching puts one more on top; one that lowered the level can be taken out if
  nobody above it asks for less than the level that it puts back.
-/

namespace LogAssay.Dispatch

theorem placeOf_levelName (s : Severity) : Hub.placeOf (.text (levelName s)) = some s.rank := by
  cases s <;> decide

namespace Hub

theorem lowers_eq_false_iff {level : Value} {s : Severity} :
    lowers level s = false ↔ ∃ place, placeOf level = some place ∧ place ≤ s.rank := by
  unfold lowers
  cases placeOf level with
  | none => simp
  | some place => simp

theorem rank_lt_of_lowers {level : Value} {s : Severity} (h : lowers level s = true) {place : Nat}
    (hplace : placeOf level = some place) : s.rank < place := by
  unfold lowers at h
  rw [hplace] at h
  exact of_decide_eq_true h

/-! ## What calls do to levels -/

/-- The level of a logger. -/
def level (hub : Hub) (name : String) : Value := (hub.loggers.get name).level

/-- No call is refused. -/
def IsWilling (hub : Hub) : Prop := ∀ c, hub.refusal c = none

/-- A hub after a call that was not refused and leaves the level of each logger as it is. -/
structure Alike (hub hub' : Hub) : Prop where
  refusal : hub'.refusal = hub.refusal
  level : ∀ name, hub'.level name = hub.level name

variable {hub : Hub}

theorem IsWilling.congr (h : hub.IsWilling) {hub' : Hub} (hrefusal : hub'.refusal = hub.refusal) : hub'.IsWilling := by
  intro c
  rw [hrefusal]
  exact h c

theorem result_call (h : hub.IsWilling) (c : Call) (change : Hub → Hub) :
    (call c change).result hub = (.ok (), change hub) := by
  unfold call
  rw [Act.result_bind_ok (Act.result_get hub), h c]
  rfl

theorem level_modify (hub : Hub) (name : String) (f : Logger → Logger) (other : String) :
    Hub.level { hub with loggers := hub.loggers.modify name f } other
      = if other = name then (f (hub.loggers.get name)).level else hub.level other := by
  unfold level Directory.modify
  rw [Directory.get_put]
  split <;> rfl

theorem alike_modify (hub : Hub) (name : String) {f : Logger → Logger} (hf : ∀ l, (f l).level = l.level) :
    Alike hub { hub with loggers := hub.loggers.modify name f } where
  refusal := rfl
  level := by
    intro other
    rw [level_modify]
    split
    · next h => rw [hf, h]; rfl
    · rfl

theorem result_getLogger (h : hub.IsWilling) (name : String) : ∃ hub',
    (getLogger name).result hub = (.ok (hub'.loggers.get name), hub') ∧ Alike hub hub' := by
  refine ⟨_, ?_, alike_modify hub name (f := id) fun _ => rfl⟩
  unfold getLogger
  rw [Act.result_bind_ok (result_call h _ _)]
  rfl

theorem result_setLevel (h : hub.IsWilling) (name : String) (level : Value) : ∃ hub',
    (setLevel name level).result hub = (.ok (), hub') ∧ hub'.refusal = hub.refusal ∧
      ∀ other, hub'.level other = if other = name then level else hub.level other :=
  ⟨_, result_call h _ _, rfl, level_modify hub name _⟩

theorem result_addHandler (h : hub.IsWilling) (name : String) (handler : Handler) : ∃ hub',
    (addHandler name handler).result hub = (.ok (), hub') ∧ Alike hub hub' :=
  ⟨_, result_call h _ _, alike_modify hub name fun _ => rfl⟩

theorem result_removeHandler (h : hub.IsWilling) (name : String) (serial : Nat) : ∃ hub',
    (removeHandler name serial).result hub = (.ok (), hub') ∧ Alike hub hub' :=
  ⟨_, result_call h _ _, alike_modify hub name fun _ => rfl⟩

/-- What a recorder will put back: the level it found, if it lowered it. -/
def found (level : Value) (asked : Severity) : Option String :=
  if lowers level asked then levelText level else none

/-- The level of a logger with a recorder attached to it. -/
def lowered (level : Value) (asked : Severity) : Value :=
  if lowers level asked then .text (levelName asked) else level

/-- **Attaching a channel** lowers the level of its logger if it is too high, and remembers it then. -/
theorem result_attach (h : hub.IsWilling) (request : Request) (serial : Nat) : ∃ hub',
    (attach request serial).result hub
        = (.ok ⟨request.channel, serial, found (hub.level request.channel) request.severity⟩, hub') ∧
      hub'.refusal = hub.refusal ∧ ∀ name, hub'.level name
        = if name = request.channel then lowered (hub.level name) request.severity else hub.level name := by
  obtain ⟨hub₁, hget, hsame₁⟩ := result_getLogger h request.channel
  have h₁ := h.congr hsame₁.refusal
  have hlevel : (hub₁.loggers.get request.channel).level = hub.level request.channel := hsame₁.level _
  unfold attach
  rw [Act.result_bind_ok hget, hlevel]
  unfold found lowered
  cases hlowers : lowers (hub.level request.channel) request.severity with
  | true =>
    obtain ⟨hub₂, hset, hrefusal, hlevels⟩ :=
      result_setLevel h₁ request.channel (.text (levelName request.severity))
    obtain ⟨hub₃, hadd, hsame₃⟩ := result_addHandler (h₁.congr hrefusal) request.channel
      ⟨⟨request.severity, request.testId⟩, serial, request.collector⟩
    refine ⟨hub₃, ?_, by rw [hsame₃.refusal, hrefusal, hsame₁.refusal], ?_⟩
    · simp only [hlowers, if_true]
      rw [Act.result_bind_ok hset, Act.result_bind_ok hadd]
      rfl
    · intro name
      rw [hsame₃.level, hlevels, hsame₁.level]
      split
      · next hname => rw [hname, hlowers]; rfl
      · rfl
  | false =>
    obtain ⟨hub₃, hadd, hsame₃⟩ := result_addHandler h₁ request.channel
      ⟨⟨request.severity, request.testId⟩, serial, request.collector⟩
    refine ⟨hub₃, ?_, by rw [hsame₃.refusal, hsame₁.refusal], ?_⟩
    · simp only [hlowers, Bool.false_eq_true, if_false]
      rw [Act.result_bind_ok hadd]
      rfl
    · intro name
      rw [hsame₃.level, hsame₁.level]
      split
      · next hname => rw [hname, hlowers]; rfl
      · rfl

/-- **Detaching a channel** puts the level back that was remembered. -/
theorem result_detach (h : hub.IsWilling) (d : Detachment) : ∃ hub',
    (detach d).result hub = (.ok (), hub') ∧ hub'.refusal = hub.refusal ∧ ∀ name, hub'.level name
      = if name = d.name then d.restored.elim (hub.level name) .text else hub.level name := by
  obtain ⟨hub₁, hremove, hsame₁⟩ := result_removeHandler h d.name d.serial
  unfold detach
  rw [Act.result_bind_ok hremove]
  cases hd : d.restored with
  | none =>
    refine ⟨hub₁, rfl, hsame₁.refusal, ?_⟩
    intro name
    rw [hsame₁.level, Option.elim_none, ite_self]
  | some level =>
    obtain ⟨hub₂, hset, hrefusal, hlevels⟩ := result_setLevel (h.congr hsame₁.refusal) d.name (.text level)
    refine ⟨hub₂, hset, by rw [hrefusal, hsame₁.refusal], ?_⟩
    intro name
    rw [hlevels, hsame₁.level, Option.elim_some]

end Hub

/-! ## Stacks of levels -/

/-- What an open recorder asked for, and the level that it puts back, if it lowered one. -/
structure Hold where
  asked : Severity
  found : Option String

/-- From the level of a logger without recorders to the level with the open ones, in the order of their making. -/
inductive Stacked : String → List Hold → String → Prop where
  | nil (level : String) : Stacked level [] level
  /-- The level that a recorder found was low enough. -/
  | kept {bottom top : String} {asked : Severity} {hs : List Hold} (h : Hub.lowers (.text bottom) asked = false)
    (above : Stacked bottom hs top) : Stacked bottom (⟨asked, none⟩ :: hs) top
  | lowered {bottom top : String} {asked : Severity} {hs : List Hold} (h : Hub.lowers (.text bottom) asked = true)
    (above : Stacked (levelName asked) hs top) : Stacked bottom (⟨asked, some bottom⟩ :: hs) top

namespace Stacked

variable {bottom top : String} {hs before later : List Hold}

/-- The level never rises along a stack. -/
theorem place_le (h : Stacked bottom hs top) : ∀ {place : Nat}, Hub.placeOf (.text bottom) = some place →
    ∃ place', Hub.placeOf (.text top) = some place' ∧ place' ≤ place := by
  induction h with
  | nil level => exact fun hplace => ⟨_, hplace, Nat.le_refl _⟩
  | kept _ _ ih => exact ih
  | @lowered bottom top asked hs hlowers _ ih =>
    intro place hplace
    obtain ⟨place', htop, hle⟩ := ih (placeOf_levelName asked)
    exact ⟨place', htop, Nat.le_trans hle (Nat.le_of_lt (Hub.rank_lt_of_lowers hlowers hplace))⟩

/-- **The level is low enough for everyone on the stack.** -/
theorem not_lowers (h : Stacked bottom hs top) : ∀ x ∈ hs, Hub.lowers (.text top) x.asked = false := by
  induction h with
  | nil => simp
  | @kept bottom top asked hs hkept above ih =>
    obtain ⟨place, hplace, hle⟩ := Hub.lowers_eq_false_iff.1 hkept
    obtain ⟨place', htop, hle'⟩ := above.place_le hplace
    exact List.forall_mem_cons.2 ⟨Hub.lowers_eq_false_iff.2 ⟨place', htop, Nat.le_trans hle' hle⟩, ih⟩
  | @lowered bottom top asked hs _ above ih =>
    obtain ⟨place', htop, hle'⟩ := above.place_le (placeOf_levelName asked)
    exact List.forall_mem_cons.2 ⟨Hub.lowers_eq_false_iff.2 ⟨place', htop, hle'⟩, ih⟩

/-- One more recorder on top. -/
theorem push (h : Stacked bottom hs top) (asked : Severity) : ∃ top',
    Hub.lowered (.text top) asked = .text top' ∧
      Stacked bottom (hs ++ [⟨asked, Hub.found (.text top) asked⟩]) top' := by
  induction h with
  | nil level =>
    unfold Hub.lowered Hub.found
    cases hlowers : Hub.lowers (.text level) asked with
    | true => exact ⟨levelName asked, rfl, .lowered hlowers (.nil _)⟩
    | false => exact ⟨level, rfl, .kept hlowers (.nil _)⟩
  | kept hkept _ ih =>
    obtain ⟨top', hlowered, hstacked⟩ := ih
    exact ⟨top', hlowered, .kept hkept hstacked⟩
  | lowered hlowers _ ih =>
    obtain ⟨top', hlowered, hstacked⟩ := ih
    exact ⟨top', hlowered, .lowered hlowers hstacked⟩

/-- Recorders above a level that ask for no less than a higher one have lowered nothing, and would not have lowered
the higher one either. -/
theorem raise (h : Stacked bottom hs top) {level : String} {place : Nat}
    (hplace : Hub.placeOf (.text bottom) = some place)
    (hhigher : ∀ place', Hub.placeOf (.text level) = some place' → place ≤ place')
    (hasked : ∀ x ∈ hs, Hub.lowers (.text level) x.asked = false) : Stacked level hs level := by
  induction h with
  | nil => exact .nil level
  | kept _ _ ih =>
    rw [List.forall_mem_cons] at hasked
    exact .kept hasked.1 (ih hplace hasked.2)
  | @lowered bottom top asked hs hlowers _ _ =>
    rw [List.forall_mem_cons] at hasked
    obtain ⟨place', hlevel, hle⟩ := Hub.lowers_eq_false_iff.1 hasked.1
    have hlt : asked.rank < place := Hub.rank_lt_of_lowers hlowers hplace
    have hle' : place' ≤ asked.rank := hle
    have hhigher' := hhigher place' hlevel
    omega

/-- **One recorder less.** If it lowered the level, nobody above it must ask for less than the level to be put back. -/
theorem remove {x : Hold} (hasked : ∀ level, x.found = some level → ∀ y ∈ later,
      Hub.lowers (.text level) y.asked = false) :
    ∀ {before : List Hold} {bottom : String}, Stacked bottom (before ++ x :: later) top →
      Stacked bottom (before ++ later) (x.found.getD top)
  | [], bottom, h => by
    cases h with
    | kept _ above => exact above
    | lowered hlowers above =>
      exact above.raise (placeOf_levelName _) (fun _ hplace => Nat.le_of_lt (Hub.rank_lt_of_lowers hlowers hplace))
        (hasked bottom rfl)
  | y :: before, bottom, h => by
    cases h with
    | kept hkept above => exact .kept hkept (remove hasked above)
    | lowered hlowers above => exact .lowered hlowers (remove hasked above)

end Stacked

end LogAssay.Dispatch
