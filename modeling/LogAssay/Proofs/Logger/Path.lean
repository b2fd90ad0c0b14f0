import LogAssay.Logger.Tree

/-!
# Paths in the logger tree

The loggers from one logger out to the root are a path, and what lies beyond a logger on a path is its own way
out. So the level in force for a logger can be taken over from any logger that it inherits from.

## Main statements

* `isPath_outward`: the way out of a logger is a path.
* `effectiveLevel_le`: if every level is what it was, or has been lowered below what was in force for its
  logger, then no level in force has been raised.
-/

namespace LogAssay

namespace Logger

theorem canonical_canonical (name : String) : canonical (canonical name) = canonical name := by
  by_cases h : name = "" <;> simp [canonical, h, rootName]

theorem outward_canonical (name : String) : outward (canonical name) = outward name := by
  unfold outward
  rw [canonical_canonical]
  split
  · rfl
  · next h =>
    have hname : name ≠ "" := fun hempty => h (by simp [canonical, hempty])
    rw [canonical, if_neg hname]

/-! ## Loggers around a logger -/

/-- A list of loggers in which each logger stands in front of its own way out. -/
inductive IsPath : List String → Prop where
  | nil : IsPath []
  | cons {name : String} {rest : List String} (h : outward name = name :: rest) (hrest : IsPath rest) :
    IsPath (name :: rest)

theorem outward_of_ne {name : String} (h : canonical name ≠ rootName) :
    outward name = name :: (enclosing name ++ [rootName]) := by
  rw [outward, if_neg h]
  rfl

theorem outward_root : outward rootName = [rootName] := rfl

/-- The loggers around a name, given in reverse, are a path. -/
theorem isPath_enclosing : ∀ s : List Char,
    IsPath (((enclosingReversed s).map String.ofList).filter (· ≠ rootName) ++ [rootName])
  | [] => .cons outward_root .nil
  | c :: s => by
    rw [enclosingReversed]
    split
    · next h =>
      rw [List.map_cons]
      by_cases hroot : String.ofList s.reverse = rootName
      · rw [List.filter_cons_of_neg (by simp [hroot])]
        exact isPath_enclosing s
      · rw [List.filter_cons_of_pos (by simp [hroot])]
        have hne : String.ofList s.reverse ≠ "" := by
          intro hempty
          have := congrArg String.toList hempty
          rw [String.toList_ofList] at this
          exact h.2 (List.reverse_eq_nil_iff.1 this)
        have hcanonical : canonical (String.ofList s.reverse) ≠ rootName := by
          rwa [canonical, if_neg hne]
        refine .cons ?_ (isPath_enclosing s)
        rw [outward_of_ne hcanonical, enclosing, String.toList_ofList, List.reverse_reverse]
        rfl
    · exact isPath_enclosing s

/-- **The way out of a logger is a path.** -/
theorem isPath_outward (name : String) : IsPath (outward name) := by
  by_cases h : canonical name = rootName
  · rw [outward, if_pos h]
    exact .cons outward_root .nil
  · rw [outward_of_ne h]
    exact .cons (outward_of_ne h) (isPath_enclosing _)

/-- What stands on a path stands there under the name that it is kept under. -/
theorem IsPath.canonical_eq : ∀ {path : List String}, IsPath path → ∀ m ∈ path, canonical m = m
  | _, .cons h hrest, m, hm => by
    rcases List.mem_cons.1 hm with rfl | hm
    · obtain ⟨others, hothers⟩ := outward_eq_cons m
      exact (List.cons.inj (hothers.symm.trans h)).1
    · exact hrest.canonical_eq m hm

theorem length_lt_of_mem_enclosingReversed : ∀ {s m : List Char}, m ∈ enclosingReversed s →
    m.length < s.length
  | c :: s, m, h => by
    rw [enclosingReversed] at h
    rw [List.length_cons]
    split at h
    · rcases List.mem_cons.1 h with rfl | h
      · rw [List.length_reverse]
        omega
      · have := length_lt_of_mem_enclosingReversed h
        omega
    · have := length_lt_of_mem_enclosingReversed h
      omega

/-- A logger is not met again on its way out. -/
theorem notMem_of_outward {name : String} {rest : List String}
    (h : outward name = canonical name :: rest) : canonical name ∉ rest := by
  by_cases hroot : canonical name = rootName
  · rw [outward, if_pos hroot] at h
    rw [← (List.cons.inj h).2]
    simp
  · have hname : name ≠ "" := fun hempty => hroot (by simp [canonical, hempty])
    have hself : canonical name = name := by rw [canonical, if_neg hname]
    rw [outward_of_ne hroot] at h
    rw [hself] at hroot ⊢
    rw [← (List.cons.inj h).2]
    intro hmem
    rcases List.mem_append.1 hmem with hmem | hmem
    · obtain ⟨w, hw, heq⟩ := List.mem_map.1 (List.mem_filter.1 hmem).1
      have hlength := length_lt_of_mem_enclosingReversed hw
      rw [← heq, String.toList_ofList, List.length_reverse] at hlength
      omega
    · exact hroot (List.mem_singleton.1 hmem)

end Logger

namespace LoggerTree

open Logger

theorem logger_canonical (t : LoggerTree) (name : String) : t.logger (canonical name) = t.logger name := by
  rw [logger, canonical_canonical, logger]

/-! ## Levels in force -/

theorem effectiveLevel_canonical (t : LoggerTree) (name : String) :
    t.effectiveLevel (canonical name) = t.effectiveLevel name := by
  rw [effectiveLevel, outward_canonical, effectiveLevel]

/-- The level of a logger is in force for it, if it has one. -/
theorem effectiveLevel_of_ne_zero {t : LoggerTree} {name : String} (h : (t.logger name).level ≠ 0) :
    t.effectiveLevel name = (t.logger name).level := by
  obtain ⟨others, hothers⟩ := outward_eq_cons name
  rw [effectiveLevel, hothers, firstLevel, logger_canonical, if_neg h]

theorem firstLevel_congr {t t' : LoggerTree} : ∀ {path : List String},
    (∀ m ∈ path, (t.logger m).level = (t'.logger m).level) → t.firstLevel path = t'.firstLevel path
  | [], _ => rfl
  | m :: path, h => by
    rw [firstLevel, firstLevel, h m (by simp), firstLevel_congr fun x hx => h x (by simp [hx])]

/-- **Lowering levels lowers levels in force.** -/
theorem effectiveLevel_le {t t' : LoggerTree}
    (h : ∀ m, (t'.logger m).level = (t.logger m).level ∨
      (t'.logger m).level ≠ 0 ∧ (t'.logger m).level ≤ t.effectiveLevel m) (name : String) :
    t'.effectiveLevel name ≤ t.effectiveLevel name := by
  have along : ∀ path, IsPath path → t'.firstLevel path ≤ t.firstLevel path := by
    intro path hpath
    induction hpath with
    | nil => exact Int.le_refl _
    | @cons m rest hm _ ih =>
      rw [firstLevel, firstLevel]
      rcases h m with hsame | ⟨hne, hle⟩
      · rw [hsame]
        split
        · exact ih
        · exact Int.le_refl _
      · rw [if_neg hne]
        rw [effectiveLevel, hm, firstLevel] at hle
        exact hle
  exact along _ (isPath_outward name)

/-! ## Events on a logger -/

theorem isOpen_iff {t : LoggerTree} {name : String} {level : Int} :
    t.isOpen name level = true ↔ 0 < level ∧ t.effectiveLevel name ≤ level := by
  rw [isOpen, Bool.and_eq_true, decide_eq_true_eq, decide_eq_true_eq]

/-- A handler of a logger takes the events on it that reach its threshold. -/
theorem mem_takers_self {t : LoggerTree} {name : String} {h : Handler} (hmem : h ∈ (t.logger name).handlers)
    {level : Int} (hlevel : h.threshold ≤ level) : h ∈ t.takers name level := by
  obtain ⟨others, hothers⟩ := outward_eq_cons name
  rw [takers, hothers, handlersFrom, logger_canonical]
  exact List.mem_filter.2 ⟨List.mem_append_left _ hmem, decide_eq_true hlevel⟩

end LoggerTree

end LogAssay
