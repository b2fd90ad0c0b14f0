import LogAssay.Matcher

/-!
# Narrowing relative matchers

A relative matcher cuts a view at the first occurrence of its target. Narrowing wraps it once more: each relation is
asked of what the relations before it left, always with the same target. So the cut is made in the view as it was
given, however often the matcher is narrowed; the order of the relations plays no part and none counts twice. Matchers
of their own for the same relations, behind the matcher without narrowing, leave the same entries.

## Main statements

* `exists_isCut`, `cutAt?_eq_some_iff`: a view that holds the target is cut, and at the first occurrence.
* `apply_relative` (beside the definition): narrowing step by step keeps what stands in all of the relations.
* `relative_narrows`: when a relative matcher fails, what it keeps, and what the order of the steps has to do with it.
-/

namespace LogAssay

variable {target found : Entry} {entries earlier later : List Entry}

/-! ## The cut -/

/-- A view cut at the first occurrence of a target. -/
structure IsCut (target : Entry) (entries earlier : List Entry) (found : Entry) (later : List Entry) : Prop where
  same : found.same target = true
  joined : earlier ++ [found] ++ later = entries
  first : ∀ e ∈ earlier, e.same target = false

/-- **A view that holds the target is cut there.** -/
theorem exists_isCut : ∀ {entries : List Entry}, (∃ e ∈ entries, e.same target = true) →
    ∃ earlier found later, IsCut target entries earlier found later
  | [], h => by
    obtain ⟨e, he, -⟩ := h
    exact absurd he List.not_mem_nil
  | e :: entries, h => by
    cases he : e.same target with
    | true => exact ⟨[], e, entries, he, rfl, fun _ hmem => absurd hmem List.not_mem_nil⟩
    | false =>
      have hrest : ∃ x ∈ entries, x.same target = true := by
        obtain ⟨x, hx, hsame⟩ := h
        rcases List.mem_cons.1 hx with rfl | hx
        · rw [he] at hsame
          cases hsame
        · exact ⟨x, hx, hsame⟩
      obtain ⟨earlier, found, later, hcut⟩ := exists_isCut hrest
      refine ⟨e :: earlier, found, later, hcut.same, ?_, fun x hx => ?_⟩
      · rw [← hcut.joined, List.cons_append, List.cons_append]
      · rcases List.mem_cons.1 hx with rfl | hx
        · exact he
        · exact hcut.first x hx

theorem IsCut.cutAt?_eq (h : IsCut target entries earlier found later) :
    cutAt? target entries = some (earlier, later) := by
  obtain ⟨hsame, rfl, hfirst⟩ := h
  induction earlier with
  | nil => exact if_pos hsame
  | cons e earlier ih =>
    have he : ¬e.same target = true := by rw [hfirst e List.mem_cons_self]; exact Bool.false_ne_true
    rw [List.cons_append, List.cons_append, cutAt?, if_neg he, ih fun x hx => hfirst x (List.mem_cons_of_mem e hx)]
    rfl

theorem cutAt?_of_absent : ∀ {entries : List Entry}, (∀ e ∈ entries, e.same target = false) →
    cutAt? target entries = none
  | [], _ => rfl
  | e :: entries, h => by
    have he : ¬e.same target = true := by rw [h e List.mem_cons_self]; exact Bool.false_ne_true
    rw [cutAt?, if_neg he, cutAt?_of_absent fun x hx => h x (List.mem_cons_of_mem e hx)]
    rfl

theorem cutAt?_eq_some_iff : cutAt? target entries = some (earlier, later) ↔
    ∃ found, IsCut target entries earlier found later := by
  refine ⟨fun h => ?_, fun ⟨_, hcut⟩ => hcut.cutAt?_eq⟩
  by_cases hpresent : ∃ e ∈ entries, e.same target = true
  · obtain ⟨_, found, _, hcut⟩ := exists_isCut hpresent
    rw [hcut.cutAt?_eq] at h
    cases h
    exact ⟨found, hcut⟩
  · rw [cutAt?_of_absent (by simpa using hpresent)] at h
    cases h

/-- An entry that occurs once is the one that a view is cut at. -/
theorem IsCut.found_eq (h : IsCut target entries earlier found later)
    (once : entries.filter (·.same target) = [target]) : found = target := by
  have hfound : found ∈ entries.filter (·.same target) := by
    rw [← h.joined, List.mem_filter]
    exact ⟨by simp, h.same⟩
  rw [once] at hfound
  exact List.mem_singleton.1 hfound

/-- The part of a view on one side of a cut. -/
def Side.part (side : Side) (earlier later : List Entry) : List Entry :=
  match side with
  | .before => earlier
  | .after => later

namespace Matcher

theorem cut_of_isCut (h : IsCut target entries earlier found later) (side : Side) :
    cut side target entries = .ok (side.part earlier later) := by
  rw [cut, h.cutAt?_eq]
  cases side <;> rfl

theorem cut_of_absent (h : ∀ e ∈ entries, e.same target = false) (side : Side) :
    cut side target entries = .error (.notInView target.shown) := by
  rw [cut, cutAt?_of_absent h]

/-! ## Narrowing -/

/-- Matchers of their own, one after the other, keep what stands in all of the relations. -/
theorem applyAll_related (target : Entry) : ∀ (relations : List Relation) (entries : List Entry),
    applyAll (relations.map (related · target)) entries = .ok (entries.filter fun e =>
      relations.all fun relation => relation.holds e.toRecord target.toRecord)
  | [], entries => congrArg Except.ok (List.filter_eq_self.2 fun _ _ => rfl).symm
  | relation :: others, entries => by
    show applyAll (others.map (related · target)) (entries.filter _) = _
    rw [applyAll_related target others, List.filter_filter]
    simp only [List.all_cons, Bool.and_comm]

/-- Whether a test holds of all depends on nothing but what they are. -/
theorem all_congr_mem {steps steps' : List Relation} (h : ∀ relation, relation ∈ steps ↔ relation ∈ steps')
    (test : Relation → Bool) : steps.all test = steps'.all test := by
  rw [Bool.eq_iff_iff, List.all_eq_true, List.all_eq_true]
  exact forall_congr' fun relation => imp_congr (h relation) Iff.rfl

/-- **Narrowing in any order, as often as one likes**, is what the matchers of their own do behind the cut. -/
theorem apply_relative_eq_applyAll {steps steps' : List Relation}
    (h : ∀ relation, relation ∈ steps ↔ relation ∈ steps') (side : Side) (target : Entry) (entries : List Entry) :
    (relative side target steps).apply entries
      = applyAll (relative side target [] :: steps'.map (related · target)) entries := by
  show _ = cut side target entries >>= applyAll (steps'.map (related · target))
  rw [apply_relative]
  cases cut side target entries with
  | error fault => rfl
  | ok kept =>
    show _ = applyAll (steps'.map (related · target)) kept
    rw [applyAll_related]
    simp only [Except.map, all_congr_mem h]

theorem apply_of_absent (h : ∀ e ∈ entries, e.same target = false) (side : Side) (steps : List Relation) :
    (relative side target steps).apply entries = .error (.notInView target.shown) := by
  rw [apply_relative, cut_of_absent h]
  rfl

theorem apply_of_isCut (h : IsCut target entries earlier found later) (side : Side) (steps : List Relation) :
    (relative side target steps).apply entries = .ok ((side.part earlier later).filter fun e =>
      ∀ relation ∈ steps, relation.holds e.toRecord target.toRecord = true) := by
  rw [apply_relative, cut_of_isCut h]
  simp only [Except.map, List.all_eq]

/-- **Relative matchers part a view and are narrowed step by step.** They fail exactly if the target is not in the
view, and tell it. Else the view is what is kept before the target, the target, and what is kept after it, and
narrowing keeps, in order, the entries that stand in the relation of every step to the target. So steps may be swapped
and repeated, and matchers of their own may take their place. -/
theorem relative_narrows (target : Entry) (entries : List Entry) :
    (∀ side steps fault, (relative side target steps).apply entries = .error fault ↔
      (∀ e ∈ entries, e.same target = false) ∧ fault = .notInView target.shown ∧ fault.kind = .value) ∧
    ((∃ e ∈ entries, e.same target = true) → ∃ earlier found later, IsCut target entries earlier found later ∧
      (entries.filter (·.same target) = [target] → earlier ++ [target] ++ later = entries) ∧
      (∀ side, (relative side target []).apply entries = .ok (side.part earlier later)) ∧
      ∀ side steps, (relative side target steps).apply entries = .ok ((side.part earlier later).filter fun e =>
        ∀ relation ∈ steps, relation.holds e.toRecord target.toRecord = true)) ∧
    ∀ side steps steps', (∀ relation, relation ∈ steps ↔ relation ∈ steps') →
      (relative side target steps).apply entries = (relative side target steps').apply entries ∧
      (relative side target steps).apply entries
        = applyAll (relative side target [] :: steps'.map (related · target)) entries := by
  refine ⟨fun side steps fault => ⟨fun h => ?_, ?_⟩, fun h => ?_, fun side steps steps' h => ⟨?_, ?_⟩⟩
  · by_cases hpresent : ∃ e ∈ entries, e.same target = true
    · obtain ⟨earlier, found, later, hcut⟩ := exists_isCut hpresent
      rw [apply_of_isCut hcut] at h
      cases h
    · have habsent : ∀ e ∈ entries, e.same target = false := by simpa using hpresent
      rw [apply_of_absent habsent] at h
      cases h
      exact ⟨habsent, rfl, rfl⟩
  · rintro ⟨habsent, rfl, -⟩
    exact apply_of_absent habsent side steps
  · obtain ⟨earlier, found, later, hcut⟩ := exists_isCut h
    refine ⟨earlier, found, later, hcut, fun once => ?_, cut_of_isCut hcut, apply_of_isCut hcut⟩
    rw [← hcut.found_eq once]
    exact hcut.joined
  · rw [apply_relative_eq_applyAll h, apply_relative_eq_applyAll fun _ => Iff.rfl]
  · exact apply_relative_eq_applyAll h side target entries

/-! A function is left for another one and run again in another thread, and its first event is kept twice. -/

def visit (serial : Nat) (thread : Int) (methodName : String) : Entry where
  className := "app:Job"
  methodName := methodName
  levelName := "INFO"
  severity := .info
  timestamp := { micros := 0 }
  thread := .scalar (.int thread)
  message := "step"
  serial := serial

def visits : List Entry :=
  [visit 0 1 "run", visit 1 1 "run", visit 2 1 "stop", visit 1 1 "run", visit 3 2 "run", visit 4 1 "run"]

theorem relative_narrows_visits :
    (∃ e ∈ visits, e.same (visit 1 1 "run") = true) ∧
    (∀ relation, relation ∈ [.sameThread, .sameMethod, .sameThread] ↔ relation ∈ [Relation.sameMethod, .sameThread]) ∧
    (∃ earlier found later, IsCut (visit 1 1 "run") visits earlier found later) ∧
    (relative .after (visit 1 1 "run") [.sameThread, .sameMethod, .sameThread]).apply visits
      = .ok [visit 1 1 "run", visit 4 1 "run"] ∧
    applyAll [relative .after (visit 1 1 "run") [], related .sameMethod (visit 1 1 "run"),
      related .sameThread (visit 1 1 "run")] visits = .ok [visit 1 1 "run", visit 4 1 "run"] := by
  have hpresent : ∃ e ∈ visits, e.same (visit 1 1 "run") = true := ⟨visit 1 1 "run", by simp [visits], rfl⟩
  have hsteps : ∀ relation, relation ∈ [.sameThread, .sameMethod, .sameThread] ↔
      relation ∈ [Relation.sameMethod, .sameThread] := fun relation => by cases relation <;> decide
  have hkept : (relative .after (visit 1 1 "run") [.sameThread, .sameMethod, .sameThread]).apply visits
      = .ok [visit 1 1 "run", visit 4 1 "run"] := by cbv
  obtain ⟨-, hcut, hswap⟩ := relative_narrows (visit 1 1 "run") visits
  obtain ⟨earlier, found, later, hcut, -⟩ := hcut hpresent
  exact ⟨hpresent, hsteps, ⟨earlier, found, later, hcut⟩, hkept, (hswap .after _ _ hsteps).2.symm.trans hkept⟩

end Matcher

end LogAssay
