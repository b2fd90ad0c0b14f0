import LogAssay.Proofs.Query.Chains

/-!
# Ordering by time

Ordering by time moves no entry past another one of the same moment. So an ordered view is told by what it holds of
each moment: within a moment nothing has moved, and the moments follow one another. As a filter takes from each moment
what it takes from it in any view, it does not matter whether a view is filtered or ordered first, however many
entries share their times.

## Main statements

* `inMoment_orderedByTime`: ordering leaves every moment as it was.
* `IsOrdered.eq_of_inMoment`: an ordered view is told by its moments.
* `filter_orderedByTime`: a filter and ordering may be swapped.
* `ordered_by_time_stable`: ordering as a step of a query and as a matcher.
-/

namespace LogAssay

/-! ## Moments -/

/-- A view in the order of time. -/
def IsOrdered (entries : List Entry) : Prop := entries.Pairwise fun a b => a.timestamp.micros ≤ b.timestamp.micros

/-- What a view holds of a moment, in its order. -/
def inMoment (t : Timestamp) (entries : List Entry) : List Entry := entries.filter fun e => e.timestamp = t

theorem Entry.notLater_trans (a b c : Entry) (hab : a.notLater b = true) (hbc : b.notLater c = true) :
    a.notLater c = true :=
  decide_eq_true (Int.le_trans (of_decide_eq_true hab) (of_decide_eq_true hbc))

theorem Entry.notLater_total (a b : Entry) : (a.notLater b || b.notLater a) = true := by
  rw [Bool.or_eq_true, notLater, notLater, decide_eq_true_eq, decide_eq_true_eq]
  exact Int.le_total _ _

theorem isOrdered_orderedByTime (entries : List Entry) : IsOrdered (orderedByTime entries) :=
  (List.pairwise_mergeSort Entry.notLater_trans Entry.notLater_total entries).imp of_decide_eq_true

theorem mem_inMoment {t : Timestamp} {entries : List Entry} {e : Entry} :
    e ∈ inMoment t entries ↔ e ∈ entries ∧ e.timestamp = t := by
  rw [inMoment, List.mem_filter, decide_eq_true_eq]

/-- **Ordering leaves every moment as it was.** The entries of a moment are in order already, so they stand in the
ordered view as they did, and there are no others of the moment. -/
theorem inMoment_orderedByTime (t : Timestamp) (entries : List Entry) :
    inMoment t (orderedByTime entries) = inMoment t entries := by
  have hordered : (inMoment t entries).Pairwise fun a b => a.notLater b = true := by
    refine List.pairwise_of_forall_mem_list fun a ha b hb => decide_eq_true (Int.le_of_eq ?_)
    rw [(mem_inMoment.1 ha).2, (mem_inMoment.1 hb).2]
  have hstay : (inMoment t entries).Sublist (orderedByTime entries) :=
    List.sublist_mergeSort Entry.notLater_trans Entry.notLater_total hordered List.filter_sublist
  have hsub : (inMoment t (inMoment t entries)).Sublist (inMoment t (orderedByTime entries)) := hstay.filter _
  have hagain : inMoment t (inMoment t entries) = inMoment t entries :=
    List.filter_eq_self.2 fun e he => decide_eq_true (mem_inMoment.1 he).2
  rw [hagain] at hsub
  exact (hsub.eq_of_length ((orderedByTime_perm entries).filter _).length_eq.symm).symm

/-- **An ordered view is told by its moments.** -/
theorem IsOrdered.eq_of_inMoment : ∀ {entries others : List Entry}, IsOrdered entries → IsOrdered others →
    (∀ t, inMoment t entries = inMoment t others) → entries = others
  | [], [], _, _, _ => rfl
  | [], y :: ys, _, _, h => by
    have hy : y ∈ inMoment y.timestamp [] := by rw [h, mem_inMoment]; exact ⟨List.mem_cons_self, rfl⟩
    exact absurd hy List.not_mem_nil
  | x :: xs, [], _, _, h => by
    have hx : x ∈ inMoment x.timestamp [] := by rw [← h, mem_inMoment]; exact ⟨List.mem_cons_self, rfl⟩
    exact absurd hx List.not_mem_nil
  | x :: xs, y :: ys, hxs, hys, h => by
    -- the first entry of either view is of the earliest moment of both
    have hearliest {a b : Entry} {as bs : List Entry} (hbs : IsOrdered (b :: bs))
        (hmoment : inMoment a.timestamp (a :: as) = inMoment a.timestamp (b :: bs)) :
        b.timestamp.micros ≤ a.timestamp.micros := by
      have ha : a ∈ b :: bs := by
        refine (mem_inMoment (t := a.timestamp).1 ?_).1
        rw [← hmoment, mem_inMoment]
        exact ⟨List.mem_cons_self, rfl⟩
      rcases List.mem_cons.1 ha with rfl | ha
      · exact Int.le_refl _
      · exact List.rel_of_pairwise_cons hbs ha
    have htime : x.timestamp = y.timestamp :=
      congrArg Timestamp.mk (Int.le_antisymm (hearliest hxs (h y.timestamp).symm) (hearliest hys (h x.timestamp)))
    have hsplit : x = y ∧ inMoment x.timestamp xs = inMoment x.timestamp ys := by
      have hmoment := h x.timestamp
      rw [inMoment, inMoment, List.filter_cons_of_pos (by simp), List.filter_cons_of_pos (by simp [htime])] at hmoment
      exact List.cons.inj hmoment
    obtain ⟨rfl, hmoment⟩ := hsplit
    have hrest : ∀ t, inMoment t xs = inMoment t ys := by
      intro t
      by_cases ht : x.timestamp = t
      · exact ht ▸ hmoment
      · have hother := h t
        rwa [inMoment, inMoment, List.filter_cons_of_neg (by simpa using ht),
          List.filter_cons_of_neg (by simpa using ht)] at hother
    rw [eq_of_inMoment hxs.of_cons hys.of_cons hrest]

theorem orderedByTime_orderedByTime (entries : List Entry) :
    orderedByTime (orderedByTime entries) = orderedByTime entries :=
  (isOrdered_orderedByTime _).eq_of_inMoment (isOrdered_orderedByTime _) fun t => inMoment_orderedByTime t _

theorem inMoment_filter (t : Timestamp) (test : Entry → Bool) (entries : List Entry) :
    inMoment t (entries.filter test) = (inMoment t entries).filter test := by
  rw [inMoment, inMoment, List.filter_filter, List.filter_filter]
  exact List.filter_congr fun e _ => Bool.and_comm _ _

/-- **A filter and ordering may be swapped.** -/
theorem filter_orderedByTime (test : Entry → Bool) (entries : List Entry) :
    (orderedByTime entries).filter test = orderedByTime (entries.filter test) := by
  have hfiltered : IsOrdered ((orderedByTime entries).filter test) := (isOrdered_orderedByTime entries).filter test
  refine hfiltered.eq_of_inMoment (isOrdered_orderedByTime _) fun t => ?_
  rw [inMoment_filter, inMoment_orderedByTime, inMoment_orderedByTime, inMoment_filter]

/-! ## Filters that may fail -/

/-- Two ways to make a view give the same entries, or both fail. A test that fails on several entries may fail on
another one first if they come in another order. -/
def SameResult (x y : Except Fault (List Entry)) : Prop := ∀ kept, x = .ok kept ↔ y = .ok kept

/-- **A filter that may fail and ordering may be swapped.** -/
theorem sameResult_filterOrFail (test : Entry → Except Fault Bool) (entries : List Entry) :
    SameResult ((filterOrFail test entries).map orderedByTime) (filterOrFail test (orderedByTime entries)) := by
  intro kept
  have hruns : (∀ e ∈ orderedByTime entries, ∃ keep, test e = .ok keep) ↔ ∀ e ∈ entries, ∃ keep, test e = .ok keep :=
    forall_congr' fun e => imp_congr (orderedByTime_perm entries).mem_iff Iff.rfl
  rw [filterOrFail_eq_ok_iff, hruns, filter_orderedByTime]
  constructor
  · intro h
    cases hfilter : filterOrFail test entries with
    | error fault => rw [hfilter] at h; cases h
    | ok found =>
      rw [hfilter] at h
      obtain ⟨hall, rfl⟩ := filterOrFail_eq_ok_iff.1 hfilter
      exact ⟨hall, Except.ok.inj h⟩
  · rintro ⟨hall, rfl⟩
    rw [filterOrFail_of_runs hall]
    rfl

/-! ## Queries and matchers -/

namespace Query

theorem sameResult_restrict (q : Query) (step : String) (p : Predicate) :
    SameResult ((q.restrict step p).map fun view => view.ordered.entries)
      ((q.ordered.restrict step p).map fun view => view.entries) := by
  have hfirst : (q.restrict step p).map (fun view => view.ordered.entries)
      = (filterOrFail p.test q.entries).map orderedByTime := by
    unfold restrict
    cases filterOrFail p.test q.entries <;> rfl
  have hsecond : (q.ordered.restrict step p).map (fun view => view.entries)
      = filterOrFail p.test (orderedByTime q.entries) := by
    show ((filterOrFail p.test (orderedByTime q.entries)).map _).map _ = _
    cases filterOrFail p.test (orderedByTime q.entries) <;> rfl
  rw [hfirst, hsecond]
  exact sameResult_filterOrFail p.test q.entries

theorem sameResult_filter (q : Query) (condition : Condition) :
    SameResult ((q.filter condition).map fun view => view.ordered.entries)
      ((q.ordered.filter condition).map fun view => view.entries) := by
  unfold filter
  cases condition.toPredicate with
  | error fault => exact fun kept => ⟨nofun, nofun⟩
  | ok p => exact q.sameResult_restrict _ p

theorem sameResult_selected (q : Query) (label : String) (condition : Condition) :
    SameResult (Matcher.applyAll [.selected label condition, .ordered] q.entries)
      (Matcher.applyAll [.ordered, .selected label condition] q.entries) := by
  have hfirst : Matcher.applyAll [.selected label condition, .ordered] q.entries
      = (filterOrFail condition.run q.entries).map orderedByTime := by
    show filterOrFail condition.run q.entries >>= _ = _
    cases filterOrFail condition.run q.entries <;> rfl
  have hsecond : Matcher.applyAll [.ordered, .selected label condition] q.entries
      = filterOrFail condition.run (orderedByTime q.entries) := by
    show filterOrFail condition.run (orderedByTime q.entries) >>= _ = _
    cases filterOrFail condition.run (orderedByTime q.entries) <;> rfl
  rw [hfirst, hsecond]
  exact sameResult_filterOrFail condition.run q.entries

/-- **Ordering by time is a stable sort that may be swapped with any filter**, as a step of a query and as a matcher
alike. It loses no entry and makes none up, puts none behind a later one, leaves every moment as it was, and has
nothing more to do the second time. Whatever is filtered by, the entries are the same if they are ordered first. -/
theorem ordered_by_time_stable (q : Query) :
    (Matcher.ordered.apply q.entries = .ok q.ordered.entries ∧ q.filterBy .ordered = .ok q.ordered) ∧
    q.ordered.entries.Perm q.entries ∧ IsOrdered q.ordered.entries ∧
    (∀ t, inMoment t q.ordered.entries = inMoment t q.entries) ∧
    q.ordered.ordered.entries = q.ordered.entries ∧
    (∀ condition, SameResult ((q.filter condition).map fun view => view.ordered.entries)
      ((q.ordered.filter condition).map fun view => view.entries)) ∧
    (∀ p, SameResult ((q.keeping p).map fun view => view.ordered.entries)
      ((q.ordered.keeping p).map fun view => view.entries)) ∧
    ∀ label condition, SameResult (Matcher.applyAll [.selected label condition, .ordered] q.entries)
      (Matcher.applyAll [.ordered, .selected label condition] q.entries) :=
  ⟨⟨rfl, rfl⟩, orderedByTime_perm q.entries, isOrdered_orderedByTime q.entries,
    fun t => inMoment_orderedByTime t q.entries, orderedByTime_orderedByTime q.entries, q.sameResult_filter,
    fun p => q.sameResult_restrict _ p, q.sameResult_selected⟩

end Query

end LogAssay
