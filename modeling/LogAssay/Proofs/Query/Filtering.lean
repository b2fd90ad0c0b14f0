import LogAssay.Act
import LogAssay.Matcher

/-!
# Filters that may fail

A test may fail on an entry, and a filter fails with the first entry on which its test does. Otherwise it is the
filter of a test that cannot fail.

## Main statement

* `filterOrFail_eq_ok_iff`: when a filter gives a view, and which one.
-/

namespace LogAssay

/-- Whether an entry passes a test that may fail. -/
def passes (test : Entry → Except Fault Bool) (e : Entry) : Bool :=
  match test e with
  | .ok keep => keep
  | .error _ => false

theorem filterOrFail_of_runs {test : Entry → Except Fault Bool} : ∀ {entries : List Entry},
    (∀ e ∈ entries, ∃ keep, test e = .ok keep) → filterOrFail test entries = .ok (entries.filter (passes test))
  | [], _ => rfl
  | e :: entries, h => by
    obtain ⟨keep, hkeep⟩ := h e List.mem_cons_self
    have hpasses : passes test e = keep := by rw [passes, hkeep]
    rw [filterOrFail, hkeep, filterOrFail_of_runs fun x hx => h x (List.mem_cons_of_mem e hx)]
    cases keep with
    | true => rw [List.filter_cons_of_pos hpasses]; rfl
    | false => rw [List.filter_cons_of_neg (by rw [hpasses]; exact Bool.false_ne_true)]; rfl

theorem runs_of_filterOrFail {test : Entry → Except Fault Bool} : ∀ {entries kept : List Entry},
    filterOrFail test entries = .ok kept → ∀ e ∈ entries, ∃ keep, test e = .ok keep
  | [], _, _ => fun e he => absurd he List.not_mem_nil
  | e :: entries, kept, h => by
    obtain ⟨keep, hkeep, h⟩ := exists_ok_of_bind h
    obtain ⟨others, hothers, -⟩ := exists_ok_of_bind h
    intro x hx
    rcases List.mem_cons.1 hx with rfl | hx
    · exact ⟨keep, hkeep⟩
    · exact runs_of_filterOrFail hothers x hx

/-- A filter gives a result exactly if its test runs on all entries, and then keeps those that pass it. -/
theorem filterOrFail_eq_ok_iff {test : Entry → Except Fault Bool} {entries kept : List Entry} :
    filterOrFail test entries = .ok kept ↔
      (∀ e ∈ entries, ∃ keep, test e = .ok keep) ∧ entries.filter (passes test) = kept := by
  constructor
  · intro h
    have hruns := runs_of_filterOrFail h
    exact ⟨hruns, Except.ok.inj ((filterOrFail_of_runs hruns).symm.trans h)⟩
  · rintro ⟨hruns, rfl⟩
    exact filterOrFail_of_runs hruns

/-- A test that cannot fail. -/
theorem filterOrFail_ok (test : Entry → Bool) (entries : List Entry) :
    filterOrFail (fun e => .ok (test e)) entries = .ok (entries.filter test) :=
  filterOrFail_of_runs fun e _ => ⟨test e, rfl⟩

/-- A filter that does not fail keeps a sub-sequence. -/
theorem sublist_of_filterOrFail {test : Entry → Except Fault Bool} {entries kept : List Entry}
    (h : filterOrFail test entries = .ok kept) : kept.Sublist entries := by
  obtain ⟨-, rfl⟩ := filterOrFail_eq_ok_iff.1 h
  exact List.filter_sublist

end LogAssay
