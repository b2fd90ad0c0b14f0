import LogAssay.Buffer

/-!
# Histories of buffers

Items are appended and snapshots taken in any order, and one item may be appended many times. Whether a snapshot has
to be made anew is told from lengths alone. That is enough because the collection only grows: the snapshot taken last
stays a beginning of it (`Consistent`), so they are equal as soon as they are equally long, however often items recur.

Nothing that is done to a buffer takes anything back either, which `Grown` says of one operation and of all that follow.

## Main statements

* `grown_perform`, `Consistent.perform`: what one operation keeps.
* `taken_snapshot_after`: a snapshot is all that was appended before.
* `version_snapshot_eq_iff`: when two snapshots are one object.
-/

namespace LogAssay

namespace Buffer

variable {α : Type} {b b' b'' : Buffer α}

/-! ## Operations -/

/-- What can be done to a buffer. -/
inductive Operation (α : Type) where
  | append (item : α)
  | snapshot
  deriving DecidableEq, Repr

namespace Operation

def item? : Operation α → Option α
  | append item => some item
  | snapshot => none

def isAppend (o : Operation α) : Bool := o.item?.isSome

theorem item?_eq_none_iff {o : Operation α} : o.item? = none ↔ ∀ item, o ≠ append item := by
  cases o <;> simp [item?]

end Operation

/-- What some operations append, in their order. -/
def appended (operations : List (Operation α)) : List α := operations.filterMap Operation.item?

theorem length_appended (operations : List (Operation α)) :
    (appended operations).length = operations.countP Operation.isAppend := List.length_filterMap_eq_countP

def perform (b : Buffer α) : Operation α → Buffer α
  | .append item => b.append item
  | .snapshot => b.snapshot

/-- The buffer after some operations, one after the other. -/
def after (b : Buffer α) (operations : List (Operation α)) : Buffer α := operations.foldl perform b

theorem after_append (b : Buffer α) (earlier later : List (Operation α)) :
    b.after (earlier ++ later) = (b.after earlier).after later := List.foldl_append

/-! ## One operation -/

theorem items_perform (b : Buffer α) (o : Operation α) : (b.perform o).items = b.items ++ o.item?.toList := by
  cases o with
  | append item => rfl
  | snapshot => exact (items_snapshot b).trans (List.append_nil _).symm

theorem Consistent.perform (h : b.Consistent) (o : Operation α) : (b.perform o).Consistent := by
  cases o with
  | append item => exact h.append item
  | snapshot => exact h.snapshot

/-- What was done to a buffer took nothing back. Its snapshot may be longer, and then it has another number. -/
structure Grown (b b' : Buffer α) : Prop where
  taken : b.taken <+: b'.taken
  version : b.version ≤ b'.version
  same : b'.version = b.version → b'.taken = b.taken

namespace Grown

theorem refl (b : Buffer α) : Grown b b := ⟨List.prefix_refl _, Nat.le_refl _, fun _ => rfl⟩

theorem trans (h : Grown b b') (h' : Grown b' b'') : Grown b b'' where
  taken := h.taken.trans h'.taken
  version := Nat.le_trans h.version h'.version
  same := by
    intro heq
    -- Numbers only rise, so if the last is the first, the one in the middle is, too.
    have hmiddle : b'.version = b.version := Nat.le_antisymm (heq ▸ h'.version) h.version
    exact (h'.same (heq.trans hmiddle.symm)).trans (h.same hmiddle)

end Grown

theorem grown_snapshot (h : b.Consistent) : Grown b b.snapshot := by
  unfold snapshot
  split
  · exact Grown.refl b
  · exact ⟨h, Nat.le_succ _, fun heq => absurd heq (Nat.succ_ne_self _)⟩

theorem grown_perform (h : b.Consistent) (o : Operation α) : Grown b (b.perform o) := by
  cases o with
  | append item => exact ⟨List.prefix_refl _, Nat.le_refl _, fun _ => rfl⟩
  | snapshot => exact grown_snapshot h

/-- A snapshot of a buffer of which one was just taken changes nothing. -/
theorem snapshot_snapshot (h : b.Consistent) : b.snapshot.snapshot = b.snapshot := by
  have hlength : b.snapshot.taken.length = b.snapshot.items.length := by rw [taken_snapshot h, items_snapshot]
  rw [snapshot, if_pos hlength]

/-! ## Runs -/

theorem items_after (b : Buffer α) (operations : List (Operation α)) :
    (b.after operations).items = b.items ++ appended operations := by
  induction operations generalizing b with
  | nil => exact (List.append_nil _).symm
  | cons o operations ih =>
    rw [after, List.foldl_cons, ← after, ih, items_perform, List.append_assoc]
    cases o <;> rfl

/-- The size is the number of appends. -/
theorem size_after (b : Buffer α) (operations : List (Operation α)) :
    (b.after operations).size = b.size + operations.countP Operation.isAppend := by
  rw [size, items_after, List.length_append, length_appended, size]

theorem Consistent.after (h : b.Consistent) (operations : List (Operation α)) : (b.after operations).Consistent := by
  induction operations generalizing b with
  | nil => exact h
  | cons o operations ih => exact ih (h.perform o)

theorem grown_after (h : b.Consistent) (operations : List (Operation α)) : Grown b (b.after operations) := by
  induction operations generalizing b with
  | nil => exact Grown.refl b
  | cons o operations ih => exact (grown_perform h o).trans (ih (h.perform o))

/-- **A snapshot is all that was appended before**, whatever snapshots were taken meanwhile. -/
theorem taken_snapshot_after (h : b.Consistent) (operations : List (Operation α)) :
    (b.after operations).snapshot.taken = b.items ++ appended operations := by
  rw [taken_snapshot (h.after operations), items_after]

/-- Where nothing is appended, only the first snapshot can change a buffer. -/
theorem after_snapshot_of_appended_eq_nil (h : b.Consistent) {operations : List (Operation α)}
    (hnone : appended operations = []) : b.snapshot.after operations = b.snapshot := by
  induction operations with
  | nil => rfl
  | cons o operations ih =>
    cases o with
    | append item => cases hnone
    | snapshot =>
      show (b.snapshot.snapshot).after operations = b.snapshot
      rw [snapshot_snapshot h]
      exact ih hnone

/-- A later snapshot has grown out of an earlier one. -/
theorem grown_snapshot_after (h : b.Consistent) (between : List (Operation α)) :
    Grown b.snapshot (b.snapshot.after between).snapshot :=
  (grown_after h.snapshot between).trans (grown_snapshot (h.snapshot.after between))

/-- **Two snapshots are one object** exactly if nothing was appended in between. -/
theorem version_snapshot_eq_iff (h : b.Consistent) (between : List (Operation α)) :
    b.snapshot.version = (b.snapshot.after between).snapshot.version ↔ appended between = [] := by
  constructor
  · intro heq
    -- One number means one content, and the contents differ by what was appended.
    have hsame : b.items ++ appended between = b.items := by
      rw [← items_snapshot b, ← taken_snapshot_after h.snapshot between,
        (grown_snapshot_after h between).same heq.symm, taken_snapshot h, items_snapshot]
    exact List.append_right_eq_self.1 hsame
  · intro hnone
    rw [after_snapshot_of_appended_eq_nil h hnone, snapshot_snapshot h]

end Buffer

end LogAssay
