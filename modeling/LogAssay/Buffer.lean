/-!
# Capture buffers

A buffer collects captured entries in order. A snapshot is everything collected so far. It is made anew only
when something has come since the last one, and carries the number of its making, so that two snapshots with
one number are one object.

## Main statement

* `taken_snapshot`: a snapshot of a consistent buffer is everything collected so far, and every history of
  appends and snapshots leaves a buffer consistent.
-/

namespace LogAssay

/-- A collection that only grows, with the snapshot made of it last. -/
structure Buffer (α : Type) where
  items : List α := []
  taken : List α := []
  version : Nat := 0

namespace Buffer

variable {α : Type}

def append (b : Buffer α) (item : α) : Buffer α := { b with items := b.items ++ [item] }

def size (b : Buffer α) : Nat := b.items.length

/-- The buffer after a snapshot of it has been taken: `taken` is the snapshot and `version` its number. -/
def snapshot (b : Buffer α) : Buffer α :=
  if b.taken.length = b.items.length then b
  else { b with taken := b.items, version := b.version + 1 }

/-- What the snapshot taken last says is a beginning of what was collected. -/
def Consistent (b : Buffer α) : Prop := b.taken <+: b.items

theorem consistent_empty : Consistent ({} : Buffer α) := List.nil_prefix

theorem Consistent.append {b : Buffer α} (h : b.Consistent) (item : α) :
    (b.append item).Consistent := List.IsPrefix.trans h (List.prefix_append _ _)

theorem Consistent.snapshot {b : Buffer α} (h : b.Consistent) : b.snapshot.Consistent := by
  unfold Buffer.snapshot
  split
  · exact h
  · exact List.prefix_refl _

@[simp] theorem items_snapshot (b : Buffer α) : b.snapshot.items = b.items := by
  unfold snapshot
  split <;> rfl

/-- A snapshot is everything collected so far. -/
theorem taken_snapshot {b : Buffer α} (h : b.Consistent) : b.snapshot.taken = b.items := by
  unfold snapshot
  split
  · next hl => exact h.eq_of_length hl
  · rfl

end Buffer

end LogAssay
