import LogAssay.Proofs.Buffer.History
import Mathlib.Logic.Function.Basic

/-!
# Buffers in memory

A snapshot stays in the hands of whoever took it, while the collection is changed in place. To see that the one does
not follow the other, a buffer is laid out in memory: the collection is a list at an address of its own, which
appending writes to, and a new snapshot is a copy at an address that was not used before. Nothing but appending writes
to an address in use (`cells_perform`), and the collection never shares its address with a snapshot (`Separate`).

What is read off the memory goes through every history as the buffer itself does (`toBuffer_after`), and the number of a
snapshot is its address, counted from the first one.

## Main statements

* `cells_after`: what is at an address in use stays there, unless it is the collection.
* `toBuffer_after`: memory and buffer go through the same histories.
* `cache_transparent`: what is to be seen of the snapshots of any history.
-/

namespace LogAssay

namespace Buffer

variable {α : Type}

/-- A buffer as it lies in memory. -/
structure Memory (α : Type) where
  cells : Nat → List α := fun _ => []
  /-- The address of the collection. -/
  items : Nat := 0
  /-- The address of the snapshot taken last. -/
  taken : Nat := 1
  /-- All addresses from here on are free. -/
  next : Nat := 2

namespace Memory

variable {m : Memory α}

def append (m : Memory α) (item : α) : Memory α :=
  { m with cells := Function.update m.cells m.items (m.cells m.items ++ [item]) }

def snapshot (m : Memory α) : Memory α :=
  if (m.cells m.taken).length = (m.cells m.items).length then m
  else
    { m with
      cells := Function.update m.cells m.next (m.cells m.items)
      taken := m.next
      next := m.next + 1 }

def perform (m : Memory α) : Operation α → Memory α
  | .append item => m.append item
  | .snapshot => m.snapshot

def after (m : Memory α) (operations : List (Operation α)) : Memory α := operations.foldl perform m

theorem after_append (m : Memory α) (earlier later : List (Operation α)) :
    m.after (earlier ++ later) = (m.after earlier).after later := List.foldl_append

/-! ## What stays in place -/

theorem items_perform (m : Memory α) (o : Operation α) : (m.perform o).items = m.items := by
  cases o with
  | append item => rfl
  | snapshot =>
    show m.snapshot.items = m.items
    unfold snapshot
    split <;> rfl

theorem next_le_perform (m : Memory α) (o : Operation α) : m.next ≤ (m.perform o).next := by
  cases o with
  | append item => exact Nat.le_refl _
  | snapshot =>
    show m.next ≤ m.snapshot.next
    unfold snapshot
    split
    · exact Nat.le_refl _
    · exact Nat.le_succ _

theorem cells_perform {address : Nat} (hitems : address ≠ m.items) (hused : address < m.next) (o : Operation α) :
    (m.perform o).cells address = m.cells address := by
  cases o with
  | append item => exact Function.update_of_ne hitems _ _
  | snapshot =>
    show m.snapshot.cells address = m.cells address
    unfold snapshot
    split
    · rfl
    · exact Function.update_of_ne (Nat.ne_of_lt hused) _ _

/-- **What is at an address in use stays there**, unless it is the collection. -/
theorem cells_after {address : Nat} (hitems : address ≠ m.items) (hused : address < m.next)
    (operations : List (Operation α)) : (m.after operations).cells address = m.cells address := by
  induction operations generalizing m with
  | nil => rfl
  | cons o operations ih =>
    have hrest : ((m.perform o).after operations).cells address = (m.perform o).cells address :=
      ih ((items_perform m o).symm ▸ hitems) (Nat.lt_of_lt_of_le hused (next_le_perform m o))
    exact hrest.trans (cells_perform hitems hused o)

/-! ## The buffer that is in memory -/

/-- The collection is apart from all snapshots, and the snapshot taken last is the last thing that was put into
memory. -/
structure Separate (m : Memory α) : Prop where
  items : m.items = 0
  taken : 0 < m.taken
  next : m.next = m.taken + 1

theorem separate_empty : Separate ({} : Memory α) := ⟨rfl, Nat.one_pos, rfl⟩

theorem Separate.taken_ne_items (h : m.Separate) : m.taken ≠ m.items := by
  rw [h.items]
  exact Nat.ne_of_gt h.taken

theorem Separate.items_ne_next (h : m.Separate) : m.items ≠ m.next := by
  rw [h.items, h.next]
  exact (Nat.succ_ne_zero _).symm

theorem Separate.perform (h : m.Separate) (o : Operation α) : (m.perform o).Separate := by
  cases o with
  | append item => exact ⟨h.items, h.taken, h.next⟩
  | snapshot =>
    show m.snapshot.Separate
    unfold snapshot
    split
    · exact h
    · exact ⟨h.items, h.next ▸ Nat.succ_pos _, rfl⟩

theorem Separate.after (h : m.Separate) (operations : List (Operation α)) : (m.after operations).Separate := by
  induction operations generalizing m with
  | nil => exact h
  | cons o operations ih => exact ih (h.perform o)

/-- The buffer that is read off a memory. The first snapshot is at address one and has the number zero. -/
def toBuffer (m : Memory α) : Buffer α := ⟨m.cells m.items, m.cells m.taken, m.taken - 1⟩

theorem Separate.taken_eq (h : m.Separate) : m.taken = m.toBuffer.version + 1 :=
  (Nat.sub_add_cancel h.taken).symm

theorem toBuffer_append (h : m.Separate) (item : α) : (m.append item).toBuffer = m.toBuffer.append item := by
  have hitems : (m.append item).cells m.items = m.cells m.items ++ [item] := Function.update_self _ _ _
  have htaken : (m.append item).cells m.taken = m.cells m.taken := Function.update_of_ne h.taken_ne_items _ _
  show (⟨(m.append item).cells m.items, (m.append item).cells m.taken, m.taken - 1⟩ : Buffer α) = _
  rw [hitems, htaken]
  rfl

theorem toBuffer_snapshot (h : m.Separate) : m.snapshot.toBuffer = m.toBuffer.snapshot := by
  unfold snapshot Buffer.snapshot
  by_cases hlength : (m.cells m.taken).length = (m.cells m.items).length
  · rw [if_pos hlength, if_pos (show m.toBuffer.taken.length = m.toBuffer.items.length from hlength)]
  · rw [if_neg hlength, if_neg (show ¬m.toBuffer.taken.length = m.toBuffer.items.length from hlength)]
    -- The copy goes to a free address, so it does not touch the collection, and the next number is its address.
    have hcopy : Function.update m.cells m.next (m.cells m.items) m.next = m.cells m.items := Function.update_self _ _ _
    have hitems : Function.update m.cells m.next (m.cells m.items) m.items = m.cells m.items :=
      Function.update_of_ne h.items_ne_next _ _
    have hnumber : m.next - 1 = m.toBuffer.version + 1 := by rw [h.next, h.taken_eq, Nat.add_sub_cancel]
    simp only [toBuffer, hcopy, hitems]
    rw [hnumber]
    rfl

theorem toBuffer_perform (h : m.Separate) (o : Operation α) : (m.perform o).toBuffer = m.toBuffer.perform o := by
  cases o with
  | append item => exact toBuffer_append h item
  | snapshot => exact toBuffer_snapshot h

/-- **Memory and buffer go through the same histories.** -/
theorem toBuffer_after (h : m.Separate) (operations : List (Operation α)) :
    (m.after operations).toBuffer = m.toBuffer.after operations := by
  induction operations generalizing m with
  | nil => rfl
  | cons o operations ih =>
    show ((m.perform o).after operations).toBuffer = (m.toBuffer.perform o).after operations
    rw [ih (h.perform o), toBuffer_perform h]

end Memory

/-! ## The snapshots of a history -/

section History

variable {operations : List (Operation α)} {i j : Nat}

/-- The buffer after the snapshot that is taken at a place of a history. -/
def snapshotAt (operations : List (Operation α)) (i : Nat) : Buffer α := (after {} (operations.take i)).snapshot

/-- The address of the snapshot that is taken at a place of a history. -/
def addressAt (operations : List (Operation α)) (i : Nat) : Nat :=
  (Memory.after {} (operations.take i)).snapshot.taken

theorem taken_snapshotAt (operations : List (Operation α)) (i : Nat) :
    (snapshotAt operations i).taken = appended (operations.take i) :=
  taken_snapshot_after consistent_empty _

theorem separate_snapshot_take (operations : List (Operation α)) (i : Nat) :
    (Memory.after {} (operations.take i)).snapshot.Separate :=
  (Memory.separate_empty.after (operations.take i)).perform .snapshot

theorem toBuffer_snapshot_take (operations : List (Operation α)) (i : Nat) :
    (Memory.after {} (operations.take i)).snapshot.toBuffer = snapshotAt operations i := by
  rw [Memory.toBuffer_snapshot (Memory.separate_empty.after _), Memory.toBuffer_after Memory.separate_empty]
  rfl

theorem addressAt_eq (operations : List (Operation α)) (i : Nat) :
    addressAt operations i = (snapshotAt operations i).version + 1 := by
  rw [addressAt, (separate_snapshot_take operations i).taken_eq, toBuffer_snapshot_take]

/-- The operations between two places of a history. -/
def between (operations : List (Operation α)) (i j : Nat) : List (Operation α) := (operations.take j).drop (i + 1)

/-- A history up to some place behind a snapshot. -/
theorem take_eq_of_snapshot (hi : operations[i]? = some .snapshot) (hij : i < j) :
    operations.take j = operations.take i ++ .snapshot :: between operations i j := by
  have hget : (operations.take j)[i]? = some .snapshot := (List.getElem?_take_of_lt hij).trans hi
  obtain ⟨hlt, hsnapshot⟩ := List.getElem?_eq_some_iff.1 hget
  calc operations.take j
    _ = (operations.take j).take i ++ (operations.take j).drop i := (List.take_append_drop i _).symm
    _ = operations.take i ++ .snapshot :: between operations i j := by
      rw [List.take_take, Nat.min_eq_left (Nat.le_of_lt hij), List.drop_eq_getElem_cons hlt, hsnapshot, between]

/-- A later snapshot is taken of what the earlier one left and of the operations in between. -/
theorem snapshotAt_eq (hi : operations[i]? = some .snapshot) (hij : i < j) :
    snapshotAt operations j = ((snapshotAt operations i).after (between operations i j)).snapshot := by
  rw [snapshotAt, take_eq_of_snapshot hi hij, after_append]
  rfl

theorem appended_between_eq_nil_iff : appended (between operations i j) = [] ↔
    ∀ k, i < k → k < j → ∀ item, operations[k]? ≠ some (.append item) := by
  rw [appended, between, List.filterMap_eq_nil_iff]
  simp only [Operation.item?_eq_none_iff]
  constructor
  · intro hnone k hik hkj item hk
    refine hnone (.append item) (List.mem_iff_getElem?.2 ⟨k - (i + 1), ?_⟩) item rfl
    rw [List.getElem?_drop, Nat.add_sub_cancel' hik, List.getElem?_take_of_lt hkj, hk]
  · rintro hnone o ho item rfl
    obtain ⟨k, hk⟩ := List.mem_iff_getElem?.1 ho
    rw [List.getElem?_drop, List.getElem?_take] at hk
    split at hk
    · next hkj => exact hnone (i + 1 + k) (by omega) hkj item hk
    · cases hk

theorem version_snapshotAt_eq_iff (hi : operations[i]? = some .snapshot) (hij : i < j) :
    (snapshotAt operations i).version = (snapshotAt operations j).version ↔
      ∀ k, i < k → k < j → ∀ item, operations[k]? ≠ some (.append item) := by
  rw [← appended_between_eq_nil_iff, snapshotAt_eq hi hij]
  exact version_snapshot_eq_iff (consistent_empty.after _) _

theorem grown_snapshotAt (hi : operations[i]? = some .snapshot) (hij : i < j) :
    Grown (snapshotAt operations i) (snapshotAt operations j) := by
  rw [snapshotAt_eq hi hij]
  exact grown_snapshot_after (consistent_empty.after _) _

/-- The address of a snapshot goes on holding what it held when the snapshot was taken. -/
theorem cells_addressAt (hi : operations[i]? = some .snapshot) (hij : i < j) :
    (Memory.after {} (operations.take j)).cells (addressAt operations i) = appended (operations.take i) := by
  have hseparate := separate_snapshot_take operations i
  have hused : addressAt operations i < (Memory.after {} (operations.take i)).snapshot.next :=
    hseparate.next ▸ Nat.lt_succ_self _
  calc (Memory.after {} (operations.take j)).cells (addressAt operations i)
    _ = ((Memory.after {} (operations.take i)).snapshot.after (between operations i j)).cells
        (addressAt operations i) := by
      rw [take_eq_of_snapshot hi hij, Memory.after_append]
      rfl
    _ = (Memory.after {} (operations.take i)).snapshot.toBuffer.taken :=
      Memory.cells_after hseparate.taken_ne_items hused _
    _ = appended (operations.take i) := by rw [toBuffer_snapshot_take, taken_snapshotAt]

/-- **Snapshots are transparent.** In any history of appends and snapshots, in which one item may be appended many
times, each snapshot is the list of all items appended before it, in their order. Of two snapshots the earlier one is
a beginning of the later one, and they are one object exactly if nothing was appended in between. In memory a snapshot
has an address that goes with its number, and whatever was done by any later time, what is to be read there is what
the snapshot was when it was taken. The size is the number of appends. -/
theorem cache_transparent (operations : List (Operation α)) :
    (∀ i, operations[i]? = some .snapshot → (snapshotAt operations i).taken = appended (operations.take i)) ∧
    (∀ i j, i < j → operations[i]? = some .snapshot → operations[j]? = some .snapshot →
      (snapshotAt operations i).taken <+: (snapshotAt operations j).taken ∧
      ((snapshotAt operations i).version = (snapshotAt operations j).version ↔
        ∀ k, i < k → k < j → ∀ item, operations[k]? ≠ some (.append item))) ∧
    (∀ i, operations[i]? = some .snapshot →
      addressAt operations i = (snapshotAt operations i).version + 1 ∧
      ∀ n, i < n →
        (Memory.after {} (operations.take n)).cells (addressAt operations i) = (snapshotAt operations i).taken) ∧
    (after {} operations).size = operations.countP Operation.isAppend := by
  refine ⟨fun i _ => taken_snapshotAt operations i, ?_, ?_, ?_⟩
  · intro i j hij hi _
    exact ⟨(grown_snapshotAt hi hij).taken, version_snapshotAt_eq_iff hi hij⟩
  · intro i hi
    refine ⟨addressAt_eq operations i, ?_⟩
    intro n hn
    rw [taken_snapshotAt]
    exact cells_addressAt hi hn
  · exact (size_after {} operations).trans (Nat.zero_add _)

/-- An item that comes again. The snapshots around it differ and the one before it stays as it was, while the two
behind it are one. -/
theorem cache_transparent_recurring :
    let operations : List (Operation Nat) := [.append 7, .snapshot, .append 7, .snapshot, .snapshot]
    operations[1]? = some .snapshot ∧ operations[3]? = some .snapshot ∧ operations[4]? = some .snapshot ∧
    (snapshotAt operations 1).taken = [7] ∧ (snapshotAt operations 3).taken = [7, 7] ∧
    (snapshotAt operations 1).taken <+: (snapshotAt operations 3).taken ∧
    (snapshotAt operations 1).version ≠ (snapshotAt operations 3).version ∧
    (snapshotAt operations 3).version = (snapshotAt operations 4).version ∧
    (Memory.after {} operations).cells (addressAt operations 1) = [7] ∧ (after {} operations).size = 2 := by
  intro operations
  obtain ⟨hall, hpairs, hmemory, hsize⟩ := cache_transparent operations
  obtain ⟨hgrows, hdiffer⟩ := hpairs 1 3 (by decide) rfl rfl
  obtain ⟨-, hone⟩ := hpairs 3 4 (by decide) rfl rfl
  refine ⟨rfl, rfl, rfl, hall 1 rfl, hall 3 rfl, hgrows, fun heq => ?_, hone.2 fun k hk hk' => by omega, ?_, hsize⟩
  · exact hdiffer.1 heq 2 (by decide) (by decide) 7 rfl
  · exact ((hmemory 1 rfl).2 5 (by decide)).trans (hall 1 rfl)

end History

end Buffer

end LogAssay
