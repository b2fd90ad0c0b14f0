import LogAssay.Proofs.Attachment.Bench
import LogAssay.Proofs.Logger.Delivery
import LogAssay.Session.Surroundings

/-!
# Rosters

Several channels are attached one after the other and closed again, the last one first. A roster lists the
attachments that are open in some surroundings, with numbers of their own. What attaching and detaching keep of
one attachment (`Kept`), they keep of any number of them.

## Main statements

* `Roster.attachAll`: attaching channels puts their attachments on the roster.
* `Roster.closeAll`: closing recorders takes their attachments off the roster.
* `kept_staffed`: handlers are kept, whatever levels are set.
-/

namespace LogAssay

open LoggerTree

/-- The recorder of an open attachment. -/
def LoggerTree.Holder.recorder (x : Holder) : Recorder LogAssay.Detachment :=
  ⟨x.request.channel, some (.tree ⟨x.request.channel, x.serial⟩)⟩

/-- The recorder of an attachment after it was closed. -/
def LoggerTree.Holder.spent (x : Holder) : Recorder LogAssay.Detachment := ⟨x.request.channel, none⟩

/-- What attaching and detaching keep of a tree with its open attachments. The handlers that do not belong to
these have numbers below the first one. -/
structure Kept (first : Nat) (P : LoggerTree → List Holder → Prop) : Prop where
  attach : ∀ {t hs} (x : Holder), P t hs → P (t.attach x.request x.serial) (hs ++ [x])
  detach : ∀ {t hs} {x : Holder}, (hs.map Holder.serial).Nodup → x ∈ hs → first ≤ x.serial → P t hs →
    P (t.detach ⟨x.request.channel, x.serial⟩) (hs.filter (·.serial ≠ x.serial))

/-! ## What is kept -/

namespace LoggerTree

open Logger

section Kept

variable {t₀ : LoggerTree} {first : Nat} (before : ∀ name, ∀ y ∈ (t₀.logger name).handlers, y.serial < first)
include before

/-- The handlers from before have other numbers than an attachment. -/
theorem ne_serial_of_before {x : Holder} (hx : first ≤ x.serial) :
    ∀ name, ∀ y ∈ (t₀.logger name).handlers, y.serial ≠ x.serial := by
  intro name y hy
  have := before name y hy
  omega

theorem kept_staffed : Kept first (Staffed t₀) where
  attach x h := h.attach x.request x.serial
  detach unique hx hfirst h := h.detach unique hx (ne_serial_of_before before hfirst)

end Kept

end LoggerTree

/-! ## Rosters -/

/-- The tree, whatever is done about reports. -/
def Surroundings.treeTelling (tell : Diagnostic → Surroundings → Surroundings) :
    Backend Surroundings LogAssay.Detachment :=
  { treeBackend with tell := tell }

/-- The attachments that are open in some surroundings. Their numbers are different and were given from some first
number on. -/
structure Roster (first : Nat) (P : LoggerTree → List Holder → Prop) (around : Surroundings)
    (hs : List Holder) : Prop where
  kept : P around.tree hs
  unique : (hs.map Holder.serial).Nodup
  range : ∀ x ∈ hs, first ≤ x.serial ∧ x.serial < around.nextSerial
  first_le : first ≤ around.nextSerial

namespace Roster

variable {first : Nat} {P : LoggerTree → List Holder → Prop} {around : Surroundings} {hs : List Holder}
  (tell : Diagnostic → Surroundings → Surroundings)

/-- A roster depends on the tree and on the next number only. -/
theorem congr (h : Roster first P around hs) {around' : Surroundings} (htree : around'.tree = around.tree)
    (hserial : around'.nextSerial = around.nextSerial) : Roster first P around' hs where
  kept := by rw [htree]; exact h.kept
  unique := h.unique
  range := by rw [hserial]; exact h.range
  first_le := by rw [hserial]; exact h.first_le

/-! ### Attaching -/

theorem attach (kept : Kept first P) (h : Roster first P around hs) (request : Request) :
    Roster first P
      { around with
        nextSerial := around.nextSerial + 1
        tree := around.tree.attach request around.nextSerial }
      (hs ++ [⟨around.nextSerial, request⟩]) where
  kept := kept.attach ⟨around.nextSerial, request⟩ h.kept
  unique := by
    rw [List.map_append, List.nodup_append]
    refine ⟨h.unique, by simp, ?_⟩
    intro a ha b hb
    obtain ⟨x, hx, rfl⟩ := List.mem_map.1 ha
    have hlt := (h.range x hx).2
    rw [List.map_singleton, List.mem_singleton] at hb
    rw [hb]
    show x.serial ≠ around.nextSerial
    omega
  range x hx := by
    show first ≤ x.serial ∧ x.serial < around.nextSerial + 1
    rcases List.mem_append.1 hx with hx | hx
    · have := h.range x hx
      omega
    · rw [List.mem_singleton.1 hx]
      exact ⟨h.first_le, Nat.lt_succ_self _⟩
  first_le := Nat.le_succ_of_le h.first_le

/-- Attaching one channel of the tree. -/
theorem attach_tree (attached : List String) (around : Surroundings) (request : Request) :
    Station.attach (Surroundings.treeTelling tell) request ⟨attached, around⟩
      = if attached.contains request.channel then (.error (.alreadyAttached request.channel), ⟨attached, around⟩)
        else (.ok (Holder.mk around.nextSerial request).recorder, ⟨request.channel :: attached,
          { around with
            nextSerial := around.nextSerial + 1
            tree := around.tree.attach request around.nextSerial }⟩) := by
  rw [Station.attach]
  split
  · rfl
  · rfl

/-- **Attaching channels puts their attachments on the roster**, all of them unless one fails. -/
theorem attachAll (kept : Kept first P) : ∀ (requests : List Request) (attached : List String)
    {around : Surroundings} {hs : List Holder}, Roster first P around hs →
    ∃ fault xs station,
      Station.attachAll (Surroundings.treeTelling tell) requests ⟨attached, around⟩
        = (fault, xs.map Holder.recorder, station) ∧
      Roster first P station.backend (hs ++ xs) ∧ (fault = none → xs.map Holder.request = requests)
  | [], attached, around, hs, h => by
    refine ⟨none, [], ⟨attached, around⟩, rfl, ?_, fun _ => rfl⟩
    rw [List.append_nil]
    exact h
  | request :: requests, attached, around, hs, h => by
    rw [Station.attachAll, attach_tree tell]
    by_cases hattached : attached.contains request.channel = true
    · refine ⟨some (.alreadyAttached request.channel), [], ⟨attached, around⟩, ?_, ?_, nofun⟩
      · simp only [if_pos hattached, List.map_nil]
      · rw [List.append_nil]
        exact h
    · obtain ⟨fault, xs, station, hrest, hroster, hall⟩ :=
        attachAll kept requests (request.channel :: attached) (h.attach kept request)
      refine ⟨fault, ⟨around.nextSerial, request⟩ :: xs, station, ?_, ?_, ?_⟩
      · simp only [if_neg hattached, hrest, List.map_cons]
      · rw [List.append_assoc] at hroster
        exact hroster
      · intro hnone
        rw [List.map_cons, hall hnone]

/-! ### Closing -/

/-- The attachments that are left when some are closed. -/
def without (xs hs : List Holder) : List Holder := hs.filter fun y => y.serial ∉ xs.map Holder.serial

theorem detach (kept : Kept first P) (h : Roster first P around hs) {x : Holder} (hx : x ∈ hs) :
    Roster first P { around with tree := around.tree.detach ⟨x.request.channel, x.serial⟩ }
      (hs.filter (·.serial ≠ x.serial)) where
  kept := kept.detach h.unique hx (h.range x hx).1 h.kept
  unique := h.unique.sublist (List.filter_sublist.map _)
  range y hy := h.range y (List.mem_filter.1 hy).1
  first_le := h.first_le

theorem without_cons (x : Holder) (xs hs : List Holder) :
    without (x :: xs) hs = (without xs hs).filter (·.serial ≠ x.serial) := by
  rw [without, without, List.filter_filter]
  refine List.filter_congr fun y _ => ?_
  simp only [List.map_cons, List.mem_cons, not_or, Bool.decide_and]

theorem mem_without {x : Holder} {xs hs : List Holder} :
    x ∈ without xs hs ↔ x ∈ hs ∧ x.serial ∉ xs.map Holder.serial := by
  rw [without, List.mem_filter, decide_eq_true_eq]

theorem without_self (xs : List Holder) : without xs xs = [] := by
  rw [without, List.filter_eq_nil_iff]
  intro y hy
  simpa using List.mem_map_of_mem hy

theorem without_of_disjoint {xs hs : List Holder}
    (h : ∀ a ∈ hs.map Holder.serial, ∀ b ∈ xs.map Holder.serial, a ≠ b) : without xs hs = hs := by
  rw [without, List.filter_eq_self]
  intro y hy
  rw [decide_eq_true_eq]
  exact fun hmem => h _ (List.mem_map_of_mem hy) _ hmem rfl

theorem without_append (xs as bs : List Holder) : without xs (as ++ bs) = without xs as ++ without xs bs :=
  List.filter_append ..

/-- What was put on a roster last is taken off it. -/
theorem without_last {xs hs : List Holder} (unique : ((hs ++ xs).map Holder.serial).Nodup) :
    without xs (hs ++ xs) = hs := by
  rw [List.map_append, List.nodup_append] at unique
  rw [without_append, without_of_disjoint unique.2.2, without_self, List.append_nil]

theorem unique_last {xs : List Holder} (h : Roster first P around (hs ++ xs)) : (xs.map Holder.serial).Nodup := by
  have hunique := h.unique
  rw [List.map_append, List.nodup_append] at hunique
  exact hunique.2.1

/-- **Closing recorders takes their attachments off the roster.** -/
theorem closeAll (kept : Kept first P) : ∀ (xs : List Holder) (attached : List String),
    Roster first P around hs → (∀ x ∈ xs, x ∈ hs) → (xs.map Holder.serial).Nodup →
      Roster first P
        (Recorder.closeAll (Surroundings.treeTelling tell) (xs.map Holder.recorder) ⟨attached, around⟩).backend
        (without xs hs)
  | [], attached, h, _, _ => by
    have hall : without [] hs = hs := by simp [without]
    rw [hall]
    exact h
  | x :: xs, attached, h, hmem, unique => by
    rw [List.map_cons, List.nodup_cons] at unique
    have hroster := closeAll kept xs attached h (fun y hy => hmem y (List.mem_cons_of_mem _ hy)) unique.2
    have hx : x ∈ without xs hs := mem_without.2 ⟨hmem x (by simp), unique.1⟩
    rw [without_cons]
    exact hroster.detach kept hx

end Roster

end LogAssay
