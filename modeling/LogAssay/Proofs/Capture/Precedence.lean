import LogAssay.Capture.Basic
import LogAssay.Proofs.Query.Narrowing
import Mathlib.Data.List.Sort

/-!
# Precedence of captured entries

The check of an order looks up the places of the entries it is given, and compares neighbouring places only. If each
entry is captured once, its place is the one at which it stands, and neighbours that increase increase throughout. So
the order is that of the capture: the entries are some of the captured ones, in their sequence, and each of them is
kept by the relative matchers of all entries in front of it.

## Main statements

* `position?_eq`: the place that is looked up.
* `positions_of_captured`, `positions_of_missing`: the places of several entries, or the first entry that has none.
* `kept_after_iff`: which entries a relative matcher keeps behind its target.
* `sublist_iff_precedes`: entries in the order of their places are a part of the sequence.
* `checkOrder_exact`: when the check of an order passes, and how it fails.
-/

namespace LogAssay.Capture

variable {logged order earlier later : List Entry} {a b e : Entry}

/-! ## Places -/

/-- What entries are told apart by. -/
def serials (es : List Entry) : List Nat := es.map Entry.serial

/-- The place at which an entry stands. -/
def place (logged : List Entry) (e : Entry) : Nat := (serials logged).idxOf e.serial

theorem isAmong_iff : isAmong logged e = true ↔ e.serial ∈ serials logged := by
  simp [isAmong, serials, Entry.same]

theorem position?_of_missing (h : isAmong logged e = false) : position? logged e = none := by
  have hnone : logged.reverse.findIdx? (·.same e) = none := by
    rw [List.findIdx?_eq_none_iff]
    intro x hx
    rw [isAmong, List.any_eq_false] at h
    exact Bool.eq_false_iff.2 (h x (List.mem_reverse.1 hx))
  rw [position?, hnone]
  rfl

/-- An entry that is captured stands at the place that is looked up. -/
theorem exists_position? (h : isAmong logged e = true) :
    ∃ i, position? logged e = some i ∧ (serials logged)[i]? = some e.serial := by
  have hsome : (logged.reverse.findIdx? (·.same e)).isSome = true := by
    rw [List.findIdx?_isSome, List.any_reverse]
    exact h
  obtain ⟨k, hk⟩ := Option.isSome_iff_exists.1 hsome
  obtain ⟨hlength, hsame, -⟩ := List.findIdx?_eq_some_iff_getElem.1 hk
  refine ⟨logged.length - 1 - k, by rw [position?, hk]; rfl, ?_⟩
  rw [List.getElem_reverse] at hsame
  rw [serials, List.getElem?_map, List.getElem?_eq_getElem (by rw [List.length_reverse] at hlength; omega)]
  exact congrArg some (eq_of_beq hsame)

/-- **The place that is looked up** is the one at which the entry stands, if no entry is captured twice. -/
theorem position?_eq (distinct : (serials logged).Nodup) (h : isAmong logged e = true) :
    position? logged e = some (place logged e) := by
  obtain ⟨i, hposition, hi⟩ := exists_position? h
  obtain ⟨hlength, hserial⟩ := List.getElem?_eq_some_iff.1 hi
  rw [hposition, place, ← hserial, distinct.idxOf_getElem]

theorem positions_of_captured (distinct : (serials logged).Nodup) : ∀ {order : List Entry},
    (∀ e ∈ order, isAmong logged e = true) → positions logged order = .ok (order.map (place logged))
  | [], _ => rfl
  | e :: order, h => by
    rw [positions, position?_eq distinct (h e List.mem_cons_self),
      positions_of_captured distinct fun x hx => h x (List.mem_cons_of_mem e hx)]
    rfl

/-- The first entry without a place is told. -/
theorem positions_of_missing (hmissing : isAmong logged e = false) (later : List Entry) : ∀ {earlier : List Entry},
    (∀ x ∈ earlier, isAmong logged x = true) →
      positions logged (earlier ++ e :: later) = .error (.notCaptured e.shown)
  | [], _ => by
    rw [List.nil_append, positions, position?_of_missing hmissing]
  | x :: earlier, h => by
    obtain ⟨i, hposition, -⟩ := exists_position? (h x List.mem_cons_self)
    rw [List.cons_append, positions, hposition,
      positions_of_missing hmissing later fun y hy => h y (List.mem_cons_of_mem x hy)]
    rfl

/-- Numbers below their successors are below all that follow. -/
theorem increasing_iff (places : List Nat) : increasing places = true ↔ places.Pairwise (· < ·) := by
  rw [← List.isChain_iff_pairwise]
  fun_induction increasing places with
  | case1 a b others ih => rw [Bool.and_eq_true, decide_eq_true_eq, ih, List.isChain_cons_cons]
  | case2 places hshort =>
    refine iff_of_true rfl ?_
    match places with
    | [] => exact .nil
    | [a] => exact .singleton a
    | a :: b :: others => exact absurd rfl (hshort a b others)

/-! ## Precedence -/

/-- An entry stands in front of another one. -/
def Precedes (logged : List Entry) (a b : Entry) : Prop := place logged a < place logged b

/-- Of numbers without repetition, those behind one of them have the later places. -/
theorem idxOf_lt_idxOf_iff {front back : List Nat} {x y : Nat} (distinct : (front ++ x :: back).Nodup)
    (hy : y ∈ front ++ x :: back) :
    (front ++ x :: back).idxOf x < (front ++ x :: back).idxOf y ↔ y ∈ back := by
  obtain ⟨-, hback, hdisjoint⟩ := List.nodup_append'.1 distinct
  have hxfront : x ∉ front := fun hx => hdisjoint hx List.mem_cons_self
  have hxback : x ∉ back := (List.nodup_cons.1 hback).1
  have hx : (front ++ x :: back).idxOf x = front.length := by
    rw [List.idxOf_append_of_notMem hxfront, List.idxOf_cons_self, Nat.add_zero]
  rw [hx]
  by_cases hfront : y ∈ front
  · have hearly : (front ++ x :: back).idxOf y < front.length := by
      rw [List.idxOf_append_of_mem hfront]
      exact List.idxOf_lt_length_of_mem hfront
    exact iff_of_false (by omega) fun hyback => hdisjoint hfront (List.mem_cons_of_mem x hyback)
  · rw [List.idxOf_append_of_notMem hfront]
    by_cases hxy : x = y
    · subst hxy
      rw [List.idxOf_cons_self]
      exact iff_of_false (by omega) hxback
    · rw [List.idxOf_cons_ne back hxy]
      have hyback : y ∈ back := by
        rcases List.mem_append.1 hy with hmem | hmem
        · exact absurd hmem hfront
        · exact (List.mem_cons.1 hmem).resolve_left (Ne.symm hxy)
      exact iff_of_true (by omega) hyback

/-- **A relative matcher keeps what stands behind its target.** -/
theorem kept_after_iff (distinct : (serials logged).Nodup) (ha : isAmong logged a = true)
    (hb : isAmong logged b = true) :
    (∃ kept, (Matcher.relative .after a []).apply logged = .ok kept ∧ isAmong kept b = true) ↔ Precedes logged a b := by
  obtain ⟨earlier, found, later, hcut⟩ := exists_isCut (List.any_eq_true.1 ha)
  have hserials : serials logged = serials earlier ++ a.serial :: serials later := by
    rw [← hcut.joined, ← eq_of_beq hcut.same, List.append_assoc]
    exact List.map_append
  have happly : (Matcher.relative .after a []).apply logged = .ok later := Matcher.cut_of_isCut hcut .after
  have hkept : (∃ kept, (Matcher.relative .after a []).apply logged = .ok kept ∧ isAmong kept b = true) ↔
      isAmong later b = true := by
    rw [happly]
    exact ⟨fun ⟨_, hlater, hmem⟩ => Except.ok.inj hlater ▸ hmem, fun hmem => ⟨later, rfl, hmem⟩⟩
  rw [isAmong_iff, hserials] at hb
  rw [hserials] at distinct
  rw [hkept, isAmong_iff, Precedes, place, place, hserials, idxOf_lt_idxOf_iff distinct hb]

/-! ## Parts of the sequence -/

theorem pairwise_idxOf {ids : List Nat} (distinct : ids.Nodup) :
    ids.Pairwise fun x y => ids.idxOf x < ids.idxOf y := by
  rw [List.pairwise_iff_getElem]
  intro i j hi hj hij
  rwa [distinct.idxOf_getElem, distinct.idxOf_getElem]

/-- Nothing stands in front of itself. -/
theorem nodup_of_precedes (h : order.Pairwise (Precedes logged)) : (serials order).Nodup := by
  refine List.pairwise_map.2 (h.imp fun {a b} hlt heq => ?_)
  rw [Precedes, place, place, heq] at hlt
  exact Nat.lt_irrefl _ hlt

/-- **Entries in the order of their places are a part of the sequence**, and the other way round. -/
theorem sublist_iff_precedes (distinct : (serials logged).Nodup) (h : ∀ e ∈ order, isAmong logged e = true) :
    (serials order).Sublist (serials logged) ↔ order.Pairwise (Precedes logged) := by
  have hplaces : ((serials order).Pairwise fun x y => (serials logged).idxOf x < (serials logged).idxOf y) ↔
      order.Pairwise (Precedes logged) := List.pairwise_map
  rw [← hplaces]
  constructor
  · intro hsublist
    exact List.Pairwise.sublist hsublist (pairwise_idxOf distinct)
  · intro hpairwise
    have hsubset : serials order ⊆ serials logged := by
      intro x hx
      obtain ⟨e, he, rfl⟩ := List.mem_map.1 hx
      exact isAmong_iff.1 (h e he)
    have : Std.Antisymm fun x y => (serials logged).idxOf x < (serials logged).idxOf y :=
      ⟨fun _ _ hxy hyx => absurd hyx (Nat.lt_asymm hxy)⟩
    have hsubperm := List.subperm_of_subset (nodup_of_precedes (hplaces.1 hpairwise)) hsubset
    exact List.sublist_of_subperm_of_pairwise hsubperm hpairwise (pairwise_idxOf distinct)

/-! ## The check of an order -/

variable {c : Capture}

theorem checkOrder_of_missing {x : Entry} (hmissing : isAmong c.entries x = false) (later : List Entry)
    (h : ∀ e ∈ earlier, isAmong c.entries e = true) :
    c.checkOrder (earlier ++ x :: later) = .error (.notCaptured x.shown) := by
  rw [checkOrder, positions_of_missing hmissing later h]
  rfl

theorem checkOrder_of_captured (distinct : (serials c.entries).Nodup) (h : ∀ e ∈ order, isAmong c.entries e = true) :
    (order.Pairwise (Precedes c.entries) → c.checkOrder order = .ok ()) ∧
    (¬ order.Pairwise (Precedes c.entries) →
      c.checkOrder order = .error (c.query.failure "expected log entries to be in order" order)) := by
  have hincreasing : increasing (order.map (place c.entries)) = true ↔ order.Pairwise (Precedes c.entries) := by
    rw [increasing_iff, List.pairwise_map]
    rfl
  rw [← hincreasing, checkOrder, positions_of_captured distinct h]
  exact ⟨fun hyes => if_pos hyes, fun hno => if_neg hno⟩

theorem checkOrder_eq_ok_iff (distinct : (serials c.entries).Nodup) (h : ∀ e ∈ order, isAmong c.entries e = true) :
    c.checkOrder order = .ok () ↔ order.Pairwise (Precedes c.entries) := by
  obtain ⟨hpass, hfail⟩ := checkOrder_of_captured distinct h
  refine ⟨fun hok => ?_, hpass⟩
  by_contra hprecedes
  rw [hfail hprecedes] at hok
  cases hok

theorem checkOrder_eq_error (distinct : (serials c.entries).Nodup) (h : ∀ e ∈ order, isAmong c.entries e = true)
    {fault : Fault} (hfault : c.checkOrder order = .error fault) :
    fault = c.query.failure "expected log entries to be in order" order := by
  obtain ⟨hpass, hfail⟩ := checkOrder_of_captured distinct h
  have hprecedes : ¬ order.Pairwise (Precedes c.entries) := by
    intro hprecedes
    rw [hpass hprecedes] at hfault
    cases hfault
  exact Except.error.inj (hfault.symm.trans (hfail hprecedes))

theorem exists_first_missing (h : ∃ e ∈ order, isAmong logged e = false) :
    ∃ earlier e later, order = earlier ++ e :: later ∧ (∀ x ∈ earlier, isAmong logged x = true) ∧
      isAmong logged e = false := by
  obtain ⟨x, hx, hmissing⟩ := h
  have hfound : (order.find? fun e => !isAmong logged e).isSome = true := by
    rw [List.find?_isSome]
    exact ⟨x, hx, by rw [hmissing]; rfl⟩
  obtain ⟨e, he⟩ := Option.isSome_iff_exists.1 hfound
  obtain ⟨hnot, earlier, later, hsplit, hearlier⟩ := List.find?_eq_some_iff_append.1 he
  exact ⟨earlier, e, later, hsplit, by simpa using hearlier, by simpa using hnot⟩

theorem nodup_of_checkOrder (distinct : (serials c.entries).Nodup) (hok : c.checkOrder order = .ok ()) :
    (serials order).Nodup := by
  by_cases hmissing : ∃ e ∈ order, isAmong c.entries e = false
  · obtain ⟨earlier, e, later, rfl, hearlier, hmissing⟩ := exists_first_missing hmissing
    rw [checkOrder_of_missing hmissing later hearlier] at hok
    cases hok
  · have h : ∀ e ∈ order, isAmong c.entries e = true := by simpa using hmissing
    exact nodup_of_precedes ((checkOrder_eq_ok_iff distinct h).1 hok)

def told (serial : Nat) (message : String) : Entry where
  className := "app:Job"
  methodName := "run"
  levelName := "INFO"
  severity := .info
  timestamp := { micros := 0 }
  thread := .scalar (.int 1)
  message := message
  serial := serial

def thrice : Capture := ((({} : Capture).collect (told 4 "start")).collect (told 2 "step")).collect (told 7 "start")

end LogAssay.Capture
