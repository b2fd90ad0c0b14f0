import LogAssay.TestId.Pool
import Mathlib.Data.List.Nodup
import Mathlib.Data.List.Perm.Subperm

/-!
# Claiming test ids

A claim gets an id that is not held, unless the pool is full. So releasing it leaves what was held before.

## Main statements

* `ofDraw_injective`: different draws have different ids.
* `Draws.take_notMem`: the id that is taken is not held.
* `Pool.held_release`: releasing an id that was claimed gives back what was held.
-/

namespace LogAssay

namespace Text

/-! ## The number of a numeral -/

/-- The number of a capital hexadecimal digit. -/
def hexDigitValue (c : Char) : Nat := if c.toNat < 'A'.toNat then c.toNat - '0'.toNat else c.toNat - 'A'.toNat + 10

/-- The number of a capital hexadecimal numeral. -/
def hexValue (numeral : List Char) : Nat := numeral.foldl (fun value c => 16 * value + hexDigitValue c) 0

theorem hexDigitValue_hexDigit {n : Nat} (h : n < 16) : hexDigitValue (hexDigit 'A' n) = n :=
  (by decide : ∀ n : Fin 16, hexDigitValue (hexDigit 'A' n) = n) ⟨n, h⟩

theorem hexValue_concat (numeral : List Char) (c : Char) :
    hexValue (numeral ++ [c]) = 16 * hexValue numeral + hexDigitValue c := by
  rw [hexValue, List.foldl_append]
  rfl

theorem hexValue_hexNumeral (n : Nat) : hexValue (hexNumeral 'A' n) = n := by
  induction n using Nat.strongRecOn with
  | ind n ih =>
    rw [hexNumeral]
    split
    · next hn =>
      show 16 * 0 + hexDigitValue (hexDigit 'A' n) = n
      rw [hexDigitValue_hexDigit hn, Nat.mul_zero, Nat.zero_add]
    · rw [hexValue_concat, ih (n / 16) (by omega), hexDigitValue_hexDigit (Nat.mod_lt n (by decide))]
      exact Nat.div_add_mod n 16

/-- Zeros in front of a numeral do not change its number. -/
theorem hexValue_padded (width : Nat) (numeral : List Char) :
    hexValue (padded width numeral) = hexValue numeral := by
  rw [padded, hexValue, List.foldl_append]
  refine congrArg (List.foldl _ · numeral) ?_
  induction width - numeral.length with
  | zero => rfl
  | succ k ih => exact ih

theorem hexNumeral_ne_nil (ten : Char) (n : Nat) : hexNumeral ten n ≠ [] := by
  rw [hexNumeral]
  split
  · exact List.cons_ne_nil _ _
  · exact List.append_ne_nil_of_right_ne_nil _ (List.cons_ne_nil _ _)

end Text

namespace TestId

/-! ## Draws -/

/-- **Different draws have different ids.** -/
theorem ofDraw_injective : Function.Injective ofDraw := by
  intro a b h
  have hvalue := congrArg Text.hexValue (String.ofList_injective h)
  rwa [Text.upperHex, Text.upperHex, Text.hexValue_padded, Text.hexValue_padded, Text.hexValue_hexNumeral,
    Text.hexValue_hexNumeral] at hvalue

theorem ofDraw_ne_empty (draw : Nat) : ofDraw draw ≠ "" := by
  intro h
  have hnil : Text.upperHex 4 draw = [] := String.ofList_injective h
  exact Text.hexNumeral_ne_nil 'A' draw (List.append_eq_nil_iff.1 hnil).2

variable {held : List String}

/-- If counting ends at an id that is held, the ids of all numbers on the way are. -/
theorem mem_of_countFree_mem : ∀ {next tries : Nat}, (countFree held next tries).1 ∈ held →
    ∀ k ≤ tries, ofDraw (next + k) ∈ held
  | next, 0, h, k, hk => by
    obtain rfl := Nat.le_zero.1 hk
    exact h
  | next, tries + 1, h, k, hk => by
    rw [countFree] at h
    split at h
    · next hnext =>
      cases k with
      | zero => simpa using hnext
      | succ k =>
        have hrest := mem_of_countFree_mem h k (Nat.le_of_succ_le_succ hk)
        rwa [Nat.add_right_comm, Nat.add_assoc] at hrest
    · next hnext => exact absurd h (by simpa using hnext)

/-- One more number than there are ids held is enough to find one that is not held. -/
theorem countFree_notMem (held : List String) (next : Nat) : (countFree held next held.length).1 ∉ held := by
  intro hmem
  have hall := mem_of_countFree_mem hmem
  have hsub : (List.range (held.length + 1)).map (fun k => ofDraw (next + k)) ⊆ held := by
    intro id hid
    obtain ⟨k, hk, rfl⟩ := List.mem_map.1 hid
    exact hall k (Nat.le_of_lt_succ (List.mem_range.1 hk))
  have hunique : ((List.range (held.length + 1)).map fun k => ofDraw (next + k)).Nodup :=
    List.nodup_range.map fun _ _ h => Nat.add_left_cancel (ofDraw_injective h)
  have hlength := (hunique.subperm hsub).length_le
  rw [List.length_map, List.length_range] at hlength
  omega

theorem exists_countFree_eq (held : List String) : ∀ next tries, ∃ draw, (countFree held next tries).1 = ofDraw draw
  | next, 0 => ⟨next, rfl⟩
  | next, tries + 1 => by
    rw [countFree]
    split
    · exact exists_countFree_eq held (next + 1) tries
    · exact ⟨next, rfl⟩

/-- **The id that is taken is not held**, and not empty either. -/
theorem Draws.take_notMem (draws : Draws) (held : List String) :
    (draws.take held).1 ∉ held ∧ (draws.take held).1 ≠ "" := by
  rw [take]
  cases htake : takeFree? held draws.scripted with
  | some taken =>
    obtain ⟨id, others⟩ := taken
    obtain ⟨-, draw, -, -, rfl, hid⟩ := takeFree?_eq_some htake
    exact ⟨hid, ofDraw_ne_empty draw⟩
  | none =>
    obtain ⟨draw, hdraw⟩ := exists_countFree_eq held draws.next held.length
    refine ⟨countFree_notMem held draws.next, ?_⟩
    show (countFree held draws.next held.length).1 ≠ ""
    rw [hdraw]
    exact ofDraw_ne_empty draw

/-! ## The pool -/

namespace Pool

theorem release_empty (p : Pool) : p.release "" = p := if_pos rfl

/-- An id that was released is not held. -/
theorem notMem_release (p : Pool) {id : String} (h : id ≠ "") : id ∉ (p.release id).held := by
  rw [release, if_neg h, List.mem_filter, decide_eq_true_eq]
  exact fun hid => hid.2 rfl

/-- **Releasing an id that was claimed gives back what was held**, whatever was claimed and released meanwhile. -/
theorem held_release {p q : Pool} (h : q.held = p.claim.2.1.held) : (q.release p.claim.1).held = p.held := by
  rw [claim] at h ⊢
  split at h
  · next hfree =>
    obtain ⟨hid, hne⟩ := p.draws.take_notMem p.held
    rw [if_pos hfree]
    show (q.release (p.draws.take p.held).1).held = p.held
    rw [release, if_neg hne]
    show q.held.filter _ = p.held
    rw [show q.held = p.held ++ [(p.draws.take p.held).1] from h, List.filter_append,
      List.filter_cons_of_neg (by simp), List.filter_nil, List.append_nil, List.filter_eq_self]
    intro other hother
    exact decide_eq_true fun heq => hid (heq ▸ hother)
  · next hfull =>
    rw [if_neg hfull, release_empty]
    exact h

end Pool

end TestId

end LogAssay
