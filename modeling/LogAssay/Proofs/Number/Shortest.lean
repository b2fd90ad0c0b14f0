import LogAssay.Number.Shortest
import Mathlib.Tactic.Ring

/-!
# Shortest decimals read back

The search for the shortest decimal of a number ends with one that reads back, whichever way it ends.

## Two ways to end

* **A candidate is found.** Reading back is what the search tests, so there is nothing to prove.
* **The search is exhausted.** The exact expansion stands at the end. Its reduced form has the same value
  (`digits_reduce`), that value is a whole number of units again, and a number of the format is its own
  rounding. The guards of the reader do not come into play, since the value lies within the format.
-/

namespace LogAssay

namespace Scaled

/-! ## Reduced decimals -/

/-- Trailing zeros can be moved into the exponent first. -/
theorem reduce_mul_pow {digits : Nat} (h : digits ≠ 0) :
    ∀ (k : Nat) (exponent : Int), reduce ⟨digits * 10 ^ k, exponent⟩ = reduce ⟨digits, exponent + k⟩
  | 0, exponent => by simp
  | k + 1, exponent => by
    have hne : digits * 10 ^ k ≠ 0 := Nat.mul_ne_zero h (Nat.ne_of_gt (Nat.pow_pos (by decide)))
    rw [Nat.pow_succ, ← Nat.mul_assoc, reduce_mul_ten _ hne, reduce_mul_pow h k]
    congr 2
    push_cast
    omega

/-- The reduced form has the value of the decimal. -/
theorem digits_reduce (s : Scaled) :
    ∃ k : Nat, s.digits = s.reduce.digits * 10 ^ k ∧ s.reduce.exponent = s.exponent + k := by
  induction s using reduce.induct with
  | case1 s h ih =>
    obtain ⟨k, hdigits, hexponent⟩ := ih
    rw [← reduce_of_zeros h] at hdigits hexponent
    refine ⟨k + 1, ?_, ?_⟩
    · simp only at hdigits
      rw [Nat.pow_succ, ← Nat.mul_assoc, ← hdigits]
      omega
    · rw [hexponent]
      push_cast
      omega
  | case2 s h => exact ⟨0, by simp [reduce_of_no_zeros h], by simp [reduce_of_no_zeros h]⟩

end Scaled

namespace Binary64

/-! ## From the expansion back to the units -/

theorem ten_pow_eq (a : Nat) : 10 ^ a = (1 <<< a) * 5 ^ a := by
  rw [Nat.one_shiftLeft, ← Nat.mul_pow]

/-- Cutting a power of ten off an expansion leaves the powers of two that the units have in common with it. -/
theorem units_of_le {u digits a k : Nat} (h : u * 5 ^ a = digits * 10 ^ k) (hk : a ≤ k) :
    u = digits * 10 ^ (k - a) * (1 <<< a) := by
  obtain ⟨j, rfl⟩ := Nat.exists_eq_add_of_le hk
  have hfive : 0 < 5 ^ a := Nat.pow_pos (by decide)
  refine Nat.eq_of_mul_eq_mul_right hfive ?_
  rw [h, Nat.add_sub_cancel_left, Nat.pow_add, ten_pow_eq a]
  ac_rfl

theorem units_of_ge {u digits a k : Nat} (h : u * 5 ^ a = digits * 10 ^ k) (hk : k ≤ a) :
    digits * (1 <<< a) = u * 10 ^ (a - k) := by
  obtain ⟨j, rfl⟩ := Nat.exists_eq_add_of_le hk
  have hten : 0 < 10 ^ k := Nat.pow_pos (by decide)
  refine Nat.eq_of_mul_eq_mul_right hten ?_
  calc digits * (1 <<< (k + j)) * 10 ^ k = digits * 10 ^ k * (1 <<< (k + j)) := Nat.mul_right_comm ..
    _ = u * 5 ^ (k + j) * (1 <<< (k + j)) := by rw [h]
    _ = u * 10 ^ (k + j) := by rw [ten_pow_eq]; ac_rfl
    _ = u * 10 ^ (k + j - k) * 10 ^ k := by rw [Nat.add_sub_cancel_left, Nat.pow_add]; ac_rfl

theorem two_pow_le_ten_pow {n j : Nat} (h : n ≤ 3 * j) : 2 ^ n ≤ 10 ^ j :=
  calc 2 ^ n ≤ 2 ^ (3 * j) := Nat.pow_le_pow_right (by decide) h
    _ = 8 ^ j := by rw [Nat.pow_mul]
    _ ≤ 10 ^ j := Nat.pow_le_pow_left (by decide) j

theorem digits_ne_zero {u digits a k : Nat} (hu : 0 < u) (h : u * 5 ^ a = digits * 10 ^ k) :
    digits ≠ 0 := by
  rintro rfl
  have hpos : 0 < u * 5 ^ a := Nat.mul_pos hu (Nat.pow_pos (by decide))
  rw [h, Nat.zero_mul] at hpos
  exact Nat.lt_irrefl 0 hpos

/-- The guard against large exponents does not stop a number below the overflow. -/
theorem exponent_le_of_lt {u digits a n j : Nat} (hu : u < 1 <<< n) (hdigits : 0 < digits)
    (h : u = digits * 10 ^ j * (1 <<< a)) (hn : n ≤ a + 1203) : j ≤ 400 := by
  by_contra hj
  rw [Nat.one_shiftLeft] at hu h
  have hle : 2 ^ n ≤ u :=
    calc 2 ^ n ≤ 2 ^ (3 * j + a) := Nat.pow_le_pow_right (by decide) (by omega)
      _ = 2 ^ (3 * j) * 2 ^ a := Nat.pow_add ..
      _ ≤ 10 ^ j * 2 ^ a := Nat.mul_le_mul_right _ (two_pow_le_ten_pow (Nat.le_refl _))
      _ ≤ digits * 10 ^ j * 2 ^ a := Nat.mul_le_mul_right _ (Nat.le_mul_of_pos_left _ hdigits)
      _ = u := h.symm
  exact Nat.lt_irrefl _ (Nat.lt_of_le_of_lt hle hu)

/-- The guard against small exponents does not stop a number of at least one unit. -/
theorem le_exponent_of_pos {u digits a j : Nat} (hu : 0 < u)
    (h : digits * (1 <<< a) = u * 10 ^ j) (ha : a ≤ 1202) : j ≤ 400 + digits.log2 := by
  by_contra hj
  rw [Nat.one_shiftLeft] at h
  have hlog : digits < 2 ^ (digits.log2 + 1) := Nat.lt_log2_self
  have hlt : digits * 2 ^ a < 2 ^ (digits.log2 + 1 + a) := by
    rw [Nat.pow_add]
    exact Nat.mul_lt_mul_of_pos_right hlog (Nat.two_pow_pos _)
  have hle : 2 ^ (digits.log2 + 1 + a) ≤ u * 10 ^ j :=
    Nat.le_trans (two_pow_le_ten_pow (by omega)) (Nat.le_mul_of_pos_left _ hu)
  rw [h] at hlt
  exact Nat.lt_irrefl _ (Nat.lt_of_lt_of_le hlt hle)

/-- A number of the format that is given as a fraction is read as it is. -/
theorem ofUnits_mul_self {u d : Nat} (negative : Bool) (hu : Representable u) (hd : 0 < d) :
    ofUnits negative (u * d) d = finite negative u hu := by
  have hround := roundUnits_mul_self hu hd
  rw [ofUnits, dif_pos (by rw [hround]; exact hu.bounded)]
  congr

/-- The exact expansion reads back. -/
theorem ofReduced_reduce_expansion {u : Nat} (negative : Bool) (hu : Representable u) (hpos : 0 < u) :
    ofReduced negative (expansion u).reduce = finite negative u hu := by
  obtain ⟨k, hdigits, hexponent⟩ := Scaled.digits_reduce (expansion u)
  have hval : u * 5 ^ 1074 = (expansion u).reduce.digits * 10 ^ k := by
    rw [← hdigits]
    simp only [expansion, Nat.pow_eq]
  have hexp : (expansion u).reduce.exponent = -1074 + k := hexponent
  generalize (expansion u).reduce = r at hval hexp ⊢
  have hzero := digits_ne_zero hpos hval
  rw [ofReduced, if_neg hzero, one]
  by_cases hk : 1074 ≤ k
  · have hunits := units_of_le hval hk
    have hguard := exponent_le_of_lt hu.bounded (Nat.pos_of_ne_zero hzero) hunits (by decide)
    have hround := ofUnits_mul_self negative hu Nat.one_pos
    rw [Nat.mul_one] at hround
    rw [if_pos (by omega), if_neg (by omega), show r.exponent.toNat = k - 1074 by omega, Nat.pow_eq,
      ← hunits, hround]
  · have hunits := units_of_ge hval (by omega)
    have hguard := le_exponent_of_pos hpos hunits (by decide)
    rw [if_neg (by omega), if_neg (by omega), show (-r.exponent).toNat = 1074 - k by omega, Nat.pow_eq,
      hunits, ofUnits_mul_self negative hu (Nat.pow_pos (by decide))]

/-! ## The search -/

theorem readsBack_iff {u : Nat} {s : Scaled} :
    readsBack u s = true ↔ ∃ negative hu, ofScaled false s = finite negative u hu := by
  rw [readsBack]
  cases h : ofScaled false s with
  | nan => simp
  | infinite b => simp
  | finite b v hv =>
    simp only [beq_iff_eq]
    constructor
    · rintro rfl
      exact ⟨b, hv, rfl⟩
    · rintro ⟨_, _, h⟩
      cases h
      rfl

/-- The number with another sign. -/
def withSign (negative : Bool) : Binary64 → Binary64
  | nan => nan
  | infinite _ => infinite negative
  | finite _ u hu => finite negative u hu

theorem ofUnits_withSign (a negative : Bool) (n d : Nat) :
    ofUnits negative n d = (ofUnits a n d).withSign negative := by
  unfold ofUnits
  split_ifs <;> rfl

/-- The sign of a decimal has no influence on its rounding. -/
theorem ofScaled_withSign (a negative : Bool) (s : Scaled) :
    ofScaled negative s = (ofScaled a s).withSign negative := by
  unfold ofScaled ofReduced
  split_ifs
  · rfl
  · rfl
  · exact ofUnits_withSign a negative _ _
  · rfl
  · exact ofUnits_withSign a negative _ _

/-- **The search ends with a decimal that reads back.** -/
theorem readsBack_shortest {u : Nat} (hu : Representable u) (hpos : 0 < u) :
    readsBack u (shortest u) = true := by
  rw [shortest]
  cases hfound : shortest? u with
  | some s =>
    obtain ⟨_, _, hs⟩ := List.exists_of_findSome?_eq_some hfound
    exact List.find?_some hs
  | none =>
    refine readsBack_iff.2 ⟨false, hu, ?_⟩
    rw [Option.getD_none, ofScaled, Scaled.reduce_reduce, ofReduced_reduce_expansion false hu hpos]

end Binary64

end LogAssay
