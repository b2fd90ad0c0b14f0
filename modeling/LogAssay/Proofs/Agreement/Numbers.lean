import LogAssay.Proofs.Number.Nearness

/-!
# Agreement of numbers

Numbers of all kinds and sizes are compared by their exact values, and a floating-point number that is expected is met
by what lies within `10⁻¹⁰` of it. There is one exception, an integer that is compared with a floating-point number:
it is brought to floating point first. So it is refused if it is too large for that, and it agrees with the number
that it is rounded to, although it is another one.

## Main statements

* `agrees_of_comparison_ne`: values of different classes do not agree.
* `agrees_integer`, `agrees_finite`: agreement of two numbers by their exact values, and when it is refused.
* `agreement_exact_iff`: exactly when agreement is as exact as it should be.
-/

namespace LogAssay.Value

open Binary64 (one reach integerLimit signed)

/-! ## Classes -/

/-- The class in which a value is compared. -/
inductive Class where
  | truth
  | number
  | other
  deriving DecidableEq

def comparison : Value → Class
  | scalar (.bool _) => .truth
  | scalar (.int _) => .number
  | scalar (.float _) => .number
  | _ => .other

theorem comparison_of_number? {v : Value} {q : Quantity} (h : v.number? = some q) : v.comparison = .number := by
  unfold number? at h
  split at h
  · rfl
  · rfl
  · cases h

theorem comparison_of_not_isNumeric {v : Value} (h : v.isNumeric = false) : v.comparison = .other := by
  unfold isNumeric at h
  split at h
  · rfl
  · cases h
  · next hs =>
    cases v with
    | scalar s => exact absurd rfl (hs s)
    | _ => rfl

/-- **Values of different classes do not agree.** -/
theorem agrees_of_comparison_ne {actual expected : Value} (h : actual.comparison ≠ expected.comparison) :
    actual.agrees expected = .ok false := by
  unfold agrees
  split
  · split
    · exact absurd rfl h
    · rfl
  · split
    · next hnumber => exact absurd (comparison_of_number? hnumber) h
    · rfl
  · split
    · next hnumber => exact absurd (comparison_of_number? hnumber) h
    · rfl
  · next hbool hint hfloat =>
    have hother : expected.comparison = .other := by
      unfold comparison
      split
      · exact absurd rfl (hbool _)
      · exact absurd rfl (hint _)
      · exact absurd rfl (hfloat _)
      · rfl
    split
    · rfl
    · next hnot => exact absurd (comparison_of_not_isNumeric (Bool.not_eq_true _ ▸ hnot)) (hother ▸ h)

/-! ## Places -/

/-- A value is a number at some units: an integer of any size, or a finite floating-point number. -/
inductive IsAt : Value → Int → Prop where
  | int (i : Int) : IsAt (.int i) (i * one)
  | float (negative : Bool) {units : Nat} (h : Representable units) :
    IsAt (.float (.finite negative units h)) (signed negative units)

/-- Whether a value is an integer that is too large to be brought to floating point. -/
def isTooLarge : Value → Bool
  | scalar (.int i) => decide (integerLimit ≤ i.natAbs)
  | _ => false

/-- Whether a value is an integer that is rounded to the number at some units. -/
def roundsTo : Value → Int → Bool
  | scalar (.int i), units => decide ((Binary64.ofInt i).place? = some (.at units))
  | _, _ => false

variable {actual expected : Value} {u v : Int}

/-- An expected integer is met by the same number and by no other one. -/
theorem agrees_integer (h : actual.IsAt u) (j : Int) : actual.agrees (.int j) = .ok (decide (u = j * one)) := by
  have heq : ∀ q : Quantity, q.place? = some (.at u) → q.eq (.int j) = decide (u = j * one) := by
    intro q hq
    unfold Quantity.eq
    rw [hq]
    refine decide_eq_decide.2 ?_
    rw [Binary64.placeOfInt, Binary64.Place.at.injEq]
  cases h with
  | int i => exact congrArg _ (heq (.int i) rfl)
  | float negative hp => exact congrArg _ (heq (.float (.finite negative _ hp)) rfl)

/-- **An expected floating-point number is met by what is within reach of it**, and by an integer that is rounded to
it. -/
theorem agrees_finite (h : actual.IsAt u) {b : Bool} {q : Nat} (hq : Representable q) :
    actual.agrees (.float (.finite b q hq)) = if actual.isTooLarge then .error .integerRange
      else .ok (decide ((u - signed b q).natAbs ≤ reach ∨ actual.roundsTo (signed b q) = true)) := by
  cases h with
  | int i =>
    have hnear := Binary64.isNear_int (b := b) i hq
    have hagrees : (Value.int i).agrees (.float (.finite b q hq)) = isNear (.int i) (.finite b q hq) := rfl
    rw [hagrees, hnear]
    simp only [isTooLarge, roundsTo, decide_eq_true_eq]
  | float negative hp =>
    have hnear := Binary64.isNear_float (a := negative) (b := b) hp hq
    have hagrees : (Value.float (.finite negative _ hp)).agrees (.float (.finite b q hq))
        = isNear (.float (.finite negative _ hp)) (.finite b q hq) := rfl
    rw [hagrees, hnear]
    simp only [isTooLarge, roundsTo, Bool.false_eq_true, if_false, or_false]

/-! ## Exactness -/

/-- Two numbers are compared without fail, an expected integer exactly, and an expected floating-point number agrees
only with what is exactly within `10⁻¹⁰` of it. -/
def AgreesExactly (actual expected : Value) (u v : Int) : Prop :=
  ∃ agreed, actual.agrees expected = .ok agreed ∧ (agreed = true → 10 ^ 10 * (u - v).natAbs ≤ one) ∧
    ∀ j, expected = .int j → (agreed = true ↔ u = v)

theorem IsAt.one_dvd_of_roundsTo (h : actual.IsAt u) (hround : actual.roundsTo v = true) :
    (one : Int) ∣ u ∧ (one : Int) ∣ v := by
  cases h with
  | int i => exact ⟨Int.dvd_mul_left i one, Binary64.one_dvd_of_place_ofInt (of_decide_eq_true hround)⟩
  | float => cases hround

/-- An integer is not within `10⁻¹⁰` of another whole number. -/
theorem IsAt.eq_of_roundsTo (h : actual.IsAt u) (hround : actual.roundsTo v = true)
    (hnear : 10 ^ 10 * (u - v).natAbs ≤ one) : u = v := by
  obtain ⟨hu, hv⟩ := h.one_dvd_of_roundsTo hround
  have hpos := Binary64.one_pos
  have hzero := Int.eq_zero_of_dvd_of_natAbs_lt_natAbs (Int.dvd_sub hu hv) (by rw [Int.natAbs_natCast]; omega)
  omega

/-- **Agreement of numbers is exact but for integers that are rounded.** Values of different classes do not agree. An
integer is expected exactly. With an expected floating-point number an integer is refused if it is too large, and of
the other numbers those agree that are within reach, and integers that are rounded to it; so exactly these two kinds
of integers are the exceptions. -/
theorem agreement_exact_iff (actual expected : Value) :
    (actual.comparison ≠ expected.comparison → actual.agrees expected = .ok false) ∧
    ∀ u v : Int, actual.IsAt u → expected.IsAt v →
      (∀ j, expected = .int j → actual.agrees expected = .ok (decide (u = v))) ∧
      (∀ y, expected = .float y → actual.agrees expected = if actual.isTooLarge then .error .integerRange
        else .ok (decide ((u - v).natAbs ≤ reach ∨ actual.roundsTo v = true))) ∧
      (actual.AgreesExactly expected u v ↔
        ∀ y, expected = .float y → actual.isTooLarge = false ∧ (actual.roundsTo v = true → u = v)) := by
  refine ⟨agrees_of_comparison_ne, fun u v ha he => ?_⟩
  cases he with
  | int j =>
    have hagrees := agrees_integer ha j
    refine ⟨fun _ _ => hagrees, fun y hy => (by cases hy), ⟨fun _ y hy => (by cases hy), fun _ => ?_⟩⟩
    refine ⟨_, hagrees, fun heq => ?_, fun _ _ => decide_eq_true_iff⟩
    rw [of_decide_eq_true heq, Int.sub_self]
    exact Nat.zero_le _
  | @float b q hq =>
    have hagrees := agrees_finite (b := b) ha hq
    refine ⟨fun j hj => (by cases hj), fun _ _ => hagrees, ⟨fun hexact y _ => ?_, fun hnone => ?_⟩⟩
    · obtain ⟨agreed, hagreed, hdistance, -⟩ := hexact
      rw [hagrees] at hagreed
      cases hlarge : actual.isTooLarge with
      | true =>
        rw [hlarge] at hagreed
        cases hagreed
      | false =>
        rw [hlarge] at hagreed
        refine ⟨rfl, fun hround => ha.eq_of_roundsTo hround (hdistance ?_)⟩
        rw [← Except.ok.inj hagreed]
        exact decide_eq_true (.inr hround)
    · obtain ⟨hlarge, hround⟩ := hnone _ rfl
      rw [hlarge] at hagrees
      refine ⟨_, hagrees, fun hagreed => ?_, fun j hj => (by cases hj)⟩
      rcases of_decide_eq_true hagreed with hnear | hrounded
      · exact Nat.le_trans (Nat.mul_le_mul_left _ hnear) Binary64.ten_pow_mul_reach_le
      · rw [hround hrounded, Int.sub_self]
        exact Nat.zero_le _

/-- `2⁵³` as a floating-point number. -/
def wide : Binary64 := .finite false (1 <<< 1127) ⟨⟨1, 1127, by decide, rfl⟩, by decide +kernel⟩

/-- The number agrees exactly with the integer that it is, and not with the next one, which is rounded to it. -/
theorem agreement_exact_iff_wide :
    (Value.int 0x20000000000000).IsAt (0x20000000000000 * one) ∧
      (Value.int 0x20000000000001).IsAt (0x20000000000001 * one) ∧
      (Value.float wide).IsAt (signed false (1 <<< 1127)) ∧
      (Value.int 0x20000000000000).AgreesExactly (.float wide) (0x20000000000000 * one) (signed false (1 <<< 1127)) ∧
      ¬ (Value.int 0x20000000000001).AgreesExactly (.float wide) (0x20000000000001 * one)
        (signed false (1 <<< 1127)) := by
  have hwide : (Value.float wide).IsAt (signed false (1 <<< 1127)) := .float _ _
  obtain ⟨-, -, hsame⟩ := (agreement_exact_iff _ _).2 _ _ (.int 0x20000000000000) hwide
  obtain ⟨-, -, hnext⟩ := (agreement_exact_iff _ _).2 _ _ (.int 0x20000000000001) hwide
  refine ⟨.int _, .int _, hwide, hsame.2 fun y _ => ⟨by decide +kernel, fun _ => by decide +kernel⟩, fun hexact => ?_⟩
  exact absurd ((hnext.1 hexact wide rfl).2 (by decide +kernel)) (by decide +kernel)

/-- An integer agrees with another number, and one is refused. -/
theorem not_agrees_exactly_wide :
    (Value.int 0x20000000000001).agrees (.float wide) = .ok true ∧
      (0x20000000000001 * one : Int) ≠ signed false (1 <<< 1127) ∧
      (Value.int (10 ^ 400)).agrees (.float wide) = .error .integerRange := by
  have hwide : Representable (1 <<< 1127) := ⟨⟨1, 1127, by decide, rfl⟩, by decide +kernel⟩
  have hnext := agrees_finite (b := false) (.int 0x20000000000001) hwide
  have hlarge := agrees_finite (b := false) (.int (10 ^ 400)) hwide
  rw [if_neg (by decide +kernel)] at hnext
  rw [if_pos (by decide +kernel)] at hlarge
  exact ⟨hnext.trans (congrArg _ (decide_eq_true (.inr (by decide +kernel)))), by decide +kernel, hlarge⟩

end LogAssay.Value
