import LogAssay.Value
import Mathlib.Data.Int.ConditionallyCompleteOrder
import Mathlib.Order.ConditionallyCompleteLattice.Basic
import Mathlib.Order.WithBot

/-!
# Comparing numbers

Numbers of all kinds compare by their places on one line: the whole numbers of units, with an end on either side for the
infinities. So two numbers compare as their exact values do, whatever their kinds. The number that is none has no place:
it is neither below nor above any number, and not equal to itself.

## Main statements

* `lt_iff`, `le_iff`: comparing is comparing positions on the line.
* `le_eq_false_iff`: a number does not reach another one iff it lies below it, or one of them is none.
-/

namespace LogAssay

open Binary64 (Place)

/-- The position of a place on the line. -/
def Binary64.Place.position : Place → WithBot (WithTop Int)
  | .below => ⊥
  | .at units => ((units : WithTop Int) : WithBot (WithTop Int))
  | .above => ((⊤ : WithTop Int) : WithBot (WithTop Int))

theorem Binary64.Place.position_injective {p q : Place} (h : p.position = q.position) : p = q := by
  cases p <;> cases q <;> simp_all [position]

theorem Binary64.Place.lt_iff {p q : Place} : p.lt q = true ↔ p.position < q.position := by
  cases p with
  | below => cases q <;> simp [lt, position]
  | above => cases q <;> simp [lt, position]
  | «at» units =>
    cases q with
    | below => simp [lt, position]
    | «at» units' => simp [lt, position]
    | above => exact iff_of_true rfl (WithBot.coe_lt_coe.2 (WithTop.coe_lt_top units))

namespace Quantity

variable {a b c : Quantity}

/-- Whether a quantity is a number, and so has a place. -/
def isNumber (a : Quantity) : Bool := a.place?.isSome

/-! ## Comparing positions -/

/-- **A number is below another one iff its position is.** -/
theorem lt_iff : a.lt b = true ↔
    ∃ p q, a.place? = some p ∧ b.place? = some q ∧ p.position < q.position := by
  unfold lt
  cases a.place? with
  | none => simp
  | some p =>
    cases b.place? with
    | none => simp
    | some q => simp [Place.lt_iff]

theorem eq_iff : a.eq b = true ↔ ∃ p, a.place? = some p ∧ b.place? = some p := by
  unfold eq
  cases a.place? with
  | none => simp
  | some p =>
    cases b.place? with
    | none => simp
    | some q =>
      simp only [beq_iff_eq, Option.some.injEq]
      exact ⟨fun h => ⟨p, rfl, h.symm⟩, fun ⟨r, hp, hq⟩ => hp.trans hq.symm⟩

/-- **A number reaches another one iff its position does.** -/
theorem le_iff : a.le b = true ↔
    ∃ p q, a.place? = some p ∧ b.place? = some q ∧ p.position ≤ q.position := by
  unfold le
  rw [Bool.or_eq_true, lt_iff, eq_iff]
  constructor
  · rintro (⟨p, q, hp, hq, hlt⟩ | ⟨p, hp, hq⟩)
    · exact ⟨p, q, hp, hq, hlt.le⟩
    · exact ⟨p, p, hp, hq, le_rfl⟩
  · rintro ⟨p, q, hp, hq, hle⟩
    rcases hle.lt_or_eq with hlt | heq
    · exact .inl ⟨p, q, hp, hq, hlt⟩
    · exact .inr ⟨p, hp, by rw [hq, Place.position_injective heq]⟩

theorem le_iff_of_places {p q : Place} (hp : a.place? = some p) (hq : b.place? = some q) :
    a.le b = true ↔ p.position ≤ q.position := by
  rw [le_iff, hp, hq]
  simp

/-! ## Order -/

theorem lt_trans (hab : a.lt b = true) (hbc : b.lt c = true) : a.lt c = true := by
  obtain ⟨p, q, hp, hq, hpq⟩ := lt_iff.1 hab
  obtain ⟨q', r, hq', hr, hqr⟩ := lt_iff.1 hbc
  obtain rfl := Option.some.inj (hq.symm.trans hq')
  exact lt_iff.2 ⟨p, r, hp, hr, hpq.trans hqr⟩

theorem le_trans (hab : a.le b = true) (hbc : b.le c = true) : a.le c = true := by
  obtain ⟨p, q, hp, hq, hpq⟩ := le_iff.1 hab
  obtain ⟨q', r, hq', hr, hqr⟩ := le_iff.1 hbc
  obtain rfl := Option.some.inj (hq.symm.trans hq')
  exact le_iff.2 ⟨p, r, hp, hr, hpq.trans hqr⟩

theorem le_of_lt (h : a.lt b = true) : a.le b = true := by
  rw [le, h, Bool.true_or]

theorem le_refl (h : a.isNumber = true) : a.le a = true := by
  obtain ⟨p, hp⟩ := Option.isSome_iff_exists.1 h
  exact le_iff.2 ⟨p, p, hp, hp, le_rfl⟩

theorem isNumber_of_lt (h : a.lt b = true) : a.isNumber = true ∧ b.isNumber = true := by
  obtain ⟨p, q, hp, hq, -⟩ := lt_iff.1 h
  rw [isNumber, isNumber, hp, hq]
  exact ⟨rfl, rfl⟩

theorem isNumber_of_le (h : a.le b = true) : a.isNumber = true ∧ b.isNumber = true := by
  obtain ⟨p, q, hp, hq, -⟩ := le_iff.1 h
  rw [isNumber, isNumber, hp, hq]
  exact ⟨rfl, rfl⟩

/-- **A number does not reach another one iff it lies below it**, unless one of them is none. -/
theorem le_eq_false_iff : b.le a = false ↔ a.lt b = true ∨ a.isNumber = false ∨ b.isNumber = false := by
  rw [← Bool.not_eq_true, le_iff, lt_iff, isNumber, isNumber]
  cases ha : a.place? with
  | none => simp
  | some p =>
    cases hb : b.place? with
    | none => simp
    | some q => simp

/-! ## Integers -/

theorem eq_int {i j : Int} : (int i).eq (int j) = true ↔ i = j := by
  have hone : (Binary64.one : Int) ≠ 0 := Int.natCast_ne_zero.2 (Nat.ne_of_gt Binary64.one_pos)
  rw [eq_iff]
  constructor
  · rintro ⟨p, hi, hj⟩
    have hplaces : Place.at (i * Binary64.one) = .at (j * Binary64.one) :=
      (Option.some.inj hi).trans (Option.some.inj hj).symm
    exact Int.eq_of_mul_eq_mul_right hone (Place.at.inj hplaces)
  · rintro rfl
    exact ⟨_, rfl, rfl⟩

theorem le_int {i j : Int} : (int i).le (int j) = true ↔ i ≤ j := by
  have hone : (0 : Int) < Binary64.one := Int.natCast_pos.2 Binary64.one_pos
  have hposition : (int i).le (int j) = true ↔
      (Place.at (i * Binary64.one)).position ≤ (Place.at (j * Binary64.one)).position :=
    le_iff_of_places rfl rfl
  rw [hposition, Place.position, Place.position, WithBot.coe_le_coe, WithTop.coe_le_coe]
  exact Int.mul_le_mul_iff_of_pos_right hone

end Quantity

end LogAssay
