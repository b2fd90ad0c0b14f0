import LogAssay.Number.Decimal

/-!
# Decimals with an exponent

A decimal is a natural number of digits times a power of ten. One value has many such forms, and the
reduced form, without trailing zeros, stands for all of them. Notation is positional while the first digit
is worth between `10⁻⁴` and `10¹⁵`, and has an exponent of at least two digits otherwise.
-/

namespace LogAssay

/-- The decimal `digits · 10^exponent`. -/
structure Scaled where
  digits : Nat
  exponent : Int
  deriving DecidableEq

namespace Scaled

/-- The decimal with its trailing zeros moved into the exponent. -/
def reduce (s : Scaled) : Scaled :=
  if s.digits ≠ 0 ∧ s.digits % 10 = 0 then reduce ⟨s.digits / 10, s.exponent + 1⟩ else s
termination_by s.digits
decreasing_by omega

theorem reduce_of_zeros {s : Scaled} (h : s.digits ≠ 0 ∧ s.digits % 10 = 0) :
    s.reduce = reduce ⟨s.digits / 10, s.exponent + 1⟩ := by
  rw [reduce, if_pos h]

theorem reduce_of_no_zeros {s : Scaled} (h : ¬(s.digits ≠ 0 ∧ s.digits % 10 = 0)) :
    s.reduce = s := by
  rw [reduce, if_neg h]

/-- A trailing zero can be moved into the exponent first. -/
theorem reduce_mul_ten {digits : Nat} (exponent : Int) (h : digits ≠ 0) :
    reduce ⟨digits * 10, exponent⟩ = reduce ⟨digits, exponent + 1⟩ := by
  rw [reduce_of_zeros ⟨by simp only; omega, by simp only; omega⟩]
  simp

/-- A reduced decimal is its own reduced form. -/
@[simp] theorem reduce_reduce (s : Scaled) : s.reduce.reduce = s.reduce := by
  induction s using reduce.induct with
  | case1 s h ih => rw [reduce_of_zeros h, ih]
  | case2 s h => simp only [reduce_of_no_zeros h]

/-- The text of the digits with the point behind the first `point` of them, in the notation that its
position calls for. -/
def layout (digits : List Char) (point : Int) : List Char :=
  if -4 < point ∧ point ≤ 16 then
    if point ≤ 0 then '0' :: '.' :: List.replicate (-point).toNat '0' ++ digits
    else if digits.length ≤ point.toNat then
      digits ++ List.replicate (point.toNat - digits.length) '0' ++ ['.', '0']
    else digits.take point.toNat ++ '.' :: digits.drop point.toNat
  else
    let mantissa := match digits with
      | [] => []
      | [d] => [d]
      | d :: others => d :: '.' :: others
    let exponent := point - 1
    let sign := if exponent < 0 then '-' else '+'
    let places := Decimal.ofNat exponent.natAbs
    mantissa ++ 'e' :: sign :: List.replicate (2 - places.length) '0' ++ places

def text (s : Scaled) : List Char :=
  let digits := Decimal.ofNat s.digits
  layout digits (digits.length + s.exponent)

end Scaled

end LogAssay
