import LogAssay.Number.Scaled

/-!
# Binary floating point

The numbers of the 64-bit binary format, as exact quantities. Every finite number of the format is a
multiple of the unit `2⁻¹⁰⁷⁴`, with at most 53 significant binary digits and below `2¹⁰²⁴`, so a number is
given by its sign and a natural number of units. Zero has two signs. An operation computes its exact result
in units and rounds once: to the nearest number of the format, a tie to the one with an even significand.

## Main statements

* `significand_roundUnits`: rounding ends in the format, or at `2¹⁰²⁴` and beyond.
* `roundUnits_mul_self`: a number of the format is its own rounding.
-/

namespace LogAssay

/-- The units at which the format overflows: those in `2¹⁰²⁴`. -/
def Binary64.limit : Nat := 1 <<< 2098

theorem Binary64.limit_pos : 0 < Binary64.limit := by
  unfold Binary64.limit
  -- the power itself is never evaluated
  generalize 2098 = e
  rw [Nat.one_shiftLeft]
  exact Nat.two_pow_pos e

/-- A number of units that the format holds: at most 53 significant binary digits, below the overflow. -/
structure Representable (units : Nat) : Prop where
  significand : ∃ m e, m < 1 <<< 53 ∧ units = m <<< e
  bounded : units < Binary64.limit

/-- A 64-bit binary floating-point number. -/
inductive Binary64 where
  /-- The result of an operation without one. -/
  | nan
  /-- An infinity of either sign. -/
  | infinite (negative : Bool)
  /-- `units · 2⁻¹⁰⁷⁴` with its sign. -/
  | finite (negative : Bool) (units : Nat) (representable : Representable units)
  deriving DecidableEq

namespace Binary64

/-- The units in one. -/
def one : Nat := 1 <<< 1074

theorem one_pos : 0 < one := by
  unfold one
  rw [Nat.one_shiftLeft]
  exact Nat.two_pow_pos 1074

/-- The quotient rounded to the nearest natural number, a tie to the even one. -/
def divNearest (n d : Nat) : Nat :=
  let q := n / d
  let r := n % d
  if 2 * r < d then q
  else if d < 2 * r then q + 1
  else if q % 2 = 0 then q
  else q + 1

/-- The binary logarithm of the distance between the numbers of the format around `n / d` units. -/
def spacing (n d : Nat) : Nat := (n / d).log2 - 52

/-- `n / d` units rounded to 53 significant binary digits. -/
def roundUnits (n d : Nat) : Nat :=
  let e := spacing n d
  divNearest n (d <<< e) <<< e

theorem divNearest_le_succ (n d : Nat) : divNearest n d ≤ n / d + 1 := by
  simp only [divNearest]
  split
  · omega
  · split
    · omega
    · split <;> omega

theorem divNearest_mul_self (n : Nat) {d : Nat} (hd : 0 < d) : divNearest (n * d) d = n := by
  simp [divNearest, Nat.mul_div_cancel _ hd, hd]

/-- The quotient on the grid has at most 53 binary digits. -/
theorem div_spacing_lt (n d : Nat) : n / (d <<< spacing n d) < 1 <<< 53 := by
  rw [Nat.shiftLeft_eq, Nat.one_shiftLeft, ← Nat.div_div_eq_div_mul]
  apply Nat.div_lt_of_lt_mul
  by_cases h0 : n / d = 0
  · rw [h0]; exact Nat.mul_pos (Nat.two_pow_pos _) (Nat.two_pow_pos _)
  have hlog : n / d < 2 ^ ((n / d).log2 + 1) := Nat.lt_log2_self
  rw [← Nat.pow_add]
  exact Nat.lt_of_lt_of_le hlog (Nat.pow_le_pow_right (by decide) (by unfold spacing; omega))

/-- Rounding gives at most 53 significant binary digits. -/
theorem significand_roundUnits (n d : Nat) :
    ∃ m e, m < 1 <<< 53 ∧ roundUnits n d = m <<< e := by
  have hle := divNearest_le_succ n (d <<< spacing n d)
  have hlt := div_spacing_lt n d
  unfold roundUnits
  by_cases h : divNearest n (d <<< spacing n d) < 1 <<< 53
  · exact ⟨_, _, h, rfl⟩
  · have : divNearest n (d <<< spacing n d) = 1 <<< 53 := by omega
    refine ⟨1 <<< 52, 1 + spacing n d, by decide, ?_⟩
    simp only [this]
    rw [Nat.shiftLeft_add, ← Nat.shiftLeft_add 1 52 1]

/-- The grid around a number of the format contains it. -/
theorem shiftLeft_log2_dvd {u : Nat} (h : Representable u) : 1 <<< (u.log2 - 52) ∣ u := by
  obtain ⟨m, e, hm, rfl⟩ := h.significand
  rw [Nat.one_shiftLeft] at hm ⊢
  rw [Nat.shiftLeft_eq]
  by_cases h0 : m * 2 ^ e = 0
  · rw [h0]; exact Nat.dvd_zero _
  have : (m * 2 ^ e).log2 < e + 53 := by
    rw [Nat.log2_lt h0, Nat.pow_add, Nat.mul_comm]
    exact Nat.mul_lt_mul_of_pos_left hm (Nat.two_pow_pos e)
  exact Nat.dvd_trans (Nat.pow_dvd_pow 2 (by omega)) (Nat.dvd_mul_left _ _)

/-- A number of the format is its own rounding, whatever fraction it is given by. -/
theorem roundUnits_mul_self {u d : Nat} (hu : Representable u) (hd : 0 < d) :
    roundUnits (u * d) d = u := by
  have hs : spacing (u * d) d = u.log2 - 52 := by simp [spacing, Nat.mul_div_cancel _ hd]
  obtain ⟨k, hk⟩ := shiftLeft_log2_dvd hu
  unfold roundUnits
  rw [hs]
  generalize u.log2 - 52 = e at hk ⊢
  rw [Nat.one_shiftLeft] at hk
  have : u * d = k * (d <<< e) := by rw [hk, Nat.shiftLeft_eq]; ac_rfl
  have hgrid : 0 < d <<< e := by
    rw [Nat.shiftLeft_eq]
    exact Nat.mul_pos hd (Nat.two_pow_pos e)
  simp only
  rw [this, divNearest_mul_self _ hgrid, hk, Nat.shiftLeft_eq, Nat.mul_comm]

/-- `n / d` units with a sign, correctly rounded. -/
def ofUnits (negative : Bool) (n d : Nat) : Binary64 :=
  if h : roundUnits n d < limit then
    finite negative (roundUnits n d) ⟨significand_roundUnits n d, h⟩
  else infinite negative

def zero (negative : Bool) : Binary64 := finite negative 0 ⟨⟨0, 0, by decide, by simp⟩, limit_pos⟩

/-- The number nearest to an integer; infinite if the integer is too large. -/
def ofInt (i : Int) : Binary64 := ofUnits (decide (i < 0)) (i.natAbs * one) 1

/-- The number nearest to a reduced decimal. The two guards only save work: beyond them the result is
infinite or zero for certain. -/
def ofReduced (negative : Bool) (s : Scaled) : Binary64 :=
  if s.digits = 0 then zero negative
  else if 0 ≤ s.exponent then
    if s.exponent > 400 then infinite negative
    else ofUnits negative (s.digits * Nat.pow 10 s.exponent.toNat * one) 1
  else if s.exponent < -400 - (s.digits.log2 : Int) then zero negative
  else ofUnits negative (s.digits * one) (Nat.pow 10 (-s.exponent).toNat)

def ofScaled (negative : Bool) (s : Scaled) : Binary64 := ofReduced negative s.reduce

/-- The signed number of units of a finite number. -/
def signed (negative : Bool) (units : Nat) : Int := if negative then -units else units

/-- Where a number lies on the line; nothing for the number that is none. -/
inductive Place where
  | below
  | at (units : Int)
  | above
  deriving DecidableEq

def Place.lt : Place → Place → Bool
  | .below, .below => false
  | .below, _ => true
  | .at _, .below => false
  | .at a, .at b => decide (a < b)
  | .at _, .above => true
  | .above, _ => false

def place? : Binary64 → Option Place
  | nan => none
  | infinite negative => some (if negative then .below else .above)
  | finite negative units _ => some (.at (signed negative units))

/-- The place of an integer on the line. -/
def placeOfInt (i : Int) : Place := .at (i * one)

def abs : Binary64 → Binary64
  | nan => nan
  | infinite _ => infinite false
  | finite _ units h => finite false units h

/-- The difference of two numbers, rounded. Only a difference of zeros of different sign can be a negative
zero. -/
def sub : Binary64 → Binary64 → Binary64
  | nan, _ => nan
  | _, nan => nan
  | infinite a, infinite b => if a = b then nan else infinite a
  | infinite a, finite .. => infinite a
  | finite .., infinite b => infinite (!b)
  | finite a u _, finite b v _ =>
    let difference := signed a u - signed b v
    let negative := if difference = 0 then a && !b else decide (difference < 0)
    ofUnits negative difference.natAbs 1

/-- The number cut to an integer, toward zero; nothing if it has no integer part. -/
def truncate? : Binary64 → Option Int
  | finite negative units _ => some (signed negative (units / one))
  | _ => none

def isZero : Binary64 → Bool
  | finite _ units _ => units == 0
  | _ => false

end Binary64

end LogAssay
