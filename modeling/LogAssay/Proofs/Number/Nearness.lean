import LogAssay.Proofs.Number.Shortest
import LogAssay.Metadata.Agreement

/-!
# Rounding against a bound

What an operation gives is the number nearest to its exact result. So whether a rounded result lies below a number of
the format is decided by the exact one: by the point half-way to the number before, and there by which of the two is
even.

## Main statements

* `roundUnits_lt_shiftLeft_iff`: a rounded result lies below a number iff it does on the grid of this number.
* `roundUnits_lt_limit_iff`: which integers overflow.
* `isNear_float`, `isNear_int`: which numbers are within the tolerance, by their exact distance.
-/

namespace LogAssay.Binary64

/-! ## The order of rounded results -/

theorem div_le_divNearest (n d : Nat) : n / d ≤ divNearest n d := by
  simp only [divNearest]
  split
  · omega
  · split
    · omega
    · split <;> omega

/-- **A rounded quotient lies below a number iff the fraction lies before the point half-way to it**, or on this point
if the number is odd. -/
theorem divNearest_lt_iff (n : Nat) {d m : Nat} (hd : 0 < d) (hm : 0 < m) :
    divNearest n d < m ↔ if m % 2 = 1 then 2 * n ≤ (2 * m - 1) * d else 2 * n < (2 * m - 1) * d := by
  have hn : 2 * n = 2 * (n / d) * d + 2 * (n % d) := by
    have := Nat.div_add_mod n d
    rw [Nat.mul_assoc, Nat.mul_comm (n / d) d]
    omega
  have hr : n % d < d := Nat.mod_lt n hd
  rcases Nat.lt_trichotomy (n / d) (m - 1) with hlt | heq | hgt
  · -- the next number is not beyond the one before `m`
    have hle : divNearest n d ≤ n / d + 1 := divNearest_le_succ n d
    have hmul : (2 * (n / d) + 3) * d ≤ (2 * m - 1) * d := Nat.mul_le_mul_right d (by omega)
    rw [Nat.add_mul] at hmul
    have hbelow : 2 * n < (2 * m - 1) * d := by omega
    simp only [hbelow, Nat.le_of_lt hbelow, ite_self, iff_true]
    omega
  · have hmid : (2 * m - 1) * d = 2 * (n / d) * d + d := by
      rw [show 2 * m - 1 = 2 * (n / d) + 1 by omega, Nat.add_mul, Nat.one_mul]
    rw [hmid, hn]
    simp only [divNearest, heq]
    split_ifs <;> omega
  · have hle : n / d ≤ divNearest n d := div_le_divNearest n d
    have hmul : (2 * m) * d ≤ 2 * (n / d) * d := Nat.mul_le_mul_right d (by omega)
    have hpast : (2 * m - 1) * d < 2 * n := by
      have : (2 * m - 1) * d + d = 2 * m * d := by
        rw [← Nat.succ_mul]
        congr 1
        omega
      omega
    split_ifs <;> omega

theorem spacing_one (n : Nat) : spacing n 1 = n.log2 - 52 := by
  rw [spacing, Nat.div_one]

/-- **A rounded result lies below a number of the format iff it does on the grid of this number.** -/
theorem roundUnits_lt_shiftLeft_iff {m : Nat} (lower : 2 ^ 52 < m) (upper : m ≤ 2 ^ 53) (n e : Nat) :
    roundUnits n 1 < m <<< e ↔ divNearest n (1 <<< e) < m := by
  unfold roundUnits
  simp only [spacing_one, Nat.shiftLeft_eq, Nat.one_mul]
  have hlog : n < 2 ^ (n.log2 + 1) := Nat.lt_log2_self
  rcases Nat.lt_trichotomy (n.log2 - 52) e with hfine | heq | hcoarse
  · -- nothing on a finer grid reaches the power of two below `m`
    have hgrid : divNearest n (2 ^ (n.log2 - 52)) ≤ 2 ^ 53 := by
      have hquotient := div_spacing_lt n 1
      rw [spacing_one, Nat.shiftLeft_eq, Nat.one_mul, Nat.one_shiftLeft] at hquotient
      exact Nat.le_trans (divNearest_le_succ _ _) hquotient
    have hround : divNearest n (2 ^ (n.log2 - 52)) * 2 ^ (n.log2 - 52) < m * 2 ^ e :=
      calc divNearest n (2 ^ (n.log2 - 52)) * 2 ^ (n.log2 - 52)
          ≤ 2 ^ 53 * 2 ^ (n.log2 - 52) := Nat.mul_le_mul_right _ hgrid
        _ = 2 ^ (53 + (n.log2 - 52)) := (Nat.pow_add ..).symm
        _ ≤ 2 ^ (52 + e) := Nat.pow_le_pow_right (by decide) (by omega)
        _ = 2 ^ 52 * 2 ^ e := Nat.pow_add ..
        _ < m * 2 ^ e := Nat.mul_lt_mul_of_pos_right lower (Nat.two_pow_pos e)
    have hquotient : n / 2 ^ e < 2 ^ 52 := by
      rw [Nat.div_lt_iff_lt_mul (Nat.two_pow_pos e), ← Nat.pow_add]
      exact Nat.lt_of_lt_of_le hlog (Nat.pow_le_pow_right (by decide) (by omega))
    have hle := divNearest_le_succ n (2 ^ e)
    exact iff_of_true hround (by omega)
  · rw [heq]
    exact Nat.mul_lt_mul_right (Nat.two_pow_pos e)
  · -- everything on a coarser grid reaches the power of two above `m`
    have hpow : 2 ^ (52 + (n.log2 - 52)) ≤ n := by
      rw [show 52 + (n.log2 - 52) = n.log2 by omega]
      exact Nat.log2_self_le (by rintro rfl; simp at hcoarse)
    have hround : m * 2 ^ e ≤ divNearest n (2 ^ (n.log2 - 52)) * 2 ^ (n.log2 - 52) :=
      calc m * 2 ^ e ≤ 2 ^ 53 * 2 ^ e := Nat.mul_le_mul_right _ upper
        _ = 2 ^ (53 + e) := (Nat.pow_add ..).symm
        _ ≤ 2 ^ (52 + (n.log2 - 52)) := Nat.pow_le_pow_right (by decide) (by omega)
        _ = 2 ^ 52 * 2 ^ (n.log2 - 52) := Nat.pow_add ..
        _ ≤ divNearest n (2 ^ (n.log2 - 52)) * 2 ^ (n.log2 - 52) := by
          refine Nat.mul_le_mul_right _ (Nat.le_trans ?_ (div_le_divNearest _ _))
          rwa [Nat.le_div_iff_mul_le (Nat.two_pow_pos _), ← Nat.pow_add]
    have hquotient : 2 ^ 53 ≤ n / 2 ^ e := by
      rw [Nat.le_div_iff_mul_le (Nat.two_pow_pos e), ← Nat.pow_add]
      exact Nat.le_trans (Nat.pow_le_pow_right (by decide) (by omega)) hpow
    have hle := div_le_divNearest n (2 ^ e)
    exact iff_of_false (Nat.not_lt.2 hround) (by omega)

/-- Below an odd number the point half-way to it counts. -/
theorem roundUnits_lt_iff_of_odd {m : Nat} (lower : 2 ^ 52 < m) (upper : m ≤ 2 ^ 53) (odd : m % 2 = 1) (n e : Nat) :
    roundUnits n 1 < m <<< (e + 1) ↔ n ≤ (2 * m - 1) <<< e := by
  rw [roundUnits_lt_shiftLeft_iff lower upper, Nat.one_shiftLeft, divNearest_lt_iff _ (Nat.two_pow_pos _) (by omega),
    if_pos odd, Nat.pow_succ', Nat.mul_left_comm, Nat.shiftLeft_eq]
  exact Nat.mul_le_mul_left_iff (by decide)

/-- Below an even number the point half-way to it does not count. -/
theorem roundUnits_lt_iff_of_even {m : Nat} (lower : 2 ^ 52 < m) (upper : m ≤ 2 ^ 53) (even : m % 2 = 0) (n e : Nat) :
    roundUnits n 1 < m <<< (e + 1) ↔ n < (2 * m - 1) <<< e := by
  rw [roundUnits_lt_shiftLeft_iff lower upper, Nat.one_shiftLeft, divNearest_lt_iff _ (Nat.two_pow_pos _) (by omega),
    if_neg (by omega), Nat.pow_succ', Nat.mul_left_comm, Nat.shiftLeft_eq]
  exact Nat.mul_lt_mul_left (by decide)

/-! ## Integers -/

/-- The least natural number without a number nearest to it, `2¹⁰²⁴ - 2⁹⁷⁰`: the point half-way from the greatest number
of the format to the overflow. -/
def integerLimit : Nat := (1 <<< 54 - 1) <<< 970

theorem shiftLeft_mul_one_shiftLeft (m a b : Nat) : m <<< a * 1 <<< b = m <<< (a + b) := by
  rw [Nat.one_shiftLeft, ← Nat.shiftLeft_eq, ← Nat.shiftLeft_add]

/-- **An integer overflows iff it reaches the limit.** -/
theorem roundUnits_lt_limit_iff (k : Nat) : roundUnits (k * one) 1 < limit ↔ k < integerLimit := by
  have hlimit : limit = (2 ^ 53) <<< (2044 + 1) := Nat.shiftLeft_add 1 53 2045
  have hinteger : integerLimit * one = (2 * 2 ^ 53 - 1) <<< 2044 := shiftLeft_mul_one_shiftLeft _ 970 1074
  rw [hlimit, roundUnits_lt_iff_of_even (by decide) (by decide) (by decide), ← hinteger]
  exact Nat.mul_lt_mul_right one_pos

/-- An integer below the limit has a number nearest to it. -/
theorem ofInt_of_lt {i : Int} (h : i.natAbs < integerLimit) :
    ∃ hu, ofInt i = finite (decide (i < 0)) (roundUnits (i.natAbs * one) 1) hu := by
  have hlt := (roundUnits_lt_limit_iff i.natAbs).2 h
  rw [ofInt, ofUnits, dif_pos hlt]
  exact ⟨_, rfl⟩

theorem ofInt_of_le {i : Int} (h : integerLimit ≤ i.natAbs) : ofInt i = infinite (decide (i < 0)) := by
  have hnot : ¬ roundUnits (i.natAbs * one) 1 < limit := by
    rw [roundUnits_lt_limit_iff]
    exact Nat.not_lt.2 h
  rw [ofInt, ofUnits, dif_neg hnot]

/-- **An integer is brought to floating point unless it reaches the limit.** -/
theorem toBinary64_of_finite {i : Int} {negative : Bool} {units : Nat} {hu : Representable units}
    (h : ofInt i = finite negative units hu) : Value.toBinary64 (.int i) = .ok (finite negative units hu) := by
  rw [Value.toBinary64, h]
  rfl

theorem toBinary64_of_le {i : Int} (h : integerLimit ≤ i.natAbs) :
    Value.toBinary64 (.int i) = .error .integerRange := by
  rw [Value.toBinary64, ofInt_of_le h]
  rfl

/-! ## Numbers within the tolerance -/

/-- The greatest distance, in units, of two numbers that are within the tolerance. It reaches half-way from the number
of the format before the tolerance, whose significand is odd, to the tolerance. -/
def reach : Nat := (2 * 7737125245533627 - 1) <<< 987

/-- Numbers within reach are exactly within `10⁻¹⁰`. -/
theorem ten_pow_mul_reach_le : 10 ^ 10 * reach ≤ one := by
  have hshift : one = (1 <<< 87) <<< 987 := Nat.shiftLeft_add 1 87 987
  rw [reach, hshift]
  generalize 987 = e
  rw [Nat.shiftLeft_eq, Nat.shiftLeft_eq, ← Nat.mul_assoc]
  exact Nat.mul_le_mul_right _ (by decide)

theorem place_tolerance : Value.tolerance.place? = some (.at ((7737125245533627 <<< 988 : Nat) : Int)) := by
  decide +kernel

theorem tolerance_lt_limit : 7737125245533627 <<< 988 < limit := by decide +kernel

/-- A rounded distance is below the tolerance iff the exact one is within reach. -/
theorem roundUnits_lt_tolerance_iff (n : Nat) : roundUnits n 1 < 7737125245533627 <<< 988 ↔ n ≤ reach :=
  roundUnits_lt_iff_of_odd (by decide) (by decide) (by decide) n 987

/-- Without its sign, a rounded result stands at its units, or beyond all numbers. -/
theorem place_abs_ofUnits (negative : Bool) (n : Nat) : (Quantity.float (ofUnits negative n 1).abs).place?
    = some (if roundUnits n 1 < limit then .at (roundUnits n 1) else .above) := by
  unfold ofUnits
  split_ifs <;> rfl

theorem abs_ofUnits_lt_tolerance (negative : Bool) (n : Nat) :
    (Quantity.float (ofUnits negative n 1).abs).lt (.float Value.tolerance) = decide (n ≤ reach) := by
  have htolerance : (Quantity.float Value.tolerance).place? = some (.at ((7737125245533627 <<< 988 : Nat) : Int)) :=
    place_tolerance
  have hiff := roundUnits_lt_tolerance_iff n
  have hlimit := tolerance_lt_limit
  unfold Quantity.lt
  rw [htolerance, place_abs_ofUnits]
  generalize 7737125245533627 <<< 988 = tolerance at hiff hlimit ⊢
  by_cases h : roundUnits n 1 < limit
  · simp only [if_pos h, Place.lt, Int.ofNat_lt, hiff]
  · have hbeyond : ¬ n ≤ reach := fun hle => h (Nat.lt_trans (hiff.2 hle) hlimit)
    simp only [if_neg h, Place.lt, hbeyond, decide_false]

variable {a b : Bool} {p q : Nat}

/-- **Two numbers are within the tolerance iff their exact distance is within reach.** -/
theorem isNear_float (hp : Representable p) (hq : Representable q) :
    Value.isNear (.float (finite a p hp)) (finite b q hq)
      = .ok (decide ((signed a p - signed b q).natAbs ≤ reach)) := by
  have hnear := abs_ofUnits_lt_tolerance
    (if signed a p - signed b q = 0 then a && !b else decide (signed a p - signed b q < 0))
    (signed a p - signed b q).natAbs
  rw [← hnear]
  rfl

/-! ## Integers within the tolerance -/

/-- A number of the format lies on the grid of every binade that it reaches. -/
theorem shiftLeft_dvd_of_le {e : Nat} (hq : Representable q) (h : 1 <<< (52 + e) ≤ q) : 1 <<< e ∣ q := by
  have hgrid := shiftLeft_log2_dvd hq
  rw [Nat.one_shiftLeft] at hgrid h ⊢
  have hne : q ≠ 0 := Nat.ne_of_gt (Nat.lt_of_lt_of_le (Nat.two_pow_pos _) h)
  have hlog : 52 + e ≤ q.log2 := (Nat.le_log2 hne).2 h
  exact Nat.dvd_trans (Nat.pow_dvd_pow 2 (by omega)) hgrid

theorem shiftLeft_mul_one (m : Nat) : m * one = m <<< 1074 := by
  have h := shiftLeft_mul_one_shiftLeft m 0 1074
  rwa [Nat.shiftLeft_zero, Nat.zero_add] at h

/-- Large numbers of the format are whole. -/
theorem one_dvd_of_le (hq : Representable q) (h : 1 <<< 52 * one ≤ q) : one ∣ q := by
  refine shiftLeft_dvd_of_le hq ?_
  rwa [Nat.shiftLeft_add, ← shiftLeft_mul_one]

/-- An integer of at most 53 binary digits is a number of the format. -/
theorem representable_of_lt {k : Nat} (h : k < 1 <<< 53) : Representable (k * one) := by
  refine ⟨⟨k, 1074, h, shiftLeft_mul_one k⟩, ?_⟩
  have hle : 1 <<< 53 * one ≤ limit := by decide +kernel
  exact Nat.lt_of_lt_of_le (Nat.mul_lt_mul_of_pos_right h one_pos) hle

/-- A larger integer is rounded to a large whole number. -/
theorem le_roundUnits_of_le {k : Nat} (h : 1 <<< 53 ≤ k) : 1 <<< 53 * one ≤ roundUnits (k * one) 1 := by
  have hself : divNearest (k * one) (1 <<< 1074) = k := divNearest_mul_self k one_pos
  rw [shiftLeft_mul_one (1 <<< 53), ← Nat.not_lt, roundUnits_lt_shiftLeft_iff (by decide) (by decide), hself]
  exact Nat.not_lt.2 h

theorem reach_lt_one : reach < one := by
  have hle := ten_pow_mul_reach_le
  have hpos := one_pos
  omega

theorem natAbs_signed (negative : Bool) (units : Nat) : (signed negative units).natAbs = units := by
  cases negative <;> simp [signed]

theorem one_dvd_signed (negative : Bool) {units : Nat} (h : one ∣ units) : (one : Int) ∣ signed negative units := by
  rw [← Int.natAbs_dvd_natAbs, natAbs_signed]
  exact h

/-- **Near a large whole number, only the number itself is of the format.** -/
theorem near_whole_iff {m : Nat} (hq : Representable q) (whole : one ∣ m) (large : 1 <<< 53 * one ≤ m) :
    (signed a m - signed b q).natAbs ≤ reach ↔ signed a m = signed b q := by
  have hreach := reach_lt_one
  constructor
  · intro hnear
    have hlarge : 1 <<< 52 * one ≤ q := by
      have hm := natAbs_signed a m
      have hb := natAbs_signed b q
      omega
    have hdvd : (one : Int) ∣ signed a m - signed b q :=
      Int.dvd_sub (one_dvd_signed a whole) (one_dvd_signed b (one_dvd_of_le hq hlarge))
    have hzero := Int.eq_zero_of_dvd_of_natAbs_lt_natAbs hdvd (by rw [Int.natAbs_natCast]; omega)
    omega
  · intro heq
    rw [heq, Int.sub_self]
    exact Nat.zero_le _

theorem roundUnits_self {units : Nat} (h : Representable units) : roundUnits units 1 = units := by
  have hself := roundUnits_mul_self h Nat.one_pos
  rwa [Nat.mul_one] at hself

/-- An integer is rounded to a whole number. -/
theorem one_dvd_roundUnits {k : Nat} (h : Representable (roundUnits (k * one) 1)) : one ∣ roundUnits (k * one) 1 := by
  by_cases hk : k < 1 <<< 53
  · rw [roundUnits_self (representable_of_lt hk)]
    exact Nat.dvd_mul_left one k
  · have hlarge := le_roundUnits_of_le (Nat.not_lt.1 hk)
    exact one_dvd_of_le h (Nat.le_trans (Nat.mul_le_mul_right _ (by decide)) hlarge)

/-- **What is near the rounding of an integer** is near the integer, or is this rounding itself. -/
theorem near_rounded_iff {k : Nat} (hround : Representable (roundUnits (k * one) 1)) (hq : Representable q) :
    (signed a (roundUnits (k * one) 1) - signed b q).natAbs ≤ reach ↔
      (signed a (k * one) - signed b q).natAbs ≤ reach ∨ signed a (roundUnits (k * one) 1) = signed b q := by
  by_cases hk : k < 1 <<< 53
  · -- the integer is of the format
    rw [roundUnits_self (representable_of_lt hk)]
    refine ⟨.inl, fun h => h.elim id fun heq => ?_⟩
    rw [heq, Int.sub_self]
    exact Nat.zero_le _
  · have hlarge := Nat.not_lt.1 hk
    rw [near_whole_iff hq (one_dvd_roundUnits hround) (le_roundUnits_of_le hlarge),
      near_whole_iff hq (Nat.dvd_mul_left one k) (Nat.mul_le_mul_right _ hlarge)]
    refine ⟨.inr, fun h => h.elim (fun heq => ?_) id⟩
    -- the integer is where the other number is, so it is of the format too
    have hunits : k * one = q := by
      rw [← natAbs_signed a (k * one), heq, natAbs_signed]
    rw [roundUnits_self (hunits ▸ hq), heq]

/-- An integer in units, by its sign and its size. -/
theorem mul_one_eq_signed (i : Int) : i * one = signed (decide (i < 0)) (i.natAbs * one) := by
  by_cases hneg : i < 0
  · rw [decide_eq_true hneg, signed, if_pos rfl, Nat.cast_mul, ← Int.neg_mul]
    congr 1
    omega
  · rw [decide_eq_false hneg, signed, if_neg Bool.false_ne_true, Nat.cast_mul]
    congr 1
    omega

/-- **An integer and a number are within the tolerance iff their exact distance is within reach**, or if the number is
the one that the integer is rounded to. An integer that reaches the limit is refused. -/
theorem isNear_int (i : Int) (hq : Representable q) : Value.isNear (.int i) (finite b q hq) =
    if integerLimit ≤ i.natAbs then .error .integerRange
    else .ok (decide ((i * one - signed b q).natAbs ≤ reach ∨ (ofInt i).place? = some (.at (signed b q)))) := by
  by_cases hlimit : integerLimit ≤ i.natAbs
  · rw [if_pos hlimit, Value.isNear, toBinary64_of_le hlimit]
    rfl
  · obtain ⟨hu, hi⟩ := ofInt_of_lt (Nat.not_le.1 hlimit)
    have hplace : (ofInt i).place? = some (.at (signed b q)) ↔
        signed (decide (i < 0)) (roundUnits (i.natAbs * one) 1) = signed b q := by
      rw [hi, place?, Option.some.injEq, Place.at.injEq]
    have hfloat : Value.isNear (.int i) (finite b q hq)
        = Value.isNear (.float (finite (decide (i < 0)) (roundUnits (i.natAbs * one) 1) hu)) (finite b q hq) := by
      rw [Value.isNear, toBinary64_of_finite hi]
      rfl
    rw [if_neg hlimit, hfloat, isNear_float hu hq, mul_one_eq_signed]
    simp only [near_rounded_iff hu hq, hplace]

/-- The number nearest to an integer is whole. -/
theorem one_dvd_of_place_ofInt {i units : Int} (h : (ofInt i).place? = some (.at units)) : (one : Int) ∣ units := by
  by_cases hlimit : integerLimit ≤ i.natAbs
  · rw [ofInt_of_le hlimit, place?] at h
    split at h <;> cases h
  · obtain ⟨hu, hi⟩ := ofInt_of_lt (Nat.not_le.1 hlimit)
    rw [hi, place?, Option.some.injEq, Place.at.injEq] at h
    rw [← h]
    exact one_dvd_signed _ (one_dvd_roundUnits hu)

end LogAssay.Binary64
