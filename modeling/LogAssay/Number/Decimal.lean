/-!
# Decimal numerals

Natural numbers and integers in decimal notation, without leading zeros, and the value of a run of ASCII
digits. Reading a numeral gives back the number it was written for. Integers of more than 4300 digits have a
numeral like all others, but the library neither reads nor writes it.
-/

namespace LogAssay.Decimal

def digit (n : Nat) : Char := Char.ofNat (48 + n)

def digitValue (c : Char) : Nat := c.toNat - 48

/-- The shortest numeral of a natural number. -/
def ofNat (n : Nat) : List Char :=
  if n < 10 then [digit n] else ofNat (n / 10) ++ [digit (n % 10)]
termination_by n

/-- The shortest numeral of an integer, with a minus sign in front of a negative one. -/
def ofInt (i : Int) : List Char :=
  if i < 0 then '-' :: ofNat i.natAbs else ofNat i.natAbs

/-- The greatest number of digits of an integer that is read or written. -/
def maxDigits : Nat := 4300

/-- Whether an integer has no more digits than may be written. -/
def isWritable (i : Int) : Bool := decide ((ofNat i.natAbs).length ≤ maxDigits)

/-- The number that a run of ASCII digits denotes; leading zeros count for nothing. -/
def toNat (digits : List Char) : Nat :=
  digits.foldl (fun n c => 10 * n + digitValue c) 0

theorem digitValue_digit {n : Nat} (h : n < 10) : digitValue (digit n) = n := by
  have : ∀ m : Fin 10, digitValue (digit m) = m := by decide
  exact this ⟨n, h⟩

theorem isDigit_digit {n : Nat} (h : n < 10) : (digit n).isDigit = true := by
  have : ∀ m : Fin 10, (digit m).isDigit = true := by decide
  exact this ⟨n, h⟩

theorem toNat_append_singleton (s : List Char) (c : Char) :
    toNat (s ++ [c]) = 10 * toNat s + digitValue c := by
  simp [toNat]

/-- A numeral reads back as its number. -/
@[simp] theorem toNat_ofNat (n : Nat) : toNat (ofNat n) = n := by
  induction n using Nat.strongRecOn with
  | ind n ih =>
    unfold ofNat
    split
    · next h => simp [toNat, digitValue_digit h]
    · next h =>
      rw [toNat_append_singleton, ih (n / 10) (by omega), digitValue_digit (by omega)]
      omega

/-- A numeral consists of digits. -/
theorem isDigit_of_mem_ofNat {n : Nat} {c : Char} (h : c ∈ ofNat n) : c.isDigit = true := by
  induction n using Nat.strongRecOn with
  | ind n ih =>
    unfold ofNat at h
    split at h
    · next hn => simp only [List.mem_singleton] at h; subst h; exact isDigit_digit hn
    · next hn =>
      rcases List.mem_append.1 h with h | h
      · exact ih (n / 10) (by omega) h
      · simp only [List.mem_singleton] at h; subst h; exact isDigit_digit (by omega)

theorem ofNat_ne_nil (n : Nat) : ofNat n ≠ [] := by
  unfold ofNat
  split <;> simp

end LogAssay.Decimal

def Nat.numeral (n : Nat) : String := String.ofList (LogAssay.Decimal.ofNat n)

def Int.numeral (i : Int) : String := String.ofList (LogAssay.Decimal.ofInt i)
