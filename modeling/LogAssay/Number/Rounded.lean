import LogAssay.Number.Shortest
import LogAssay.Text.Hex

/-!
# Numbers with a chosen number of digits

A number is written with so many decimals, or with so many significant digits and an exponent, or in the shorter of
these two forms. The decimal expansion of a finite number is finite, so it is rounded once, a tie to the even last
digit.
-/

namespace LogAssay.Binary64

/-- How a number is written. -/
inductive Form where
  /-- With so many decimals. -/
  | decimals
  /-- With one digit in front of the point, so many decimals, and an exponent. -/
  | exponent
  /-- With so many significant digits, and with an exponent if there are more places than that. -/
  | general
  deriving DecidableEq

/-- The digits in front of the point and the decimals of a number of units. -/
def roundedDecimals (units decimals : Nat) : List Char × List Char :=
  let digits := Text.padded (decimals + 1) (Decimal.ofNat (divNearest (units * Nat.pow 10 decimals) one))
  digits.splitAt (digits.length - decimals)

/-- The significant digits of a number of units, and the exponent of the first one. -/
def roundedDigits (units count : Nat) : List Char × Int :=
  if units = 0 then (List.replicate count '0', 0)
  else
    let whole := (expansion units).digits
    let length := (Decimal.ofNat whole).length
    let n := divNearest (whole * Nat.pow 10 (count - length)) (Nat.pow 10 (length - count))
    let first := (length : Int) - 1075
    -- rounding may carry into one more digit
    if n < Nat.pow 10 count then (Decimal.ofNat n, first) else (Decimal.ofNat (n / 10), first + 1)

def withDecimals (point : Bool) (whole decimals : List Char) : List Char :=
  whole ++ if decimals.isEmpty && !point then [] else '.' :: decimals

def exponentMark (exponent : Int) : List Char :=
  'e' :: (if exponent < 0 then '-' else '+') :: Text.padded 2 (Decimal.ofNat exponent.natAbs)

/-- Decimals without the zeros at their end, unless these are wanted. -/
def trim (point : Bool) (decimals : List Char) : List Char :=
  if point then decimals else (decimals.reverse.dropWhile (· = '0')).reverse

/-- The text of a number of units. A point without decimals, and zeros at the end in the general form, are written if
they are wanted. -/
def unitsText (form : Form) (point : Bool) (precision units : Nat) : List Char :=
  match form with
  | .decimals =>
    let (whole, decimals) := roundedDecimals units precision
    withDecimals point whole decimals
  | .exponent =>
    let (digits, exponent) := roundedDigits units (precision + 1)
    withDecimals point (digits.take 1) (digits.drop 1) ++ exponentMark exponent
  | .general =>
    let count := max 1 precision
    let (digits, exponent) := roundedDigits units count
    if exponent < -4 ∨ count ≤ exponent then
      withDecimals point (digits.take 1) (trim point (digits.drop 1)) ++ exponentMark exponent
    else if exponent < 0 then
      withDecimals point ['0'] (trim point (List.replicate (exponent.natAbs - 1) '0' ++ digits))
    else
      let (whole, decimals) := digits.splitAt (exponent.toNat + 1)
      withDecimals point whole (trim point decimals)

/-- The text of a number without its sign. -/
def rounded (form : Form) (point : Bool) (precision : Nat) : Binary64 → List Char
  | nan => ['n', 'a', 'n']
  | infinite _ => ['i', 'n', 'f']
  | finite _ units _ => unitsText form point precision units

/-- Whether a number has a minus sign. -/
def isSigned : Binary64 → Bool
  | nan => false
  | infinite negative => negative
  | finite negative _ _ => negative

end LogAssay.Binary64
