/-!
# Hexadecimal numerals

Numerals of base sixteen with leading zeros up to a fixed width.
-/

namespace LogAssay.Text

/-- The digit of a number below sixteen, with `a` or `A` for ten. -/
def hexDigit (ten : Char) (n : Nat) : Char :=
  if n < 10 then Char.ofNat (48 + n) else Char.ofNat (ten.toNat + (n - 10))

/-- The shortest hexadecimal numeral of a number. -/
def hexNumeral (ten : Char) (n : Nat) : List Char :=
  if n < 16 then [hexDigit ten n] else hexNumeral ten (n / 16) ++ [hexDigit ten (n % 16)]
termination_by n

/-- A numeral with zeros in front up to the width; a longer one is left alone. -/
def padded (width : Nat) (numeral : List Char) : List Char :=
  List.replicate (width - numeral.length) '0' ++ numeral

/-- A lower-case hexadecimal numeral of at least the given width. -/
def hex (width n : Nat) : List Char := padded width (hexNumeral 'a' n)

/-- An upper-case hexadecimal numeral of at least the given width. -/
def upperHex (width n : Nat) : List Char := padded width (hexNumeral 'A' n)

end LogAssay.Text
