import LogAssay.Number.Binary64

/-!
# Reading floating-point numbers

A floating-point numeral is an optional sign, then digits with at most one point among them and at least
one digit in all, then an optional exponent. The names of the infinities and of the number that is none are
read too; a caller says in which spellings. The value is the nearest number of the format.
-/

namespace LogAssay.Binary64

/-- A numeral taken apart. -/
structure Numeral where
  negative : Bool
  whole : List Char
  fraction : List Char
  exponent : Int
  deriving DecidableEq

/-- A sign in front of a text, and the rest. -/
def takeSign : List Char → Bool × List Char
  | '+' :: s => (false, s)
  | '-' :: s => (true, s)
  | s => (false, s)

/-- The exponent behind the digits of a numeral: nothing, or a mark and a signed run of digits. -/
def readExponent? : List Char → Option Int
  | [] => some 0
  | c :: s =>
    if c = 'e' ∨ c = 'E' then
      let (negative, digits) := takeSign s
      if digits ≠ [] ∧ digits.all Char.isDigit then
        some (if negative then -(Decimal.toNat digits : Int) else Decimal.toNat digits)
      else none
    else none

/-- The digits of a numeral around its point, and the exponent behind them. -/
def readUnsigned? (negative : Bool) (s : List Char) : Option Numeral :=
  let whole := s.takeWhile Char.isDigit
  let rest := s.dropWhile Char.isDigit
  let (fraction, rest) := match rest with
    | '.' :: rest => (rest.takeWhile Char.isDigit, rest.dropWhile Char.isDigit)
    | rest => ([], rest)
  if whole = [] ∧ fraction = [] then none
  else (readExponent? rest).map fun exponent => ⟨negative, whole, fraction, exponent⟩

def Numeral.read? (s : List Char) : Option Numeral :=
  let (negative, rest) := takeSign s
  readUnsigned? negative rest

def Numeral.value (n : Numeral) : Binary64 :=
  ofScaled n.negative ⟨Decimal.toNat (n.whole ++ n.fraction), n.exponent - n.fraction.length⟩

/-- The number a text denotes, given the spellings of infinity and of the number that is none. -/
def read? (infinity none : List Char → Bool) (s : List Char) : Option Binary64 :=
  let (negative, rest) := takeSign s
  if infinity rest then some (infinite negative)
  else if none rest then some nan
  else (Numeral.read? s).map Numeral.value

end LogAssay.Binary64
