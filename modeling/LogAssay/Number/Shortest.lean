import LogAssay.Number.Binary64

/-!
# The shortest decimal of a floating-point number

A finite number is written with the fewest significant digits that read back as it; of two such decimals
the nearer is taken, of two equally near the one with an even last digit. Seventeen digits are always
enough, so the exact expansion that stands at the end of the search is never reached.
-/

namespace LogAssay.Binary64

/-- The decimal expansion of a number of units, which is finite because two divides ten. -/
def expansion (units : Nat) : Scaled := ⟨units * Nat.pow 5 1074, -1074⟩

/-- The neighbours of an expansion of the given length among the decimals of the given precision, the
nearer one first. -/
def neighbours (length precision units : Nat) : List Scaled :=
  let whole := (expansion units).digits
  let step := Nat.pow 10 (length - precision)
  let below := whole / step
  let rest := whole % step
  let exponent : Int := (length - precision : Nat) - 1074
  let low : Scaled := Scaled.reduce ⟨below, exponent⟩
  let high : Scaled := Scaled.reduce ⟨below + 1, exponent⟩
  if rest = 0 then [low]
  else if 2 * rest < step ∨ (2 * rest = step ∧ below % 2 = 0) then [low, high]
  else [high, low]

/-- Whether a decimal reads back as the given number of units. -/
def readsBack (units : Nat) (s : Scaled) : Bool :=
  match ofScaled false s with
  | finite _ u _ => u == units
  | _ => false

/-- The first decimal that reads back, with one significant digit or more. -/
def shortest? (units : Nat) : Option Scaled :=
  let length := (Decimal.ofNat (expansion units).digits).length
  (List.range 17).findSome? fun i => (neighbours length (i + 1) units).find? (readsBack units)

/-- The shortest decimal of a positive number of units. -/
def shortest (units : Nat) : Scaled := (shortest? units).getD (expansion units).reduce

def text : Binary64 → List Char
  | nan => ['n', 'a', 'n']
  | infinite negative => (if negative then ['-'] else []) ++ ['i', 'n', 'f']
  | finite negative units _ =>
    (if negative then ['-'] else [])
      ++ (if units = 0 then ['0', '.', '0'] else (shortest units).text)

def numeral (x : Binary64) : String := String.ofList x.text

end LogAssay.Binary64
