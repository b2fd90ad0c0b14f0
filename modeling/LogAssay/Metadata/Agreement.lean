import LogAssay.Metadata.Basic

/-!
# Agreement with expected values

A captured value is compared with the value that a test expects within four classes. Booleans agree with
booleans only. An integer is expected exactly. A floating-point number is expected within `10⁻¹⁰`, after the
captured number has been brought to floating point. Anything else agrees by its plain text, and never with
a number or a boolean.
-/

namespace LogAssay

namespace Value

/-- Whether a value is a number but no boolean, and which. -/
def number? : Value → Option Quantity
  | scalar (.int i) => some (.int i)
  | scalar (.float x) => some (.float x)
  | _ => none

def isNumeric : Value → Bool
  | scalar (.text _) => false
  | scalar _ => true
  | _ => false

/-- The distance below which a floating-point number counts as the expected one. -/
def tolerance : Binary64 := Binary64.ofScaled false ⟨1, -10⟩

/-- The number that an integer was brought to, unless the integer was too large for that. -/
def inRange : Binary64 → Except Fault Binary64
  | .infinite _ => .error .integerRange
  | x => .ok x

/-- The number brought to floating point; an integer may be too large for that. -/
def toBinary64 : Quantity → Except Fault Binary64
  | .bool b => .ok (Binary64.ofInt (if b then 1 else 0))
  | .float x => .ok x
  | .int i => inRange (Binary64.ofInt i)

/-- Whether a number lies within the tolerance of an expected floating-point number. -/
def isNear (actual : Quantity) (expected : Binary64) : Except Fault Bool :=
  (toBinary64 actual).map fun x => (Quantity.float (x.sub expected).abs).lt (.float tolerance)

/-- Whether a captured value agrees with an expected one. -/
def agrees (actual expected : Value) : Except Fault Bool :=
  match expected with
  | scalar (.bool b) =>
    match actual with
    | scalar (.bool a) => .ok (a == b)
    | _ => .ok false
  | scalar (.int i) =>
    match actual.number? with
    | some a => .ok (a.eq (.int i))
    | none => .ok false
  | scalar (.float x) =>
    match actual.number? with
    | some a => isNear a x
    | none => .ok false
  | _ =>
    if actual.isNumeric then .ok false
    else do
      let text ← actual.write
      return text == (← expected.write)

/-- Only a text agrees with a text, and only with itself. -/
theorem agrees_text (s : Scalar) (t : String) : (scalar s).agrees (text t) = .ok (decide (s = .text t)) := by
  cases s with
  | text u =>
    show Except.ok (u == t) = _
    simp [Bool.beq_eq_decide_eq]
  | bool | int | float => rfl

end Value

/-- Whether one of some scalars agrees with an expected value; the search ends with the first that does. -/
def Scalar.anyAgrees (scalars : List Scalar) (expected : Value) : Except Fault Bool :=
  match scalars with
  | [] => .ok false
  | s :: others =>
    match (Value.scalar s).agrees expected with
    | .ok true => .ok true
    | .ok false => anyAgrees others expected
    | .error fault => .error fault

end LogAssay
