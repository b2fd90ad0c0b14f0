import LogAssay.Fault

/-!
# Threshold tables

A backend has numeric levels of its own. Its threshold table gives the lowest native level of each severity
class, and the native level at which the lowest class is emitted. Neighbouring breakpoints out of order are
refused.
-/

namespace LogAssay

/-- The lowest native levels of the severity classes. -/
structure Thresholds where
  floor : Quantity
  fine : Quantity
  info : Quantity
  warning : Quantity
  severe : Quantity
  deriving DecidableEq

namespace Thresholds

def breakpoints (t : Thresholds) : List Quantity := [t.floor, t.fine, t.info, t.warning, t.severe]

/-- Whether no number of the list reaches its successor. -/
def rising : List Quantity → Bool
  | a :: b :: others => !b.le a && rising (b :: others)
  | _ => true

/-- The table with these breakpoints, unless one of them reaches its successor. -/
def check (t : Thresholds) : Except Fault Thresholds :=
  if rising t.breakpoints then .ok t
  else .error (.breakpoints (t.breakpoints.map fun q => .scalar q.toScalar))

/-- The class of a native level: the highest one whose breakpoint the level reaches. -/
def classify (t : Thresholds) (level : Quantity) : Severity :=
  if t.severe.le level then .severe
  else if t.warning.le level then .warning
  else if t.info.le level then .info
  else if t.fine.le level then .fine
  else .finest

/-- The native level at which a class is emitted and requested. -/
def native (t : Thresholds) : Severity → Quantity
  | .finest => t.floor
  | .fine => t.fine
  | .info => t.info
  | .warning => t.warning
  | .severe => t.severe

/-- The table of the logger tree, whose levels count in tens. -/
def standard : Thresholds := ⟨.int 5, .int 10, .int 20, .int 30, .int 40⟩

/-- The table of backends that dispatch records, whose levels count in ones. -/
def ordinal : Thresholds := ⟨.int 0, .int 1, .int 2, .int 3, .int 4⟩

/-- The native level of the logger tree for a class. -/
def standardLevel : Severity → Int
  | .finest => 5
  | .fine => 10
  | .info => 20
  | .warning => 30
  | .severe => 40

theorem native_standard (s : Severity) : standard.native s = .int (standardLevel s) := by
  cases s <;> rfl

end Thresholds

end LogAssay
