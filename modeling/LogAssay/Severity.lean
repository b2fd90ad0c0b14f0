import LogAssay.Text.Blank
import LogAssay.Text.Casing

/-!
# Severity

Five ordered classes of events, shared by every backend. Levels are requested by name: case and surrounding
blanks do not matter, and common names of other scales stand for the class they fall into.
-/

namespace LogAssay

/-- The severity classes, lowest first. -/
inductive Severity where
  | finest
  | fine
  | info
  | warning
  | severe
  deriving DecidableEq, Repr

namespace Severity

def rank : Severity → Nat
  | finest => 0
  | fine => 1
  | info => 2
  | warning => 3
  | severe => 4

def name : Severity → String
  | finest => "FINEST"
  | fine => "FINE"
  | info => "INFO"
  | warning => "WARNING"
  | severe => "SEVERE"

def all : List Severity := [finest, fine, info, warning, severe]

instance : LT Severity := ⟨fun a b => a.rank < b.rank⟩

instance : LE Severity := ⟨fun a b => a.rank ≤ b.rank⟩

instance (a b : Severity) : Decidable (a < b) := inferInstanceAs (Decidable (a.rank < b.rank))

instance (a b : Severity) : Decidable (a ≤ b) := inferInstanceAs (Decidable (a.rank ≤ b.rank))

instance : Min Severity := ⟨fun a b => if a ≤ b then a else b⟩

instance : Max Severity := ⟨fun a b => if a ≤ b then b else a⟩

/-- Classes of one rank are equal. -/
theorem rank_injective {a b : Severity} (h : a.rank = b.rank) : a = b := by
  cases a <;> cases b <;> first | rfl | cases h

protected theorem le_antisymm {a b : Severity} (hab : a ≤ b) (hba : b ≤ a) : a = b :=
  rank_injective (Nat.le_antisymm hab hba)

theorem eq_finest_or_lt (s : Severity) : s = finest ∨ finest < s := by
  cases s <;> decide

/-- The names by which a class may be requested, with the class. -/
def names : List (String × Severity) :=
  [("FINEST", finest), ("TRACE", finest), ("FINE", fine), ("DEBUG", fine), ("INFO", info),
   ("WARN", warning), ("WARNING", warning), ("SEVERE", severe), ("ERROR", severe),
   ("CRITICAL", severe)]

/-- The class that a level name requests. -/
def ofName? (name : String) : Option Severity :=
  names.lookup (String.ofList (Text.capitals (Text.trim name.toList)))

end Severity

end LogAssay
