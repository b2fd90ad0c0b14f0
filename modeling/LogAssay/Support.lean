import LogAssay.Fault

/-!
# Support levels and factories

A factory makes interceptors for one backend. How much of an event its interceptors can capture is its
support level.
-/

namespace LogAssay

/-- How completely events are captured. -/
inductive Support where
  | none
  | partly
  | full
  deriving DecidableEq, Repr

namespace Support

def rank : Support → Nat
  | none => 0
  | partly => 1
  | full => 2

def name : Support → String
  | none => "NONE"
  | partly => "PARTIAL"
  | full => "FULL"

instance : LE Support := ⟨fun a b => a.rank ≤ b.rank⟩

instance (a b : Support) : Decidable (a ≤ b) := inferInstanceAs (Decidable (a.rank ≤ b.rank))

instance : Min Support := ⟨fun a b => if a ≤ b then a else b⟩

instance : Max Support := ⟨fun a b => if a ≤ b then b else a⟩

def all : List Support := [none, partly, full]

theorem partly_or_none_of_ne_full {level : Support} (h : level ≠ full) : level = partly ∨ level = none := by
  cases level with
  | none => exact .inr rfl
  | partly => exact .inl rfl
  | full => exact absurd rfl h

end Support

/-- A maker of interceptors for one backend. -/
inductive Factory where
  /-- The logger tree. -/
  | standard
  /-- The logger tree, except that channels which end in `.broken` refuse to be attached. -/
  | refusing
  /-- A backend that dispatches records, by its name. -/
  | dispatch (name : String)
  deriving DecidableEq, Repr

def Factory.shown : Factory → String
  | standard => "StdlibInterceptorFactory()"
  | refusing => "StdlibInterceptorFactory()"
  | dispatch name => "DictRecordInterceptorFactory(name=" ++ name.quoted ++ ")"

end LogAssay
