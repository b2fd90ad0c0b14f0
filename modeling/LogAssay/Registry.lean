import LogAssay.Diagnostic
import LogAssay.Support

/-!
# Registered factories

The factories that may be used are registered in order, perhaps more than once. They may be of any type: what the choice
sees of a factory is how it is shown, and its support level. The best one has the highest support level, and is the
earliest of these. It is chosen once and then remembered until the registration changes. Anything short of full
support is reported when the choice is made, and so is a choice among several factories of full support.
-/

namespace LogAssay

/-- What can be registered: the choice sees how it is shown, and its support level. -/
class Registrable (φ : Type) where
  shown : φ → String
  support : φ → Support

/-- A factory as the choice sees it: how it is shown, and its support level. -/
structure Candidate where
  shown : String
  support : Support
  deriving DecidableEq, Repr

instance : Registrable Candidate := ⟨Candidate.shown, Candidate.support⟩

@[simp] theorem Registrable.shown_candidate (c : Candidate) : Registrable.shown c = c.shown := rfl

@[simp] theorem Registrable.support_candidate (c : Candidate) : Registrable.support c = c.support := rfl

namespace Candidate

variable {φ : Type} [Registrable φ]

def highest (cs : List φ) : Support := cs.foldl (fun level c => max level (Registrable.support c)) .none

def report (chosen : φ) (cs : List φ) : List Diagnostic :=
  match Registrable.support chosen with
  | .full =>
    if 1 < (cs.filter (Registrable.support · = .full)).length then [.severalCapable (Registrable.shown chosen)] else []
  | .partly => [.partialSupport (Registrable.shown chosen)]
  | .none => [.noSupport]

/-- The earliest of the candidates with the highest support level, and what is reported of it. -/
def select (cs : List φ) : Except Fault φ × List Diagnostic :=
  match cs.find? (Registrable.support · = highest cs) with
  | some chosen => (.ok chosen, report chosen cs)
  | none => (.error .noFactories, [])

end Candidate

/-- The registered factories in order, and the one that was chosen last, if it still counts. -/
structure Registry (φ : Type := Candidate) where
  factories : List φ := []
  chosen : Option φ := none
  deriving DecidableEq, Repr

namespace Registry

variable {φ : Type}

def register (r : Registry φ) (c : φ) : Registry φ := ⟨r.factories ++ [c], none⟩

def registerValue (_ : Registry φ) (v : Value) : Except Fault (Registry φ) := .error (.notFactory v.kindName)

/-- The registry without the first occurrence of a factory. -/
def unregister [DecidableEq φ] (r : Registry φ) (c : φ) : Except Fault (Registry φ) :=
  if r.factories.contains c then .ok ⟨r.factories.erase c, none⟩ else .error .notRegistered

/-- The best factory, and the registry that remembers it. -/
def best [Registrable φ] (r : Registry φ) : Except Fault φ × Registry φ × List Diagnostic :=
  match r.chosen with
  | some c => (.ok c, r, [])
  | none =>
    match Candidate.select r.factories with
    | (.ok c, reports) => (.ok c, { r with chosen := some c }, reports)
    | (.error fault, reports) => (.error fault, r, reports)

end Registry

end LogAssay
