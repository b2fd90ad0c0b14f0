import LogAssay.Proofs.Session.Logging

/-!
# Quiet commands

Most of what tests do leaves loggers, tags and test ids alone: they log, look at what was captured, and say what is
to be checked. Whether such a command fails or not, the session is the same in these respects.

## Main statement

* `still_step`: a quiet command leaves the tree, the tags and the pool of test ids as they are.
-/

namespace LogAssay

/-- Commands that only log, look at what was captured, or say what is to be checked. -/
def Command.isQuiet : Command → Bool
  | .log .. | .handle .. | .showTags | .annotate _ | .notes _ | .makeCapture .. | .ask .. | .entryAt ..
  | .checkOrder .. | .verify .. | .verifyValue _ | .clearVerifications _ | .expect .. | .expectCount ..
  | .claimed => true
  | _ => false

namespace Session

/-- Two sessions that are alike, and in which the next handler has the same number. -/
structure Still (s s' : Session) : Prop extends Alike s s' where
  nextSerial : s'.around.nextSerial = s.around.nextSerial

theorem Still.trans {s s' s'' : Session} (h : s.Still s') (h' : s'.Still s'') : s.Still s'' :=
  ⟨h.toAlike.trans h'.toAlike, h'.nextSerial.trans h.nextSerial⟩

/-- An action that leaves all this as it is, whether it fails or not. -/
def Quiet {α : Type} (a : Act Session α) : Prop := ∀ s, Still s (a.result s).2

section Quiet

variable {α β : Type}

theorem quiet_pure (x : α) : Quiet (pure x) := fun _ => ⟨⟨rfl, rfl, rfl, rfl⟩, rfl⟩

theorem quiet_ofExcept (outcome : Except Fault α) : Quiet (Act.ofExcept outcome) := fun _ => ⟨⟨rfl, rfl, rfl, rfl⟩, rfl⟩

theorem quiet_get : Quiet get := fun _ => ⟨⟨rfl, rfl, rfl, rfl⟩, rfl⟩

theorem Quiet.bind {a : Act Session α} {f : α → Act Session β} (ha : Quiet a) (hf : ∀ x, Quiet (f x)) :
    Quiet (a >>= f) := by
  intro s
  have hfirst := ha s
  cases hresult : a.result s with
  | mk outcome s' =>
    rw [hresult] at hfirst
    cases outcome with
    | error fault =>
      rw [Act.result_bind_error hresult]
      exact hfirst
    | ok x =>
      rw [Act.result_bind_ok hresult]
      exact hfirst.trans (hf x s')

theorem quiet_changeCapture (name : String) (f : Capture → Capture) : Quiet (changeCapture name f) := by
  intro s
  rw [changeCapture, Act.result_modify]
  dsimp only
  split
  · exact ⟨⟨rfl, rfl, rfl, rfl⟩, rfl⟩
  · exact ⟨⟨rfl, rfl, rfl, rfl⟩, rfl⟩

theorem quiet_keepExpectation (name : Option String) (index : Nat) (o : OpenExpectation) :
    Quiet (keepExpectation name index o) := by
  cases name with
  | none => exact quiet_pure ()
  | some name => exact fun _ => ⟨⟨rfl, rfl, rfl, rfl⟩, rfl⟩

theorem quiet_carryOut : ∀ command : Command, command.isQuiet = true → Quiet (carryOut command)
  | .log .., _ | .handle .., _ | .showTags, _ | .notes _, _ | .verifyValue _, _ | .claimed, _ =>
    fun _ => ⟨⟨rfl, rfl, rfl, rfl⟩, rfl⟩
  | .annotate _, _ =>
    quiet_get.bind fun _ => (quiet_ofExcept _).bind fun _ => (quiet_ofExcept _).bind fun _ => quiet_pure _
  | .makeCapture .., _ => (quiet_ofExcept _).bind fun _ => fun _ => ⟨⟨rfl, rfl, rfl, rfl⟩, rfl⟩
  | .ask .., _ =>
    (quiet_ofExcept _).bind fun _ => quiet_get.bind fun _ => (quiet_ofExcept _).bind fun _ => quiet_pure _
  | .entryAt .., _ | .checkOrder .., _ => quiet_get.bind fun _ => (quiet_ofExcept _).bind fun _ => quiet_pure _
  | .verify .., _ | .clearVerifications _, _ | .expect .., _ =>
    (quiet_changeCapture _ _).bind fun _ => quiet_pure _
  | .expectCount .., _ => by
    refine quiet_get.bind fun s => ?_
    split
    · exact quiet_pure _
    · exact (quiet_keepExpectation _ _ _).bind fun _ => (quiet_ofExcept _).bind fun _ =>
        (quiet_keepExpectation _ _ _).bind fun _ => fun _ => ⟨⟨rfl, rfl, rfl, rfl⟩, rfl⟩

end Quiet

/-- A step with a quiet command. -/
theorem still_step (s : Session) {command : Command} (quiet : command.isQuiet = true) :
    Still s (s.step command).2 := by
  rw [(step_eq command rfl).2]
  exact (quiet_carryOut command quiet s).trans ⟨⟨rfl, rfl, rfl, rfl⟩, rfl⟩

end Session

end LogAssay
