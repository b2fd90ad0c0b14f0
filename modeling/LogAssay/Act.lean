import LogAssay.Fault

/-!
# Actions

An action changes a state and may fail. What it did before it failed stays done, so an action that has to be
undone says how.
-/

namespace LogAssay

/-- An action on a state that gives a result or a fault. -/
abbrev Act (σ : Type) := ExceptT Fault (StateM σ)

/-- A chain of checks that succeeds has succeeded at each step. -/
theorem exists_ok_of_bind {α β : Type} {x : Except Fault α} {f : α → Except Fault β} {b : β}
    (h : x >>= f = .ok b) : ∃ a, x = .ok a ∧ f a = .ok b := by
  cases x with
  | error fault => cases h
  | ok a => exact ⟨a, rfl, h⟩

namespace Act

variable {σ α : Type}

/-- What an action gives, and the state behind it. -/
def result (a : Act σ α) (s : σ) : Except Fault α × σ := a.run.run s

/-- The action that leaves the state alone and gives what is there already. -/
def ofExcept (outcome : Except Fault α) : Act σ α := ExceptT.mk (pure outcome)

@[simp] theorem result_ofExcept (outcome : Except Fault α) (s : σ) :
    (ofExcept outcome : Act σ α).result s = (outcome, s) := rfl

@[simp] theorem result_pure (x : α) (s : σ) : (pure x : Act σ α).result s = (.ok x, s) := rfl

@[simp] theorem result_get (s : σ) : (get : Act σ σ).result s = (.ok s, s) := rfl

@[simp] theorem result_modify (f : σ → σ) (s : σ) : (modify f : Act σ Unit).result s = (.ok (), f s) := rfl

/-- An action goes on with what the first part of it gives. -/
theorem result_bind_ok {β : Type} {a : Act σ α} {f : α → Act σ β} {x : α} {s s' : σ}
    (h : a.result s = (.ok x, s')) : (a >>= f).result s = (f x).result s' := by
  have hbind : (a >>= f).result s = (ExceptT.bindCont f (a.result s).1).run (a.result s).2 := rfl
  rw [hbind, h]
  rfl

/-- An action fails with the fault of the first part of it. -/
theorem result_bind_error {β : Type} {a : Act σ α} {f : α → Act σ β} {fault : Fault} {s s' : σ}
    (h : a.result s = (.error fault, s')) : (a >>= f).result s = (.error fault, s') := by
  have hbind : (a >>= f).result s = (ExceptT.bindCont f (a.result s).1).run (a.result s).2 := rfl
  rw [hbind, h]
  rfl

theorem result_tryCatch_ok {a : Act σ α} {handler : Fault → Act σ α} {x : α} {s s' : σ}
    (h : a.result s = (.ok x, s')) : (tryCatch a handler).result s = (.ok x, s') := by
  have ha : a s = (.ok x, s') := h
  show ExceptT.tryCatch a handler s = _
  unfold ExceptT.tryCatch ExceptT.mk
  show StateT.bind a _ s = _
  rw [StateT.bind, ha]
  rfl

/-- What an action did before it failed stays done when its fault is caught. -/
theorem result_tryCatch_error {a : Act σ α} {handler : Fault → Act σ α} {fault : Fault} {s s' : σ}
    (h : a.result s = (.error fault, s')) : (tryCatch a handler).result s = (handler fault).result s' := by
  have ha : a s = (.error fault, s') := h
  show ExceptT.tryCatch a handler s = _
  unfold ExceptT.tryCatch ExceptT.mk
  show StateT.bind a _ s = _
  rw [StateT.bind, ha]
  rfl

end Act

end LogAssay
