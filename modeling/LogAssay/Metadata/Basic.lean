import LogAssay.Fault

/-!
# Metadata

Metadata maps keys to lists of scalars and remembers the order in which the keys came. A key without values
is a bare tag. Values that come for a key later stand behind those that came before.
-/

namespace LogAssay

/-- Keys with their values, in the order in which the keys came. -/
abbrev Metadata := List (String × List Scalar)

namespace Metadata

def values? (m : Metadata) (key : String) : Option (List Scalar) := m.lookup key

/-- The values under a key; none if it is not there. -/
def values (m : Metadata) (key : String) : List Scalar := (m.values? key).getD []

/-- Whether a key is there, with or without values. -/
def hasKey (m : Metadata) (key : String) : Bool := (m.values? key).isSome

def keys (m : Metadata) : List String := m.map (·.1)

/-- The metadata with further values for a key, behind its other values; a new key comes last. -/
def add (m : Metadata) (key : String) (more : List Scalar) : Metadata :=
  match m with
  | [] => [(key, more)]
  | (k, vs) :: others => if k = key then (k, vs ++ more) :: others else (k, vs) :: add others key more

/-- The metadata with new values for a key in place of its old ones; a new key comes last. -/
def set (m : Metadata) (key : String) (fresh : List Scalar) : Metadata :=
  match m with
  | [] => [(key, fresh)]
  | (k, vs) :: others => if k = key then (k, fresh) :: others else (k, vs) :: set others key fresh

/-- The metadata that captured records keep of arbitrary entries: keys as plain text, values as
scalars. -/
def freeze (entries : List (Value × List Value)) : Except Fault Metadata :=
  entries.foldlM (fun m (key, vs) => do return m.set (← key.write) (← vs.mapM Value.widen)) []

theorem values_add_self (m : Metadata) (key : String) (more : List Scalar) :
    (m.add key more).values key = m.values key ++ more := by
  induction m with
  | nil => simp [add, values, values?]
  | cons e others ih =>
    obtain ⟨k, vs⟩ := e
    by_cases h : k = key
    · simp [add, values, values?, h]
    · have h' : (key == k) = false := by simpa using fun e => h e.symm
      simpa [add, values, values?, h, List.lookup_cons, h'] using ih

theorem values_add_of_ne (m : Metadata) {key other : String} (more : List Scalar)
    (h : other ≠ key) : (m.add key more).values other = m.values other := by
  induction m with
  | nil =>
    have h' : (other == key) = false := by simpa using h
    simp [add, values, values?, List.lookup_cons, h']
  | cons e others ih =>
    obtain ⟨k, vs⟩ := e
    by_cases hk : k = key
    · subst hk
      have h' : (other == k) = false := by simpa using h
      simp [add, values, values?, List.lookup_cons, h']
    · by_cases ho : other = k
      · subst ho
        simp [add, values, values?, hk]
      · have h' : (other == k) = false := by simpa using ho
        simpa [add, values, values?, hk, List.lookup_cons, h'] using ih

end Metadata

end LogAssay
