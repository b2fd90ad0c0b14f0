/-!
# Directories

A directory holds items by name. A name that was never entered has the fallback item. Names are listed in the
order in which they were entered.

## Main statement

* `get_put`: entering an item under a name changes the item of that name alone.
-/

namespace LogAssay

/-- Items by name. -/
structure Directory (α : Type) where
  fallback : α
  entries : List (String × α) := []

namespace Directory

variable {α : Type}

def get (d : Directory α) (name : String) : α := (d.entries.lookup name).getD d.fallback

/-- The entries with an item under a name, which keeps its place. -/
def enter (name : String) (item : α) : List (String × α) → List (String × α)
  | [] => [(name, item)]
  | (n, old) :: others => if n = name then (n, item) :: others else (n, old) :: enter name item others

def put (d : Directory α) (name : String) (item : α) : Directory α :=
  { d with entries := enter name item d.entries }

def modify (d : Directory α) (name : String) (f : α → α) : Directory α := d.put name (f (d.get name))

theorem lookup_enter (name other : String) (item : α) (entries : List (String × α)) :
    (enter name item entries).lookup other
      = if other = name then some item else entries.lookup other := by
  have away {n : String} (h : ¬other = n) : (other == n) = false := by simpa using h
  induction entries with
  | nil =>
    by_cases h : other = name
    · simp [enter, h]
    · simp [enter, List.lookup_cons, away h, h]
  | cons e others ih =>
    obtain ⟨n, old⟩ := e
    by_cases hn : n = name
    · subst hn
      by_cases h : other = n
      · simp [enter, h]
      · simp [enter, List.lookup_cons, away h, h]
    · by_cases h : other = n
      · subst h
        simp [enter, hn]
      · simp [enter, List.lookup_cons, hn, away h, ih]

/-- Entering an item under a name changes the item of that name alone. -/
theorem get_put (d : Directory α) (name other : String) (item : α) :
    (d.put name item).get other = if other = name then item else d.get other := by
  by_cases h : other = name <;> simp [get, put, lookup_enter, h]

@[simp] theorem get_put_self (d : Directory α) (name : String) (item : α) :
    (d.put name item).get name = item := by simp [get_put]

end Directory

end LogAssay
