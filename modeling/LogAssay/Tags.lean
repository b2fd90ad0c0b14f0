import LogAssay.Metadata.Agreement
import LogAssay.Metadata.Encode
import LogAssay.Template

/-!
# Tags

Tags are entries that hold for a while and go with every event of that time. An inner scope takes the outer
tags over and replaces those that it sets itself. Tags reach an event in one of two ways: a captured event
takes over the tags that it does not carry yet, and a message can be given the tags as a context block.

## Main statement

* `find?_put`: setting a tag changes the value of that tag alone.
-/

namespace LogAssay

/-- The tags in force, in the order in which they were first set. -/
abbrev Tags := List (String × Value)

namespace Tags

def find? (tags : Tags) (key : String) : Option Value := tags.lookup key

/-- The tags with one more; a tag that is set already keeps its place. -/
def put (tags : Tags) (key : String) (value : Value) : Tags :=
  match tags with
  | [] => [(key, value)]
  | (k, v) :: others => if k = key then (k, value) :: others else (k, v) :: put others key value

def within (outer inner : Tags) : Tags :=
  inner.foldl (fun tags (key, value) => tags.put key value) outer

/-- Setting a tag changes the value of that tag alone. -/
theorem find?_put (tags : Tags) (key other : String) (value : Value) :
    (tags.put key value).find? other = if other = key then some value else tags.find? other := by
  have away {k : String} (h : ¬other = k) : (other == k) = false := by simpa using h
  induction tags with
  | nil =>
    by_cases h : other = key
    · simp [put, find?, h]
    · simp [put, find?, List.lookup_cons, away h, h]
  | cons e others ih =>
    obtain ⟨k, v⟩ := e
    rw [find?] at ih
    by_cases hk : k = key
    · subst hk
      by_cases h : other = k
      · simp [put, find?, h]
      · simp [put, find?, List.lookup_cons, away h, h]
    · by_cases h : other = k
      · subst h
        simp [put, find?, hk]
      · simp [put, find?, List.lookup_cons, hk, away h, ih]

/-! ## Tags of captured events -/

/-- The metadata with a tag behind the values of its key, unless one of these agrees with it. -/
def stampOne (m : Metadata) (key : String) (value : Value) : Except Fault Metadata := do
  if ← Scalar.anyAgrees (m.values key) value then return m
  return m.add key [← value.widen]

def stamp (m : Metadata) : Tags → Except Fault Metadata
  | [] => .ok m
  | (key, value) :: others => do
    let m ← stampOne m key value
    stamp m others

/-! ## Tags of messages -/

/-- A message with its arguments. -/
structure Message where
  template : Value
  arguments : Arguments := .none

def Message.text (m : Message) : Except Fault String := do
  let template ← m.template.write
  Template.render template m.arguments

/-- The message with the tags appended as a context block. Without tags it is left alone. -/
def annotate (tags : Tags) (m : Message) : Except Fault Message :=
  if tags.isEmpty then .ok m
  else do
    let text ← m.text
    let annotated ← Metadata.encode text tags
    return { template := .text annotated }

end Tags

end LogAssay
