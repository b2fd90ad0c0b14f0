import LogAssay.Capture.Hook

/-!
# Scopes of tags

A scope sets some tags over those that are in force around it. Inside several scopes, the innermost one that sets
a tag gives its value, and every tag is in force once.

## Main statements

* `find?_foldl_within`: inner values replace outer ones.
* `nodup_within`: no tag is in force twice.
-/

namespace LogAssay

namespace Tags

/-! ## Keys -/

theorem keys_put (tags : Tags) (key : String) (value : Value) :
    (tags.put key value).map (·.1)
      = if key ∈ tags.map (·.1) then tags.map (·.1) else tags.map (·.1) ++ [key] := by
  induction tags with
  | nil => rfl
  | cons e others ih =>
    obtain ⟨k, v⟩ := e
    by_cases hk : k = key
    · simp [put, hk]
    · have hne : ¬key = k := fun h => hk h.symm
      rw [put, if_neg hk, List.map_cons, List.map_cons, ih]
      simp only [List.mem_cons, hne, false_or]
      split
      · rfl
      · rfl

/-- Setting a tag puts no tag in force twice. -/
theorem nodup_put {tags : Tags} (h : (tags.map (·.1)).Nodup) (key : String) (value : Value) :
    ((tags.put key value).map (·.1)).Nodup := by
  rw [keys_put]
  split
  · exact h
  · next hkey =>
    rw [List.nodup_append]
    refine ⟨h, by simp, ?_⟩
    rintro a ha b hb rfl
    exact hkey (List.mem_singleton.1 hb ▸ ha)

/-- **No tag is in force twice.** -/
theorem nodup_within : ∀ {outer : Tags} (inner : Tags), (outer.map (·.1)).Nodup →
    ((outer.within inner).map (·.1)).Nodup
  | _, [], h => h
  | _, (key, value) :: inner, h => nodup_within inner (nodup_put h key value)

theorem nodup_tagged {tags : Tags} (h : (tags.map (·.1)).Nodup) (testId : String) :
    ((Hook.tagged tags testId).map (·.1)).Nodup := by
  rw [Hook.tagged]
  split
  · exact h
  · exact nodup_put h _ _

/-! ## Values -/

/-- A tag that is set twice has its last value. -/
theorem put_put (tags : Tags) (key : String) (first second : Value) :
    (tags.put key first).put key second = tags.put key second := by
  induction tags with
  | nil => simp [put]
  | cons e others ih =>
    obtain ⟨k, v⟩ := e
    by_cases hk : k = key
    · simp [put, hk]
    · simp only [put, if_neg hk, ih]

/-- The value that a scope gives a tag, if it sets it; if it does so several times, the last one counts. -/
def value? (scope : Tags) (key : String) : Option Value := scope.reverse.lookup key

/-- A scope gives the tags that it sets their values and leaves the others alone. -/
theorem find?_within : ∀ (outer inner : Tags) (key : String),
    (outer.within inner).find? key = (value? inner key).or (outer.find? key)
  | _, [], _ => rfl
  | outer, (k, v) :: inner, key => by
    have hrest := find?_within (outer.put k v) inner key
    rw [find?_put] at hrest
    rw [value?, List.reverse_cons, List.lookup_append, Option.or_assoc]
    refine hrest.trans (congrArg _ ?_)
    by_cases hkey : key = k
    · simp [hkey]
    · have hne : (key == k) = false := by simpa using hkey
      simp [hkey, List.lookup_cons, hne]

/-- **Inner values replace outer ones.** Among scopes from the outside in, the last one that sets a tag gives its
value. -/
theorem find?_foldl_within (key : String) : ∀ (scopes : List Tags) (outer : Tags),
    (scopes.foldl within outer).find? key = (scopes.reverse.findSome? (value? · key)).or (outer.find? key)
  | [], _ => rfl
  | scope :: scopes, outer => by
    rw [List.foldl_cons, find?_foldl_within key scopes, find?_within, List.reverse_cons,
      List.findSome?_append, Option.or_assoc]
    refine congrArg _ ?_
    rw [List.findSome?_cons]
    cases value? scope key with
    | none => rfl
    | some v => rfl

end Tags

end LogAssay
