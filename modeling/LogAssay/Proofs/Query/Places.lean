import LogAssay.Matcher
import Mathlib.Data.List.Basic
import Mathlib.Data.List.TakeWhile

/-!
# Records from one place

A record comes from a class, from an outermost class, and from a function of a class, each of which may be unknown.
Where it is known it is a *place*, and two records are related if they have one place in common. A relation of this
form is symmetric and transitive, and a record is related to itself exactly if its place is known.

The relations are not written in this form: only the first of two records is asked whether its class is known. That is
enough for classes and functions, because the second record has the same names. For outermost classes it is enough
because cutting a name never makes it look unknown: a name that is cut has a colon, and keeps it.

## Main statements

* `Site.outerClass_eq_unknown_iff`: only the unknown class has an unknown outermost class.
* `sameClass_iff`, `sameOuterClass_iff`, `sameMethod_iff`: related records have a place in common.
* `Matcher.within_related`, `Matcher.within_relative`: a relation that implies another one keeps some of what that
  keeps.
* `places_nested`: the three relations, and what they have to do with each other.
-/

namespace LogAssay

namespace Site

theorem unknown_uncut : ':' ∉ unknown.toList := by decide

theorem outerClass_of_cut {name : String} {module qualified : List Char}
    (h : Text.cut? ':' name.toList = some (module, qualified)) :
    outerClass name = String.ofList (module ++ ':' :: qualified.takeWhile (· ≠ '.')) := by
  rw [outerClass, h]

theorem outerClass_of_uncut {name : String} (h : Text.cut? ':' name.toList = none) : outerClass name = name := by
  rw [outerClass, h]

/-- **Only the unknown class has an unknown outermost class.** -/
theorem outerClass_eq_unknown_iff (name : String) : outerClass name = unknown ↔ name = unknown := by
  cases h : Text.cut? ':' name.toList with
  | none => rw [outerClass_of_uncut h]
  | some parts =>
    obtain ⟨module, qualified⟩ := parts
    have hname : ':' ∈ name.toList := by
      rw [(Text.cut?_eq_some_iff.1 h).2]
      exact List.mem_append_right module List.mem_cons_self
    have houter : ':' ∈ (outerClass name).toList := by
      rw [outerClass_of_cut h, String.toList_ofList]
      exact List.mem_append_right module List.mem_cons_self
    exact ⟨fun heq => absurd (heq ▸ houter) unknown_uncut, fun heq => absurd (heq ▸ hname) unknown_uncut⟩

/-- A module or a class may look unknown by itself. -/
example : outerClass "<unknown>:Job.Part" = "<unknown>:Job" ∧ outerClass "app:<unknown>.Part" = "app:<unknown>" := by
  decide

/-- The outermost class of an outermost class is that class itself. -/
theorem outerClass_outerClass (name : String) : outerClass (outerClass name) = outerClass name := by
  cases h : Text.cut? ':' name.toList with
  | none => rw [outerClass_of_uncut h, outerClass_of_uncut h]
  | some parts =>
    obtain ⟨module, qualified⟩ := parts
    have houter := outerClass_of_cut h
    have hcut : Text.cut? ':' (outerClass name).toList = some (module, qualified.takeWhile (· ≠ '.')) := by
      rw [houter, String.toList_ofList]
      exact Text.cut?_append (Text.cut?_eq_some_iff.1 h).1 _
    rw [outerClass_of_cut hcut, houter, List.takeWhile_idem]

end Site

/-! ## Places -/

/-- Whether two records have a place in common; a record may have none. -/
def HaveInCommon {α : Type} (place? : Record → Option α) (r target : Record) : Prop :=
  ∃ place, place? r = some place ∧ place? target = some place

/-- A relation is symmetric and transitive, and holds of a record and itself exactly if the record is known. -/
structure IsPartialEquivalence (related : Record → Record → Bool) (known : Record → Prop) : Prop where
  symm : ∀ r target, related r target = true → related target r = true
  trans : ∀ r s target, related r s = true → related s target = true → related r target = true
  refl_iff : ∀ r, related r r = true ↔ known r

/-- Records that have a place in common are related by a partial equivalence, on the records that have a place. -/
theorem isPartialEquivalence_of_place {α : Type} {place? : Record → Option α} {related : Record → Record → Bool}
    {known : Record → Prop} (hrelated : ∀ r target, related r target = true ↔ HaveInCommon place? r target)
    (hknown : ∀ r, (∃ place, place? r = some place) ↔ known r) : IsPartialEquivalence related known where
  symm r target h := by
    obtain ⟨place, hr, htarget⟩ := (hrelated r target).1 h
    exact (hrelated target r).2 ⟨place, htarget, hr⟩
  trans r s target hfirst hsecond := by
    obtain ⟨place, hr, hs⟩ := (hrelated r s).1 hfirst
    obtain ⟨place', hs', htarget⟩ := (hrelated s target).1 hsecond
    obtain rfl : place = place' := Option.some.inj (hs.symm.trans hs')
    exact (hrelated r target).2 ⟨place, hr, htarget⟩
  refl_iff r := by
    rw [hrelated, ← hknown]
    exact exists_congr fun _ => and_self_iff

namespace Record

/-- The class of a record, if it is known. -/
def class? (r : Record) : Option String := if r.className = Site.unknown then none else some r.className

/-- The outermost class of a record, if the class is known. -/
def outermost? (r : Record) : Option String := r.class?.map Site.outerClass

/-- The function of a record with its class, if both are known. -/
def method? (r : Record) : Option (String × String) :=
  if r.methodName = Site.unknown then none else r.class?.map fun className => (className, r.methodName)

variable {r target : Record}

theorem class?_eq_some_iff {name : String} :
    r.class? = some name ↔ r.className ≠ Site.unknown ∧ r.className = name := by
  rw [class?]
  split <;> simp [*]

theorem outermost?_eq_some_iff {name : String} :
    r.outermost? = some name ↔ r.className ≠ Site.unknown ∧ r.outerClass = name := by
  rw [outermost?, Option.map_eq_some_iff]
  simp only [class?_eq_some_iff, outerClass]
  constructor
  · rintro ⟨_, ⟨hknown, rfl⟩, rfl⟩
    exact ⟨hknown, if_neg hknown⟩
  · rintro ⟨hknown, rfl⟩
    exact ⟨_, ⟨hknown, rfl⟩, (if_neg hknown).symm⟩

theorem method?_eq_some_iff {place : String × String} : r.method? = some place ↔
    r.className ≠ Site.unknown ∧ r.methodName ≠ Site.unknown ∧ (r.className, r.methodName) = place := by
  rw [method?]
  split
  · next hmethod => simp [hmethod]
  · next hmethod =>
    rw [Option.map_eq_some_iff]
    simp only [class?_eq_some_iff]
    constructor
    · rintro ⟨_, ⟨hknown, rfl⟩, rfl⟩
      exact ⟨hknown, hmethod, rfl⟩
    · rintro ⟨hknown, -, rfl⟩
      exact ⟨_, ⟨hknown, rfl⟩, rfl⟩

/-- An outermost class is unknown exactly if the class is. -/
theorem outerClass_eq_unknown_iff : r.outerClass = Site.unknown ↔ r.className = Site.unknown := by
  rw [outerClass]
  split
  · next hunknown => exact iff_of_true rfl hunknown
  · exact Site.outerClass_eq_unknown_iff r.className

theorem sameClass_iff : r.sameClass target = true ↔ HaveInCommon class? r target := by
  simp only [sameClass, Bool.and_eq_true, bne_iff_ne, beq_iff_eq, HaveInCommon, class?_eq_some_iff]
  constructor
  · rintro ⟨hknown, hsame⟩
    exact ⟨_, ⟨hknown, rfl⟩, hsame ▸ hknown, hsame.symm⟩
  · rintro ⟨_, ⟨hknown, rfl⟩, -, hsame⟩
    exact ⟨hknown, hsame.symm⟩

/-- The target's class is known too, since its outermost class is. -/
theorem sameOuterClass_iff : r.sameOuterClass target = true ↔ HaveInCommon outermost? r target := by
  simp only [sameOuterClass, Bool.and_eq_true, bne_iff_ne, beq_iff_eq, HaveInCommon, outermost?_eq_some_iff]
  constructor
  · rintro ⟨hknown, hsame⟩
    -- Only the record is asked for its class; that of the target is known through the outermost classes.
    refine ⟨_, ⟨hknown, rfl⟩, fun hunknown => hknown ?_, hsame.symm⟩
    rw [← outerClass_eq_unknown_iff, hsame, outerClass_eq_unknown_iff, hunknown]
  · rintro ⟨_, ⟨hknown, rfl⟩, -, hsame⟩
    exact ⟨hknown, hsame.symm⟩

theorem sameMethod_iff : r.sameMethod target = true ↔ HaveInCommon method? r target := by
  simp only [sameMethod, sameClass, Bool.and_eq_true, bne_iff_ne, beq_iff_eq, HaveInCommon, method?_eq_some_iff]
  constructor
  · rintro ⟨⟨⟨hclass, hsameClass⟩, hmethod⟩, hsameMethod⟩
    exact ⟨_, ⟨hclass, hmethod, rfl⟩, hsameClass ▸ hclass, hsameMethod ▸ hmethod, by rw [hsameClass, hsameMethod]⟩
  · rintro ⟨_, ⟨hclass, hmethod, rfl⟩, -, -, hsame⟩
    obtain ⟨hsameClass, hsameMethod⟩ := Prod.mk.inj hsame
    exact ⟨⟨⟨hclass, hsameClass.symm⟩, hmethod⟩, hsameMethod.symm⟩

/-! ## Known records -/

theorem isPartialEquivalence_sameClass : IsPartialEquivalence sameClass fun r => r.className ≠ Site.unknown :=
  isPartialEquivalence_of_place (fun _ _ => sameClass_iff) fun r => by simp [class?_eq_some_iff]

theorem isPartialEquivalence_sameOuterClass :
    IsPartialEquivalence sameOuterClass fun r => r.className ≠ Site.unknown :=
  isPartialEquivalence_of_place (fun _ _ => sameOuterClass_iff) fun r => by simp [outermost?_eq_some_iff]

theorem isPartialEquivalence_sameMethod :
    IsPartialEquivalence sameMethod fun r => r.className ≠ Site.unknown ∧ r.methodName ≠ Site.unknown :=
  isPartialEquivalence_of_place (fun _ _ => sameMethod_iff) fun r => by simp [method?_eq_some_iff]

theorem sameClass_of_sameMethod (h : r.sameMethod target = true) : r.sameClass target = true := by
  rw [sameMethod, Bool.and_eq_true, Bool.and_eq_true] at h
  exact h.1.1

theorem sameOuterClass_of_sameClass (h : r.sameClass target = true) : r.sameOuterClass target = true := by
  rw [sameClass, Bool.and_eq_true, beq_iff_eq] at h
  rw [sameOuterClass, h.1, outerClass, outerClass, h.2, beq_self_eq_true, Bool.and_self]

/-- A record of unknown class is related to no record, on either side. -/
theorem sameOuterClass_eq_false (h : r.className = Site.unknown ∨ target.className = Site.unknown) :
    r.sameOuterClass target = false := by
  rw [Bool.eq_false_iff, ne_eq, sameOuterClass_iff]
  rintro ⟨_, hr, htarget⟩
  rcases h with h | h
  · exact (outermost?_eq_some_iff.1 hr).1 h
  · exact (outermost?_eq_some_iff.1 htarget).1 h

end Record

/-! ## Matchers -/

namespace Matcher

/-- Whether a matcher keeps some of what another one keeps, in its order, and fails where that one fails. -/
structure Within (inner outer : Matcher) : Prop where
  kept : ∀ {entries kept}, outer.apply entries = .ok kept →
    ∃ fewer, inner.apply entries = .ok fewer ∧ fewer.Sublist kept
  failed : ∀ {entries fault}, outer.apply entries = .error fault → inner.apply entries = .error fault

/-- A relation that implies another one keeps some of what that one keeps. -/
theorem within_related (inner outer : Relation) {target : Entry}
    (himp : ∀ r : Record, inner.holds r target.toRecord = true → outer.holds r target.toRecord = true) :
    Within (related inner target) (related outer target) where
  kept h := by
    cases h
    exact ⟨_, rfl, List.monotone_filter_right _ fun e => himp e.toRecord⟩
  failed h := by cases h

/-- The same of the last step by which a relative matcher is narrowed. -/
theorem within_relative (inner outer : Relation) {target : Entry}
    (himp : ∀ r : Record, inner.holds r target.toRecord = true → outer.holds r target.toRecord = true)
    (side : Side) (steps : List Relation) :
    Within (relative side target (steps ++ [inner])) (relative side target (steps ++ [outer])) where
  kept {entries kept} h := by
    rw [apply_relative] at h ⊢
    cases hcut : cut side target entries with
    | error fault => rw [hcut] at h; cases h
    | ok part =>
      rw [hcut] at h
      cases h
      refine ⟨_, rfl, List.monotone_filter_right part fun e he => ?_⟩
      simp only [List.all_append, List.all_cons, List.all_nil, Bool.and_true, Bool.and_eq_true] at he ⊢
      exact ⟨he.1, himp e.toRecord he.2⟩
  failed {entries fault} h := by
    rw [apply_relative] at h ⊢
    cases hcut : cut side target entries with
    | error fault' => rw [hcut] at h; exact h
    | ok part => rw [hcut] at h; cases h

end Matcher

/-- **The relations of one place.** To come from one function, from one class and from one outermost class are partial
equivalences: symmetric, transitive, and true of a record and itself exactly if the names in question are known. Each
implies the next one, and a record of unknown class is in none of them to any record. The outermost class of an
outermost class is that class. So a matcher for the function, of its own or as a further step of a relative matcher,
keeps some of what the matcher for the class keeps, in the same order, and that one some of what the matcher for the
outermost class keeps. -/
theorem places_nested :
    IsPartialEquivalence Record.sameMethod (fun r => r.className ≠ Site.unknown ∧ r.methodName ≠ Site.unknown) ∧
    IsPartialEquivalence Record.sameClass (fun r => r.className ≠ Site.unknown) ∧
    IsPartialEquivalence Record.sameOuterClass (fun r => r.className ≠ Site.unknown) ∧
    (∀ r target : Record, (r.sameMethod target = true → r.sameClass target = true) ∧
      (r.sameClass target = true → r.sameOuterClass target = true)) ∧
    (∀ r target : Record, r.className = Site.unknown ∨ target.className = Site.unknown →
      r.sameMethod target = false ∧ r.sameClass target = false ∧ r.sameOuterClass target = false) ∧
    (∀ name, Site.outerClass (Site.outerClass name) = Site.outerClass name) ∧
    ∀ target : Entry,
      (Matcher.related .sameMethod target).Within (.related .sameClass target) ∧
      (Matcher.related .sameClass target).Within (.related .sameOuterClass target) ∧
      ∀ side steps,
        (Matcher.relative side target (steps ++ [.sameMethod])).Within (.relative side target (steps ++ [.sameClass])) ∧
        (Matcher.relative side target (steps ++ [.sameClass])).Within
          (.relative side target (steps ++ [.sameOuterClass])) := by
  have hclass : ∀ {r target : Record}, r.sameMethod target = true → r.sameClass target = true :=
    Record.sameClass_of_sameMethod
  have houter : ∀ {r target : Record}, r.sameClass target = true → r.sameOuterClass target = true :=
    Record.sameOuterClass_of_sameClass
  refine ⟨Record.isPartialEquivalence_sameMethod, Record.isPartialEquivalence_sameClass,
    Record.isPartialEquivalence_sameOuterClass, fun r target => ⟨hclass, houter⟩, fun r target h => ?_,
    Site.outerClass_outerClass, fun target => ⟨Matcher.within_related .sameMethod .sameClass fun _ => hclass,
      Matcher.within_related .sameClass .sameOuterClass fun _ => houter, fun side steps =>
        ⟨Matcher.within_relative .sameMethod .sameClass (fun _ => hclass) side steps,
          Matcher.within_relative .sameClass .sameOuterClass (fun _ => houter) side steps⟩⟩⟩
  have hfalse := Record.sameOuterClass_eq_false h
  have hnotClass : r.sameClass target = false := Bool.eq_false_iff.2 fun hsame => by
    rw [houter hsame] at hfalse
    cases hfalse
  refine ⟨Bool.eq_false_iff.2 fun hsame => ?_, hnotClass, hfalse⟩
  rw [hclass hsame] at hnotClass
  cases hnotClass

end LogAssay
