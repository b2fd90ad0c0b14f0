import LogAssay.Site
import Mathlib.Data.List.DropRight

/-!
# Attribution of scope chains

A call stands in a chain of scopes: classes, functions, and functions without a name of their own. Its qualified name is
written from the names of the scopes. What the name is attributed to can be read off the chain: the function is the last
scope with a name of its own, and the class is the run of classes in front of it, once the functions that directly
enclose it are left.

A written name is read from the inside out, component by component. So a chain is read from the inside out too, and each
of the three walks along the components (past nameless functions, past enclosing functions, along classes) is the same
walk along the scopes, because a function is exactly what has a `<locals>` behind it.

## Main statements

* `pieces_join`: cutting undoes joining.
* `named_inward`, `leaveFunctions_inward`, `takeWhile_inward`: walks along components are walks along scopes.
* `Chain.attribution`: what a chain is attributed to, without a report.
-/

namespace LogAssay

/-! ## Joined pieces -/

namespace Text

variable {separator : Char}

theorem pieces_of_notMem : ∀ {piece : List Char}, separator ∉ piece → pieces separator piece = [piece]
  | [], _ => rfl
  | c :: piece, h => by
    rw [List.mem_cons, not_or] at h
    rw [pieces, if_neg (Ne.symm h.1), pieces_of_notMem h.2]

/-- The first piece ends at the first separator. -/
theorem pieces_append : ∀ {piece : List Char}, separator ∉ piece → ∀ rest : List Char,
    pieces separator (piece ++ separator :: rest) = piece :: pieces separator rest
  | [], _, rest => by rw [List.nil_append, pieces, if_pos rfl]
  | c :: piece, h, rest => by
    rw [List.mem_cons, not_or] at h
    rw [List.cons_append, pieces, if_neg (Ne.symm h.1), pieces_append h.2]

/-- **Cutting undoes joining**, if no piece has the separator. -/
theorem pieces_join : ∀ {ps : List (List Char)}, ps ≠ [] → (∀ p ∈ ps, separator ∉ p) →
    pieces separator (join separator ps) = ps
  | [], hne, _ => absurd rfl hne
  | [p], _, h => pieces_of_notMem (h p List.mem_cons_self)
  | p :: q :: ps, _, h => by
    rw [join, pieces_append (h p List.mem_cons_self),
      pieces_join (List.cons_ne_nil q ps) fun r hr => h r (List.mem_cons_of_mem p hr)]
    simp

end Text

namespace Site

/-! ## Chains of scopes -/

/-- A name that a class or a function can be given. -/
structure Name where
  text : List Char
  undotted : '.' ∉ text
  unbracketed : ¬(text.head? = some '<' ∧ text.getLast? = some '>')

/-- The functions without a name of their own. -/
inductive Nameless where
  | lambda
  | generator
  | listComprehension
  | dictComprehension
  | setComprehension
  deriving DecidableEq, Repr

def Nameless.text : Nameless → List Char
  | lambda => "<lambda>".toList
  | generator => "<genexpr>".toList
  | listComprehension => "<listcomp>".toList
  | dictComprehension => "<dictcomp>".toList
  | setComprehension => "<setcomp>".toList

inductive Scope where
  | classScope (name : Name)
  | function (name : Name)
  | nameless (kind : Nameless)

namespace Scope

def text : Scope → List Char
  | classScope name => name.text
  | function name => name.text
  | nameless kind => kind.text

/-- Whether a scope has a name of its own. -/
def isNamed : Scope → Bool
  | classScope _ | function _ => true
  | nameless _ => false

def isClass : Scope → Bool
  | classScope _ => true
  | function _ | nameless _ => false

/-- Whether a scope is a function, with a name of its own or without. -/
def isFunction : Scope → Bool
  | classScope _ => false
  | function _ | nameless _ => true

/-- The components of a scope that something is nested in. -/
def around (s : Scope) : List (List Char) := if s.isFunction then [s.text, localsMark] else [s.text]

end Scope

/-- The scopes around a call, the outermost one first; there is at least one. -/
structure Chain where
  outer : List Scope
  innermost : Scope

namespace Chain

def scopes (c : Chain) : List Scope := c.outer ++ [c.innermost]

/-- The names of the scopes, with `<locals>` behind every function that is not the last scope. -/
def components (c : Chain) : List (List Char) := c.outer.flatMap Scope.around ++ [c.innermost.text]

/-- The qualified name that is written for a chain. -/
def qualifiedName (c : Chain) : String := String.ofList (Text.join '.' c.components)

/-- The chain up to its last scope with a name of its own. -/
def upToNamed (c : Chain) : List Scope := c.scopes.rdropWhile (!·.isNamed)

/-- The name of the last scope with a name of its own; that of the innermost scope if there is none. -/
def function (c : Chain) : String := String.ofList ((c.upToNamed.getLast?.map Scope.text).getD c.innermost.text)

/-- The run of classes that ends the chain in front of its last scope with a name of its own, once the functions that
directly enclose this scope are dropped. -/
def classes (c : Chain) : List Scope := (c.upToNamed.dropLast.rdropWhile Scope.isFunction).rtakeWhile Scope.isClass

/-- The dotted name of the classes; empty if there is none. -/
def enclosing (c : Chain) : String := String.ofList (Text.join '.' (c.classes.map Scope.text))

end Chain

/-! ## Components of scopes -/

theorem Nameless.isPassedOver_text (kind : Nameless) : isPassedOver kind.text = true := by cases kind <;> decide

theorem isUnconventional_of_isPassedOver {component : List Char} (h : isPassedOver component = true) :
    isUnconventional component = false := by
  rw [isUnconventional, h, Bool.not_true, Bool.and_false, Bool.false_and]

theorem isPassedOver_localsMark : isPassedOver localsMark = true := by decide

namespace Name

variable (name : Name)

theorem isPassedOver_text : isPassedOver name.text = false := by
  rw [Bool.eq_false_iff]
  intro h
  have hbrackets : ∀ component ∈ localsMark :: syntheticNames,
      component.head? = some '<' ∧ component.getLast? = some '>' := by decide
  refine name.unbracketed (hbrackets name.text ?_)
  rw [isPassedOver, Bool.or_eq_true, List.contains_iff_mem, beq_iff_eq] at h
  exact List.mem_cons.2 h.symm

theorem isUnconventional_text : isUnconventional name.text = false := by
  rw [Bool.eq_false_iff]
  intro h
  simp only [isUnconventional, Bool.and_eq_true, beq_iff_eq] at h
  exact name.unbracketed ⟨h.1.1.1, h.1.1.2⟩

end Name

namespace Scope

variable (s : Scope)

theorem isPassedOver_text : isPassedOver s.text = !s.isNamed := by
  cases s with
  | classScope name => exact name.isPassedOver_text
  | function name => exact name.isPassedOver_text
  | nameless kind => exact kind.isPassedOver_text

theorem isUnconventional_text : isUnconventional s.text = false := by
  cases s with
  | classScope name => exact name.isUnconventional_text
  | function name => exact name.isUnconventional_text
  | nameless kind => exact isUnconventional_of_isPassedOver kind.isPassedOver_text

theorem undotted : '.' ∉ s.text := by
  cases s with
  | classScope name => exact name.undotted
  | function name => exact name.undotted
  | nameless kind => cases kind <;> decide

theorem mem_around {s : Scope} {component : List Char} (h : component ∈ s.around) :
    component = s.text ∨ component = localsMark := by
  rw [around] at h
  split at h
  · simpa using h
  · exact .inl (List.mem_singleton.1 h)

theorem isClass_eq_not_isFunction : s.isClass = !s.isFunction := by cases s <;> rfl

/-- A class is no mark. -/
theorem text_ne_localsMark {s : Scope} (h : s.isClass = true) : s.text ≠ localsMark := by
  intro hmark
  have hpassed := s.isPassedOver_text
  rw [hmark, isPassedOver_localsMark] at hpassed
  cases s with
  | classScope name => cases hpassed
  | function name => cases h
  | nameless kind => cases h

end Scope

/-! ## Walks along scopes -/

/-- The components of scopes that something is nested in, both from the inside out. -/
def inwardOf (scopes : List Scope) : List (List Char) := scopes.flatMap fun s => s.around.reverse

theorem inwardOf_class {s : Scope} (h : s.isFunction = false) (others : List Scope) :
    inwardOf (s :: others) = s.text :: inwardOf others := by
  rw [inwardOf, List.flatMap_cons, Scope.around, if_neg (Bool.eq_false_iff.1 h)]
  rfl

theorem inwardOf_function {s : Scope} (h : s.isFunction = true) (others : List Scope) :
    inwardOf (s :: others) = localsMark :: s.text :: inwardOf others := by
  rw [inwardOf, List.flatMap_cons, Scope.around, if_pos h]
  rfl

/-- What the walk to the nearest named function comes to, and what it leaves. -/
def namedOf : List Scope → List (List Char)
  | [] => []
  | s :: others => s.text :: inwardOf others

theorem named_cons (s : Scope) (components : List (List Char)) :
    named (s.text :: components) = if s.isNamed then s.text :: components else named components := by
  rw [named, List.dropWhile_cons, s.isPassedOver_text]
  cases s.isNamed <;> rfl

/-- The walk past nameless functions. -/
theorem named_inwardOf (scopes : List Scope) :
    named (inwardOf scopes) = namedOf (scopes.dropWhile (!·.isNamed)) := by
  induction scopes with
  | nil => rfl
  | cons s others ih =>
    have hwalk : named (s.text :: inwardOf others) = namedOf ((s :: others).dropWhile (!·.isNamed)) := by
      rw [named_cons, List.dropWhile_cons, ih]
      cases s.isNamed <;> rfl
    cases hs : s.isFunction with
    | false => rw [inwardOf_class hs, hwalk]
    | true =>
      rw [inwardOf_function hs, ← hwalk]
      exact List.dropWhile_cons_of_pos isPassedOver_localsMark

/-- The walk past the functions that directly enclose a scope. -/
theorem leaveFunctions_inwardOf (scopes : List Scope) :
    leaveFunctions (inwardOf scopes) = inwardOf (scopes.dropWhile Scope.isFunction) := by
  induction scopes with
  | nil => rfl
  | cons s others ih =>
    cases hs : s.isFunction with
    | false =>
      have hne : s.text ≠ localsMark := Scope.text_ne_localsMark (by rw [s.isClass_eq_not_isFunction, hs]; rfl)
      rw [List.dropWhile_cons_of_neg (by rw [hs]; exact Bool.false_ne_true), inwardOf_class hs]
      cases inwardOf others with
      | nil => rw [leaveFunctions, if_neg hne]
      | cons d ds => rw [leaveFunctions, if_neg hne]
    | true =>
      rw [List.dropWhile_cons_of_pos hs, inwardOf_function hs, leaveFunctions, if_pos rfl, ih]

/-- The walk along classes. -/
theorem takeWhile_inwardOf (scopes : List Scope) :
    (inwardOf scopes).takeWhile (· ≠ localsMark) = (scopes.takeWhile Scope.isClass).map Scope.text := by
  induction scopes with
  | nil => rfl
  | cons s others ih =>
    cases hs : s.isFunction with
    | false =>
      have hclass : s.isClass = true := by rw [s.isClass_eq_not_isFunction, hs]; rfl
      rw [List.takeWhile_cons_of_pos hclass, inwardOf_class hs, List.map_cons, ← ih]
      exact List.takeWhile_cons_of_pos (decide_eq_true (Scope.text_ne_localsMark hclass))
    | true =>
      have hclass : ¬s.isClass = true := by rw [s.isClass_eq_not_isFunction, hs]; exact Bool.false_ne_true
      rw [List.takeWhile_cons_of_neg hclass, inwardOf_function hs]
      exact List.takeWhile_cons_of_neg (by simp)

/-! ## Reading a written name -/

namespace Chain

variable (c : Chain)

theorem undotted : ∀ component ∈ c.components, '.' ∉ component := by
  intro component h
  rcases List.mem_append.1 h with h | h
  · obtain ⟨s, -, hs⟩ := List.mem_flatMap.1 h
    rcases Scope.mem_around hs with rfl | rfl
    · exact s.undotted
    · decide
  · rw [List.mem_singleton.1 h]
    exact c.innermost.undotted

theorem isUnconventional_components : c.components.any isUnconventional = false := by
  rw [List.any_eq_false]
  intro component h
  rw [Bool.not_eq_true]
  rcases List.mem_append.1 h with h | h
  · obtain ⟨s, -, hs⟩ := List.mem_flatMap.1 h
    rcases Scope.mem_around hs with rfl | rfl
    · exact s.isUnconventional_text
    · exact isUnconventional_of_isPassedOver isPassedOver_localsMark
  · rw [List.mem_singleton.1 h]
    exact c.innermost.isUnconventional_text

/-- **A written name is read back as its components**, from the inside out. -/
theorem inward_qualifiedName : inward c.qualifiedName.toList = c.components.reverse := by
  have hne : c.components ≠ [] := List.append_ne_nil_of_right_ne_nil _ (List.cons_ne_nil _ _)
  rw [inward, qualifiedName, String.toList_ofList, Text.pieces_join hne c.undotted]

theorem reverse_components : c.components.reverse = c.innermost.text :: inwardOf c.outer.reverse := by
  rw [components, List.reverse_append, List.reverse_flatMap]
  rfl

/-- The walk to the last scope with a name of its own. -/
theorem named_components : named c.components.reverse = namedOf c.upToNamed.reverse := by
  rw [reverse_components, named_cons, named_inwardOf, upToNamed, List.rdropWhile, List.reverse_reverse, scopes,
    List.reverse_append, List.reverse_singleton, List.singleton_append, List.dropWhile_cons]
  cases c.innermost.isNamed <;> rfl

theorem methodOf_components : String.ofList (methodOf c.components.reverse) = c.function := by
  have hhead : c.components.reverse.head?.getD [] = c.innermost.text := by rw [reverse_components]; rfl
  rw [methodOf, hhead, named_components, function, ← List.head?_reverse]
  cases c.upToNamed.reverse with
  | nil => rfl
  | cons s others =>
    show String.ofList (if isUnconventional s.text then c.innermost.text else s.text) = String.ofList s.text
    rw [s.isUnconventional_text, if_neg Bool.false_ne_true]

theorem classesOf_components : classesOf c.components.reverse = c.classes.map Scope.text := by
  have htail : (namedOf c.upToNamed.reverse).tail = inwardOf c.upToNamed.dropLast.reverse := by
    rw [← List.tail_reverse]
    cases c.upToNamed.reverse with
    | nil => rfl
    | cons s others => rfl
  rw [classesOf, named_components, htail, leaveFunctions_inwardOf, takeWhile_inwardOf, classes, List.rtakeWhile,
    List.rdropWhile, List.reverse_reverse, List.map_reverse]

theorem classOf_components : String.ofList (classOf c.components.reverse) = c.enclosing := by
  have hconventional : c.components.reverse.any isUnconventional = false := by
    rw [List.any_reverse, isUnconventional_components]
  rw [classOf, hconventional, if_neg Bool.false_ne_true, classesOf_components, enclosing]

theorem breaksClassConvention_qualifiedName : breaksClassConvention c.qualifiedName = false := by
  rw [breaksClassConvention, inward_qualifiedName, List.any_reverse, isUnconventional_components]

theorem breaksMethodConvention_qualifiedName : breaksMethodConvention c.qualifiedName = false := by
  rw [breaksMethodConvention, inward_qualifiedName, named_components]
  cases c.upToNamed.reverse with
  | nil => rfl
  | cons s others => exact s.isUnconventional_text

/-- **Attribution follows the chain of scopes.** From the qualified name of a chain:

* the function that is found is the last scope with a name of its own, or the innermost scope if none has one;
* the class that is found is the run of classes in front of that scope, once the functions that directly enclose it are
  dropped;
* a site has the class behind its module, or the module alone if there is no class;
* nothing is reported. -/
theorem attribution (latches : Latches) (module : String) :
    methodName c.qualifiedName = c.function ∧ className c.qualifiedName = c.enclosing ∧
      infer latches module c.qualifiedName
        = ((if c.enclosing = "" then module else module ++ ":" ++ c.enclosing, c.function), latches, []) ∧
      noteClass latches c.qualifiedName = (latches, []) ∧ noteMethod latches c.qualifiedName = (latches, []) := by
  have hmethod : methodName c.qualifiedName = c.function := by
    rw [methodName, inward_qualifiedName, methodOf_components]
  have hclass : className c.qualifiedName = c.enclosing := by
    rw [className, inward_qualifiedName, classOf_components]
  have hnoteClass : noteClass latches c.qualifiedName = (latches, []) := by
    rw [noteClass, breaksClassConvention_qualifiedName]
    rfl
  have hnoteMethod : noteMethod latches c.qualifiedName = (latches, []) := by
    rw [noteMethod, breaksMethodConvention_qualifiedName]
    rfl
  refine ⟨hmethod, hclass, ?_, hnoteClass, hnoteMethod⟩
  simp only [infer, attributed, note, hclass, hmethod, hnoteClass, hnoteMethod, List.append_nil]

/-- A lambda in a method of a class that a function makes. -/
example :
    let c : Chain := ⟨[.function ⟨"make".toList, by decide, by decide⟩,
      .classScope ⟨"Local".toList, by decide, by decide⟩, .function ⟨"run".toList, by decide, by decide⟩],
      .nameless .lambda⟩
    c.qualifiedName = "make.<locals>.Local.run.<locals>.<lambda>" ∧ c.function = "run" ∧ c.enclosing = "Local" := by
  decide

end Chain

end Site

end LogAssay
