import LogAssay.Diagnostic
import LogAssay.Text.Split

/-!
# Call sites

A call site is a module and a qualified name: the names of the scopes around the call from the outside in,
joined by dots, with `<locals>` behind every function that something is nested in. Lambdas, generator
expressions and comprehensions are functions without a name of their own.

A site is attributed to the nearest *named* function, and to the nearest named class around it. A function
that directly encloses the site is passed over on the way to the class, and what lies in front of any further
`<locals>` belongs to another function. A component of the form `<...>` that the convention does not know is
left as it is, and that is reported once for classes and once for functions.
-/

namespace LogAssay.Site

/-- What stands for a site that is not known. -/
def unknown : String := "<unknown>"

/-- The mark behind a function that something is nested in. -/
def localsMark : List Char := "<locals>".toList

/-- The name of code outside any function. -/
def moduleName : List Char := "<module>".toList

/-- The names of functions without a name of their own. -/
def syntheticNames : List (List Char) :=
  ["<lambda>".toList, "<genexpr>".toList, "<listcomp>".toList, "<dictcomp>".toList,
   "<setcomp>".toList]

/-- Whether a component names no scope of its own. -/
def isPassedOver (component : List Char) : Bool :=
  syntheticNames.contains component || component == localsMark

/-- Whether a component has the form `<...>` but lies outside the convention. -/
def isUnconventional (component : List Char) : Bool :=
  component.head? == some '<' && component.getLast? == some '>'
    && !isPassedOver component && component != moduleName

/-- The components of a qualified name, innermost first. -/
def inward (qualifiedName : List Char) : List (List Char) := (Text.pieces '.' qualifiedName).reverse

/-- The components from the nearest named function outwards. -/
def named (components : List (List Char)) : List (List Char) := components.dropWhile isPassedOver

/-- The nearest named function; the innermost component if none is named, or if the nearest one is
unconventional. -/
def methodOf (components : List (List Char)) : List Char :=
  let innermost := components.head?.getD []
  match named components with
  | [] => innermost
  | nearest :: _ => if isUnconventional nearest then innermost else nearest

/-- The components without the functions that directly enclose them. -/
def leaveFunctions : List (List Char) → List (List Char)
  | [] => []
  | [c] => if c = localsMark then [] else [c]
  | c :: d :: others => if c = localsMark then leaveFunctions others else c :: d :: others

/-- The classes around the nearest named function, outermost first. -/
def classesOf (components : List (List Char)) : List (List Char) :=
  ((leaveFunctions (named components).tail).takeWhile (· ≠ localsMark)).reverse

/-- The qualified name of the nearest named class. With an unconventional component anywhere it is
everything around the innermost component. -/
def classOf (components : List (List Char)) : List Char :=
  if components.any isUnconventional then Text.join '.' components.tail.reverse
  else Text.join '.' (classesOf components)

/-- The name of the nearest named function of a qualified name. -/
def methodName (qualifiedName : String) : String :=
  String.ofList (methodOf (inward qualifiedName.toList))

/-- The name of the nearest named class of a qualified name; empty outside classes. -/
def className (qualifiedName : String) : String :=
  String.ofList (classOf (inward qualifiedName.toList))

/-- The class and the function that a site is attributed to. Outside classes the module stands in for the
class. -/
def attributed (module qualifiedName : String) : String × String :=
  let enclosing := className qualifiedName
  (if enclosing = "" then module else module ++ ":" ++ enclosing, methodName qualifiedName)

/-- The outermost class of a class name; a module has none and stands for itself. -/
def outerClass (name : String) : String :=
  match Text.cut? ':' name.toList with
  | none => name
  | some (module, qualified) =>
    String.ofList (module ++ ':' :: qualified.takeWhile (· ≠ '.'))

/-! ## Reports -/

/-- Which of the two reports on unconventional names have been made. -/
structure Latches where
  classReported : Bool := false
  methodReported : Bool := false
  deriving DecidableEq, Repr

/-- Whether the class of a qualified name is found outside the convention. -/
def breaksClassConvention (qualifiedName : String) : Bool :=
  (inward qualifiedName.toList).any isUnconventional

/-- Whether the function of a qualified name is found outside the convention. -/
def breaksMethodConvention (qualifiedName : String) : Bool :=
  (named (inward qualifiedName.toList)).head?.any isUnconventional

/-- Looking up the class of a qualified name: the report, if it is due and the first one. -/
def noteClass (latches : Latches) (qualifiedName : String) : Latches × List Caution :=
  if breaksClassConvention qualifiedName && !latches.classReported then
    (⟨true, latches.methodReported⟩, [.classConvention qualifiedName])
  else (latches, [])

/-- Looking up the function of a qualified name: the report, if it is due and the first one. -/
def noteMethod (latches : Latches) (qualifiedName : String) : Latches × List Caution :=
  if breaksMethodConvention qualifiedName && !latches.methodReported then
    (⟨latches.classReported, true⟩, [.methodConvention qualifiedName])
  else (latches, [])

/-- Looking up both: the reports that are due, the one on the class first. -/
def note (latches : Latches) (qualifiedName : String) : Latches × List Caution :=
  let (latches, first) := noteClass latches qualifiedName
  let (latches, second) := noteMethod latches qualifiedName
  (latches, first ++ second)

/-- The attribution of a site, with the reports that it brings. -/
def infer (latches : Latches) (module qualifiedName : String) :
    (String × String) × Latches × List Caution :=
  (attributed module qualifiedName, note latches qualifiedName)

end LogAssay.Site
