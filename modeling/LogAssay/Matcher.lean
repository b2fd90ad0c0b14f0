import LogAssay.Predicate

/-!
# Matchers

A matcher turns a view of captured entries into another view and has a label that tells what it does. A
*relative* matcher cuts the view at a target entry, which has to be in it, and keeps what was captured
before or after; it can be narrowed to the entries that stand in some relations to the target. Other
matchers keep the entries that stand in a relation to a target wherever it is, that satisfy a condition, or
keep all and order them by time.
-/

namespace LogAssay

/-- A relation between an entry and the target of a matcher. -/
inductive Relation where
  | sameThread
  | sameOuterClass
  | sameClass
  | sameMethod
  deriving DecidableEq, Repr

namespace Relation

/-- Whether an entry stands in a relation to a target. -/
def holds (relation : Relation) (r target : Record) : Bool :=
  match relation with
  | sameThread => r.sameThread target
  | sameOuterClass => r.sameOuterClass target
  | sameClass => r.sameClass target
  | sameMethod => r.sameMethod target

/-- The name of a relation where it narrows a relative matcher. -/
def narrowing : Relation → String
  | sameThread => "in_same_thread()"
  | sameOuterClass => "from_same_outer_class()"
  | sameClass => "from_same_class()"
  | sameMethod => "from_same_method()"

/-- The name of a relation where it makes a matcher of its own. -/
def standalone : Relation → String
  | sameThread => "in_same_thread_as"
  | sameOuterClass => "from_same_outer_class_as"
  | sameClass => "from_same_class_as"
  | sameMethod => "from_same_method_as"

end Relation

/-- The side of the target that a relative matcher keeps. -/
inductive Side where
  | before
  | after
  deriving DecidableEq, Repr

def Side.name : Side → String
  | before => "before"
  | after => "after"

/-- A labelled step from one view of entries to another. -/
inductive Matcher where
  /-- What was captured on one side of a target, narrowed by some relations to it. -/
  | relative (side : Side) (target : Entry) (narrowed : List Relation)
  /-- The entries in a relation to a target. -/
  | related (relation : Relation) (target : Entry)
  /-- All entries, ordered by time. -/
  | ordered
  /-- The entries that satisfy a condition. -/
  | selected (label : String) (condition : Condition)

/-- Whether the first of two entries may stand before the second one by time. -/
def Entry.notLater (a b : Entry) : Bool := decide (a.timestamp.micros ≤ b.timestamp.micros)

/-- The entries ordered by time; entries of one time keep their order. -/
def orderedByTime (entries : List Entry) : List Entry := entries.mergeSort Entry.notLater

/-- The entries before and after the first occurrence of a target. -/
def cutAt? (target : Entry) : List Entry → Option (List Entry × List Entry)
  | [] => none
  | e :: rest =>
    if e.same target then some ([], rest)
    else (cutAt? target rest).map fun (before, after) => (e :: before, after)

def filterOrFail (test : Entry → Except Fault Bool) : List Entry → Except Fault (List Entry)
  | [] => .ok []
  | e :: rest => do
    let keep ← test e
    let kept ← filterOrFail test rest
    return if keep then e :: kept else kept

namespace Matcher

def label : Matcher → String
  | relative side target narrowed =>
    String.join ((side.name ++ "(" ++ target.snippet ++ ")")
      :: narrowed.map fun relation => "." ++ relation.narrowing)
  | related relation target => relation.standalone ++ "(" ++ target.snippet ++ ")"
  | ordered => "ordered_by_timestamp()"
  | selected label _ => label

/-- The side of a target, without narrowing. -/
def cut (side : Side) (target : Entry) (entries : List Entry) : Except Fault (List Entry) :=
  match cutAt? target entries with
  | none => .error (.notInView target.shown)
  | some (before, after) =>
    match side with
    | .before => .ok before
    | .after => .ok after

/-- A step narrowed to the entries that stand in a relation to a target. -/
def narrow (target : Entry) (step : List Entry → Except Fault (List Entry)) (relation : Relation)
    (entries : List Entry) : Except Fault (List Entry) :=
  (step entries).map fun kept => kept.filter fun e => relation.holds e.toRecord target.toRecord

def apply (m : Matcher) (entries : List Entry) : Except Fault (List Entry) :=
  match m with
  | relative side target narrowed => narrowed.foldl (narrow target) (cut side target) entries
  | related relation target =>
    .ok (entries.filter fun e => relation.holds e.toRecord target.toRecord)
  | ordered => .ok (orderedByTime entries)
  | selected _ condition => filterOrFail condition.run entries

/-- A step narrowed several times keeps what stands in all of the relations. -/
theorem foldl_narrow (target : Entry) (relations : List Relation) (step : List Entry → Except Fault (List Entry))
    (entries : List Entry) :
    relations.foldl (narrow target) step entries = (step entries).map fun kept =>
      kept.filter fun e => relations.all fun relation => relation.holds e.toRecord target.toRecord := by
  induction relations generalizing step with
  | nil =>
    have hall (kept : List Entry) : kept.filter (fun _ => true) = kept := List.filter_eq_self.2 fun _ _ => rfl
    simp only [List.foldl_nil, List.all_nil, hall]
    cases step entries <;> rfl
  | cons relation others ih =>
    rw [List.foldl_cons, ih, narrow]
    cases step entries <;> simp [Except.map, List.filter_filter, Bool.and_comm]

theorem apply_relative (side : Side) (target : Entry) (narrowed : List Relation) (entries : List Entry) :
    (relative side target narrowed).apply entries = (cut side target entries).map fun kept =>
      kept.filter fun e => narrowed.all fun relation => relation.holds e.toRecord target.toRecord :=
  foldl_narrow target narrowed (cut side target) entries

/-- The view that several matchers make one after the other. -/
def applyAll : List Matcher → List Entry → Except Fault (List Entry)
  | [], entries => .ok entries
  | m :: others, entries => m.apply entries >>= applyAll others

end Matcher

end LogAssay
