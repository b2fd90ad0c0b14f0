import LogAssay.Query.Basic

/-!
# Query scripts

A script is a list of operations on queries. Each works on the latest query that an operation made, or on an
earlier one that it names; an operation that fails makes none. Conditions and matchers are built when their
operation runs, so what it takes to build them may be a fault of its own.
-/

namespace LogAssay.Query

/-- An operation on a query. -/
inductive Operation where
  | keeping (criterion : Criterion)
  | filter (condition : Except Fault Condition)
  | filterBy (matcher : Except Fault Matcher)
  | matching (matchers : Except Fault (List Matcher))
  | ordered
  | allowingNoMatches
  | every (condition : Except Fault Condition)
  | none (condition : Except Fault Condition)
  | any (condition : Except Fault Condition)
  /-- A quantified condition, built after the quantifier has been checked. -/
  | quantified (quantifier : Quantifier) (condition : Except Fault Condition)
  | count
  | isEmpty
  | allMatches
  | matchCount
  | getMatch (index : Int)
  | getOnlyMatch
  | doNotOccur
  /-- All entries as they are shown. -/
  | display
  /-- A condition on each entry. -/
  | test (condition : Except Fault Condition)
  /-- A matcher on the view, without making a query. -/
  | apply (matcher : Except Fault Matcher)

/-- What an operation gives. -/
inductive Outcome where
  | query (q : Query)
  | entry (e : Entry)
  | entries (es : List Entry)
  | number (n : Nat)
  | flag (b : Bool)
  | nothing
  | shown (es : List Entry)
  | tested (description : String) (results : List Bool)
  | applied (label : String) (es : List Entry)

/-- The results of a test on some entries. -/
def testAll (p : Predicate) : List Entry → Except Fault (List Bool)
  | [] => .ok []
  | e :: rest => do
    let result ← p.test e
    let results ← testAll p rest
    return result :: results

def run (q : Query) : Operation → Except Fault Outcome
  | .keeping criterion => do return .query (← q.keeping (← criterion.build))
  | .filter condition => do return .query (← q.filter (← condition))
  | .filterBy matcher => do return .query (← q.filterBy (← matcher))
  | .matching matchers => do return .query (← q.matching (← matchers))
  | .ordered => .ok (.query q.ordered)
  | .allowingNoMatches => .ok (.query q.allowingNoMatches)
  | .every condition => do return .query (← q.every (← condition))
  | .none condition => do return .query (← q.none (← condition))
  | .any condition => do return .query (← q.any (← condition))
  | .quantified quantifier condition => do
    let quantified ← q.quantified quantifier
    return .query (← quantified.satisfy quantifier (← condition))
  | .count => .ok (.number q.entries.length)
  | .isEmpty => .ok (.flag q.entries.isEmpty)
  | .allMatches => .ok (.entries q.entries)
  | .matchCount => do return .number (← q.matchCount)
  | .getMatch index => do return .entry (← q.getMatch index)
  | .getOnlyMatch => do return .entry (← q.getOnlyMatch)
  | .doNotOccur => do
    q.doNotOccur
    return .nothing
  | .display => .ok (.shown q.entries)
  | .test condition => do
    let p ← (← condition).toPredicate
    return .tested p.description (← testAll p q.entries)
  | .apply matcher => do
    let m ← matcher
    return .applied m.label (← m.apply q.entries)

/-- An operation of a script and the query that it names: the initial one, or the one made by an earlier
operation. -/
structure Step where
  operation : Operation
  on : Option Int := .none

/-- The query that a step works on, given the initial one, the queries made so far by the operation that
made them, and the latest one. -/
def Step.subject (step : Step) (initial latest : Query) (made : List (Option Query)) : Query :=
  match step.on with
  | .none => latest
  | some index => if index < 0 then initial else (made[index.toNat]?.join).getD initial

def Outcome.query? : Outcome → Option Query
  | .query q => some q
  | _ => .none

/-- The outcomes of the steps of a script, going on after a failure. -/
def runFrom (initial latest : Query) (made : List (Option Query)) :
    List Step → List (Except Fault Outcome)
  | [] => []
  | step :: others =>
    let outcome := (step.subject initial latest made).run step.operation
    let fresh := match outcome with
      | .ok o => o.query?
      | .error _ => .none
    outcome :: runFrom initial (fresh.getD latest) (made ++ [fresh]) others

def runScript (q : Query) (steps : List Step) : List (Except Fault Outcome) := runFrom q q [] steps

/-- The latest query of a script that stops with its first failure. -/
def runThrough (initial latest : Query) (made : List (Option Query)) : List Step → Except Fault Query
  | [] => .ok latest
  | step :: others => do
    let outcome ← (step.subject initial latest made).run step.operation
    let fresh := outcome.query?
    runThrough initial (fresh.getD latest) (made ++ [fresh]) others

/-- The query that a script ends with, or its first failure. -/
def follow (q : Query) (steps : List Step) : Except Fault Query := runThrough q q [] steps

end LogAssay.Query
