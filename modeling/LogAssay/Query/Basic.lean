import LogAssay.Matcher

/-!
# Queries

A query is a view of captured entries with a label that tells how it was made. Filtering gives a new query
and leaves the old one as it is. Assertions either give the query back or fail, and then tell the label, what
was expected, and the entries at fault: all entries that break a universal assertion, in view order.
-/

namespace LogAssay

/-- A labelled view of captured entries. -/
structure Query where
  entries : List Entry
  label : String := "logs"
  /-- Whether assertions on all entries may hold of none. -/
  allowEmpty : Bool := false

namespace Query

def failure (q : Query) (expectation : Wording) (failing : List Entry) : Fault :=
  .assertion q.label expectation (failing.map fun e => e.shown)

/-- A query made from another one by a step. -/
def derive (q : Query) (step : String) (entries : List Entry) : Query :=
  { q with entries := entries, label := q.label ++ "." ++ step }

/-- The entries that satisfy a predicate, under the name of a step. -/
def restrict (q : Query) (step : String) (p : Predicate) : Except Fault Query :=
  (filterOrFail p.test q.entries).map (q.derive step)

/-- The entries that satisfy a criterion's predicate. -/
def keeping (q : Query) (p : Predicate) : Except Fault Query :=
  q.restrict ("where(" ++ p.description ++ ")") p

def filter (q : Query) (condition : Condition) : Except Fault Query := do
  let p ← condition.toPredicate
  q.restrict ("filter(" ++ p.description ++ ")") p

def filterBy (q : Query) (m : Matcher) : Except Fault Query :=
  (m.apply q.entries).map (q.derive m.label)

def matching (q : Query) (ms : List Matcher) : Except Fault Query :=
  if ms.isEmpty then .ok q
  else
    (Matcher.applyAll ms q.entries).map
      (q.derive ("matching(" ++ ", ".intercalate (ms.map Matcher.label) ++ ")"))

def ordered (q : Query) : Query := q.derive "ordered_by_timestamp()" (orderedByTime q.entries)

/-- The same entries, of which there may be none. -/
def allowingNoMatches (q : Query) : Query :=
  { q.derive "allowing_no_matches()" q.entries with allowEmpty := true }

/-! ## Assertions -/

def every (q : Query) (condition : Condition) : Except Fault Query := do
  let p ← condition.toPredicate
  let failing ← filterOrFail p.not.test q.entries
  if failing.isEmpty then return q
  throw (q.failure ("expected every log to satisfy: " ++ p.description) failing)

def none (q : Query) (condition : Condition) : Except Fault Query := do
  let p ← condition.toPredicate
  let failing ← filterOrFail p.test q.entries
  if failing.isEmpty then return q
  throw (q.failure ("expected no log to satisfy: " ++ p.description) failing)

/-- Whether some entry satisfies a predicate; the search ends with the first that does. -/
def anySatisfies (p : Predicate) : List Entry → Except Fault Bool
  | [] => .ok false
  | e :: rest => do if ← p.test e then pure true else anySatisfies p rest

/-- Some entry satisfies a condition; never so where there is no entry. -/
def any (q : Query) (condition : Condition) : Except Fault Query := do
  let p ← condition.toPredicate
  if ← anySatisfies p q.entries then return q
  let expectation := "expected at least one log to satisfy: " ++ p.description
  throw (q.failure
    (if q.entries.isEmpty then expectation ++ ", but no logs were matched" else expectation : String)
    q.entries)

/-- What is told where there is no entry. -/
def emptyHint : String :=
  "no log entries were matched " ++
    "(to test potentially empty sequences, use 'allowing_no_matches()')"

/-- There is an entry, unless there need not be one. -/
def checkNotEmpty (q : Query) : Except Fault Unit :=
  if !q.allowEmpty && q.entries.isEmpty then .error (q.failure emptyHint []) else .ok ()

/-- How many of the entries an assertion speaks of. -/
inductive Quantifier where
  | always
  | never
  | atLeastOne
  deriving DecidableEq, Repr

def Quantifier.name : Quantifier → String
  | always => "always"
  | never => "never"
  | atLeastOne => "at_least_one"

/-- The query under a quantifier. Speaking of all entries asks for one, unless there need not be any. -/
def quantified (q : Query) (quantifier : Quantifier) : Except Fault Query := do
  match quantifier with
  | .atLeastOne => pure ()
  | _ => q.checkNotEmpty
  return q.derive (quantifier.name ++ "()") q.entries

def satisfy (q : Query) (quantifier : Quantifier) (condition : Condition) : Except Fault Query :=
  match quantifier with
  | .always => q.every condition
  | .never => q.none condition
  | .atLeastOne => q.any condition

/-! ## Results -/

/-- The number of entries, of which there has to be one unless there need not be any. -/
def matchCount (q : Query) : Except Fault Nat := do
  q.checkNotEmpty
  return q.entries.length

/-- The entry at an index from zero. -/
def getMatch (q : Query) (index : Int) : Except Fault Entry :=
  if index < 0 then .error .negativeIndex
  else
    match q.entries[index.toNat]? with
    | some e => .ok e
    | .none =>
      .error (q.failure
        { text := "expected at least " ++ (index + 1).numeral ++ " matching logs, found " ++ q.entries.length.numeral
          writable := Decimal.isWritable (index + 1) } [])

def getOnlyMatch (q : Query) : Except Fault Entry :=
  match q.entries with
  | [e] => .ok e
  | es =>
    let found := if es.isEmpty then "none" else es.length.numeral
    .error (q.failure ("expected to match exactly one log, found " ++ found) es)

def doNotOccur (q : Query) : Except Fault Unit :=
  if q.entries.isEmpty then .ok ()
  else .error (q.failure "expected no matching logs" q.entries)

def shown (q : Query) : String :=
  "LogsQuery(" ++ q.label.quoted ++ ", count=" ++ q.entries.length.numeral ++ ")"

end Query

end LogAssay
