import LogAssay.Query.Basic

/-!
# Expected counts

An expectation asks a question of the captured entries and says how many entries the answer is to have. What
it matched is expected from then on. Questions are asked when a capture ends, and may refer to any entry that
has been captured by then, in whatever capture.
-/

namespace LogAssay

/-- A question to a view of entries, given all entries there are. -/
abbrev Question (α : Type) := List Entry → Query → Except Fault α

/-- How a number of entries is compared with its bound. -/
inductive Amount where
  | exactly
  | atLeast
  | atMost
  | moreThan
  | fewerThan
  deriving DecidableEq, Repr

namespace Amount

def wording : Amount → String
  | exactly => "exactly"
  | atLeast => "at least"
  | atMost => "at most"
  | moreThan => "more than"
  | fewerThan => "fewer than"

/-- Whether a count satisfies a comparison with a bound. -/
def holds (a : Amount) (count bound : Nat) : Bool :=
  match a with
  | exactly => count == bound
  | atLeast => decide (bound ≤ count)
  | atMost => decide (count ≤ bound)
  | moreThan => decide (bound < count)
  | fewerThan => decide (count < bound)

end Amount

/-- A question with the number of entries that its answer is to have. -/
structure Expectation where
  question : Question Query
  amount : Amount
  bound : Nat

namespace Expectation

/-- The entries that an expectation matches, if their number is as expected. -/
def check (e : Expectation) (archive : List Entry) (logs : Query) : Except Fault (List Entry) := do
  let answer ← e.question archive logs
  let count := answer.entries.length
  if e.amount.holds count e.bound then return answer.entries
  throw (answer.failure
    { text := "expected " ++ e.amount.wording ++ " " ++ e.bound.numeral ++ " matching logs, found " ++ count.numeral
      writable := Decimal.isWritable e.bound } answer.entries)

/-- The entries that expectations match, up to the first one that is not met. -/
def checkAll (archive : List Entry) (logs : Query) : List Expectation → Except Fault (List Entry)
  | [] => .ok []
  | e :: others => do
    let matched ← e.check archive logs
    let rest ← checkAll archive logs others
    return matched ++ rest

end Expectation

/-- A question whose answer is to have a number of entries that is perhaps not said yet. -/
structure OpenExpectation where
  question : Question Query
  isSet : Bool := false

namespace OpenExpectation

/-- The expectation with its number of entries said, which can be done once. -/
def set (o : OpenExpectation) (amount : Amount) (bound : Int) : Except Fault Expectation :=
  if o.isSet then .error .countSet
  else if bound < 0 then .error (.countNegative bound)
  else .ok ⟨o.question, amount, bound.toNat⟩

end OpenExpectation

end LogAssay
