import LogAssay.Buffer
import LogAssay.Capture.Expectation
import LogAssay.Settings.Basic

/-!
# Captures

A capture owns the entries captured for one test, and what is to be checked of them when the test ends.
Expectations come first: each counts its entries among all that were captured, and the first one that is not
met ends the check. Verifications then see the entries that nobody expected, and run in order until one fails.
-/

namespace LogAssay

/-- The entries captured for one test, and what is to be checked of them. -/
structure Capture where
  settings : Settings := {}
  buffer : Buffer Entry := {}
  verifications : List (Question Unit) := []
  expectations : List Expectation := []
  expected : List Entry := []

namespace Capture

def collect (c : Capture) (e : Entry) : Capture := { c with buffer := c.buffer.append e }

def entries (c : Capture) : List Entry := c.buffer.snapshot.taken

def query (c : Capture) : Query := { entries := c.entries }

/-- The entry at an index, under a label of its own. -/
def log (c : Capture) (index : Int) : Except Fault Entry := do
  let label ← (Value.int index).write
  Query.getMatch { entries := c.entries, label := "log[" ++ label ++ "]" } index

/-! ## Order -/

/-- The place of the last occurrence of an entry. -/
def position? (logged : List Entry) (e : Entry) : Option Nat :=
  (logged.reverse.findIdx? (·.same e)).map (logged.length - 1 - ·)

/-- The places of entries, all of which have to be captured. -/
def positions (logged : List Entry) : List Entry → Except Fault (List Nat)
  | [] => .ok []
  | e :: others =>
    match position? logged e with
    | none => .error (.notCaptured e.shown)
    | some i => (positions logged others).map (i :: ·)

/-- Whether each number is below its successor. -/
def increasing : List Nat → Bool
  | a :: b :: others => decide (a < b) && increasing (b :: others)
  | _ => true

def checkOrder (c : Capture) (order : List Entry) : Except Fault Unit := do
  let places ← positions c.entries order
  if increasing places then return
  throw (c.query.failure "expected log entries to be in order" order)

/-! ## Checks at the end -/

def verify (c : Capture) (verification : Question Unit) : Capture :=
  { c with verifications := c.verifications ++ [verification] }

def clearVerifications (c : Capture) : Capture := { c with verifications := [] }

def expect (c : Capture) (es : List Entry) : Capture := { c with expected := c.expected ++ es }

def expectCount (c : Capture) (e : Expectation) : Capture :=
  { c with expectations := c.expectations ++ [e] }

def isAmong (es : List Entry) (e : Entry) : Bool := es.any (·.same e)

/-- The query for the entries that are not expected. -/
def unexpected (logs : Query) (expected : List Entry) : Except Fault Query :=
  if expected.isEmpty then .ok logs
  else logs.matching [.selected "not_in(<expected>)" (.plain "<lambda>" fun e => !isAmong expected e)]

def runVerifications (archive : List Entry) (logs : Query) : List (Question Unit) → Except Fault Unit
  | [] => .ok ()
  | v :: others => do
    v archive logs
    runVerifications archive logs others

/-- The check at the end of a test, given all entries there are. -/
def verification (c : Capture) (archive : List Entry) : Except Fault Unit := do
  let matched ← Expectation.checkAll archive c.query c.expectations
  let logs ← unexpected c.query (c.expected ++ matched)
  runVerifications archive logs c.verifications

end Capture

end LogAssay
