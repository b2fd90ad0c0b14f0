import LogAssay.Pattern.Reader
import LogAssay.Record
import LogAssay.Severity.Request

/-!
# Predicates

A predicate is a test of one entry together with a description, so that a failed assertion can say what was
checked. A test may fail where it compares numbers. Predicates combine by conjunction, disjunction and
negation, the second part of a combination being tested only if the first leaves it open. A *criterion* is
what a predicate is built from; building it may fail.
-/

namespace LogAssay

/-- A described test of entries. -/
structure Predicate where
  description : String
  test : Entry → Except Fault Bool

namespace Predicate

/-- Both tests hold; the second one is not run if the first fails. -/
def and (p q : Predicate) : Predicate where
  description := "(" ++ p.description ++ " and " ++ q.description ++ ")"
  test e := do if ← p.test e then q.test e else pure false

/-- One of the tests holds; the second one is not run if the first does. -/
def or (p q : Predicate) : Predicate where
  description := "(" ++ p.description ++ " or " ++ q.description ++ ")"
  test e := do if ← p.test e then pure true else q.test e

def not (p : Predicate) : Predicate where
  description := "not (" ++ p.description ++ ")"
  test e := do return !(← p.test e)

/-- The predicate of a test that cannot fail. -/
def ofTest (description : String) (test : Entry → Bool) : Predicate where
  description := description
  test e := .ok (test e)

end Predicate

/-- Whether fragments occur in a text one behind the other. -/
def containsInOrder : List (List Char) → List Char → Bool
  | [], _ => true
  | fragment :: others, text =>
    match Text.behind? fragment text with
    | some rest => containsInOrder others rest
    | none => false

/-- How a severity is compared with the requested one. -/
inductive Comparison where
  | equal
  | atLeast
  | atMost
  | greater
  | less
  deriving DecidableEq, Repr

namespace Comparison

def sign : Comparison → String
  | equal => "=="
  | atLeast => ">="
  | atMost => "<="
  | greater => ">"
  | less => "<"

/-- Whether a severity compares so with the requested one. -/
def holds (c : Comparison) (actual requested : Severity) : Bool :=
  match c with
  | equal => actual == requested
  | atLeast => decide (requested ≤ actual)
  | atMost => decide (actual ≤ requested)
  | greater => decide (requested < actual)
  | less => decide (actual < requested)

end Comparison

/-- What a predicate is built from. -/
inductive Criterion where
  /-- All fragments occur in the message, in order. -/
  | fragments (fragments : List String)
  /-- A piece of the message fits a pattern. -/
  | pattern (text : String)
  /-- The severity compares so with the requested one. -/
  | severity (comparison : Comparison) (requested : Value)
  /-- There is a cause, of a type if one is given. -/
  | cause (expected : Option ErrorType)
  /-- A key has a value that agrees with the given one. -/
  | metadata (name : String) (expected : Value)
  /-- A key is there. -/
  | key (name : String)
  /-- The entry comes from the thread of another one. -/
  | thread (other : Entry)

def Criterion.build : Criterion → Except Fault Predicate
  | fragments fs =>
    if fs.isEmpty || fs.any (· == "") then .error .fragments
    else
      .ok <| .ofTest ("message contains " ++ ", ".intercalate (fs.map String.quoted)) fun e =>
        containsInOrder (fs.map String.toList) e.message.toList
  | pattern text => do
    let (mode, p) ← Pattern.read text
    return .ofTest ("message matches /" ++ text ++ "/") fun e =>
      p.foundIn mode e.message.toList.toArray
  | severity comparison requested => do
    let s ← Severity.ofValue requested
    return .ofTest ("level " ++ comparison.sign ++ " " ++ s.name) fun e =>
      comparison.holds e.severity s
  | cause none => .ok <| .ofTest "has cause" fun e => e.cause.isSome
  | cause (some expected) =>
    .ok <| .ofTest ("has cause " ++ expected.name) fun e => e.cause.any fun c => c.type.isA expected
  | metadata _ .nothing => .error .missingValue
  | metadata name expected => do
    let value ← expected.writeLiteral
    return ⟨"has metadata " ++ name ++ "=" ++ value, fun e => e.hasMetadata name expected⟩
  | key name => .ok <| .ofTest ("has metadata key " ++ name.quoted) fun e => e.hasKey name
  | thread other =>
    .ok <| .ofTest ("in same thread as " ++ other.snippet) fun e => e.sameThread other.toRecord

/-- What may be given where a predicate is asked for. -/
inductive Condition where
  | predicate (p : Predicate)
  /-- A plain test with a name. -/
  | plain (name : String) (test : Entry → Bool)
  /-- Something else. -/
  | other (v : Value)

namespace Condition

def toPredicate : Condition → Except Fault Predicate
  | predicate p => .ok p
  | plain name test => .ok (.ofTest ("satisfies " ++ name) test)
  | other v => .error (.notPredicate v.kindName)

def run : Condition → Entry → Except Fault Bool
  | predicate p, e => p.test e
  | plain _ test, e => .ok (test e)
  | other v, _ => .error (.cannotRun v.fullKindName)

end Condition

end LogAssay
