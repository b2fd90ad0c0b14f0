/-!
# Causes

The error that an event was logged with. Every error has a type, and types are made like any other class: with a name,
which may be any text, and with bases. Asking for causes of a type finds those of all types that are derived from it
too. Two types of one name are still two types, and two causes of one type are still two errors: each has a serial
number.
-/

namespace LogAssay

/-- A type of errors. -/
inductive ErrorType where
  | derived (name : String) (serial : Nat) (bases : List ErrorType)
  deriving Repr

namespace ErrorType

def name : ErrorType → String
  | derived name _ _ => name

mutual

/-- Whether two types are one. -/
def decEq : (a b : ErrorType) → Decidable (a = b)
  | derived name serial bases, derived name' serial' bases' =>
    match decEqAll bases bases' with
    | isTrue hbases => decidable_of_iff (name = name' ∧ serial = serial') (by simp [hbases])
    | isFalse hbases => isFalse fun h => hbases (by cases h; rfl)

def decEqAll : (as bs : List ErrorType) → Decidable (as = bs)
  | [], [] => isTrue rfl
  | [], _ :: _ | _ :: _, [] => isFalse nofun
  | a :: as, b :: bs =>
    match decEq a b, decEqAll as bs with
    | isTrue h, isTrue hs => isTrue (by rw [h, hs])
    | isFalse h, _ => isFalse fun heq => h (List.cons.inj heq).1
    | _, isFalse hs => isFalse fun heq => hs (List.cons.inj heq).2

end

instance : DecidableEq ErrorType := decEq

mutual

/-- Whether a type is another one or is derived from it, directly or not. -/
def isA (t ancestor : ErrorType) : Bool :=
  match t with
  | derived name serial bases => decide (derived name serial bases = ancestor) || anyIsA bases ancestor

def anyIsA : List ErrorType → ErrorType → Bool
  | [], _ => false
  | t :: others, ancestor => isA t ancestor || anyIsA others ancestor

end

/-! ## Predefined types -/

/-- A predefined type with one base. -/
def child (base : ErrorType) (name : String) : ErrorType := derived name 0 [base]

def base : ErrorType := derived "BaseException" 0 []

def exception : ErrorType := base.child "Exception"

def arithmetic : ErrorType := exception.child "ArithmeticError"

def overflow : ErrorType := arithmetic.child "OverflowError"

def assertion : ErrorType := exception.child "AssertionError"

def member : ErrorType := exception.child "AttributeError"

def lookup : ErrorType := exception.child "LookupError"

def key : ErrorType := lookup.child "KeyError"

def os : ErrorType := exception.child "OSError"

def connection : ErrorType := os.child "ConnectionError"

def runtime : ErrorType := exception.child "RuntimeError"

def type : ErrorType := exception.child "TypeError"

def value : ErrorType := exception.child "ValueError"

/-- The predefined types that events are usually logged with. -/
def predefined : List ErrorType :=
  [base, base.child "KeyboardInterrupt", exception, arithmetic, arithmetic.child "ZeroDivisionError", overflow,
    assertion, lookup, key, lookup.child "IndexError", os, os.child "FileNotFoundError", os.child "TimeoutError",
    connection, connection.child "ConnectionResetError", runtime, runtime.child "NotImplementedError",
    runtime.child "RecursionError", type, value, value.child "UnicodeError"]

/-- The predefined type of a name. -/
def ofName? (name : String) : Option ErrorType := predefined.find? (·.name == name)

end ErrorType

/-- The error that an event was logged with. -/
structure Cause where
  type : ErrorType
  serial : Nat
  deriving DecidableEq, Repr

end LogAssay
