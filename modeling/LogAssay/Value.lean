import LogAssay.Number.Shortest
import LogAssay.Severity
import LogAssay.Text.Literal
import LogAssay.Timestamp

/-!
# Values

The values that events carry and that tests compare them with. Four kinds of *scalars* survive in captured
metadata: booleans, integers, floating-point numbers and texts. Callers may hand over more: nothing at all,
sequences, mappings, bytes, severities and dates. A boolean counts as the integer one or zero wherever a
number is asked for, and numbers compare by exact value.
-/

namespace LogAssay

/-- A value that captured metadata can hold. -/
inductive Scalar where
  | bool (b : Bool)
  | int (i : Int)
  | float (x : Binary64)
  | text (s : String)
  deriving DecidableEq

/-- A value that a caller may hand over. -/
inductive Value where
  | nothing
  | scalar (s : Scalar)
  | list (items : List Value)
  | tuple (items : List Value)
  | mapping (entries : List (Value × Value))
  | bytes (bytes : List UInt8)
  | severity (s : Severity)
  | date (d : Date)

instance : Inhabited Value := ⟨.nothing⟩

namespace Value

abbrev bool (b : Bool) : Value := scalar (.bool b)

abbrev int (i : Int) : Value := scalar (.int i)

abbrev float (x : Binary64) : Value := scalar (.float x)

abbrev text (s : String) : Value := scalar (.text s)

/-- The name of a value's kind, as error messages give it. -/
def kindName : Value → String
  | nothing => "NoneType"
  | scalar (.bool _) => "bool"
  | scalar (.int _) => "int"
  | scalar (.float _) => "float"
  | scalar (.text _) => "str"
  | list _ => "list"
  | tuple _ => "tuple"
  | mapping _ => "dict"
  | bytes _ => "bytes"
  | severity _ => "Severity"
  | date _ => "date"

/-- The name of a value's kind where it is given in full, with the module that a kind belongs to. -/
def fullKindName : Value → String
  | date _ => "datetime.date"
  | v => v.kindName

/-- Whether a value counts as true: neither nothing nor zero nor empty. -/
def holds : Value → Bool
  | nothing => false
  | scalar (.bool b) => b
  | scalar (.int i) => i != 0
  | scalar (.float x) => !x.isZero
  | scalar (.text s) => s != ""
  | list items => !items.isEmpty
  | tuple items => !items.isEmpty
  | mapping entries => !entries.isEmpty
  | bytes b => !b.isEmpty
  | severity _ => true
  | date _ => true

end Value

/-! ## Numbers -/

/-- An exact number: an integer or a floating-point number, or a boolean, which counts as an integer. -/
inductive Quantity where
  | bool (b : Bool)
  | int (i : Int)
  | float (x : Binary64)
  deriving DecidableEq

namespace Quantity

def place? : Quantity → Option Binary64.Place
  | bool b => some (Binary64.placeOfInt (if b then 1 else 0))
  | int i => some (Binary64.placeOfInt i)
  | float x => x.place?

/-- Strict order by exact value; the number that is none is in no order with any number. -/
def lt (a b : Quantity) : Bool :=
  match a.place?, b.place? with
  | some p, some q => p.lt q
  | _, _ => false

/-- Equality by exact value. -/
def eq (a b : Quantity) : Bool :=
  match a.place?, b.place? with
  | some p, some q => p == q
  | _, _ => false

/-- Order by exact value. -/
def le (a b : Quantity) : Bool := a.lt b || a.eq b

def toScalar : Quantity → Scalar
  | bool b => .bool b
  | int i => .int i
  | float x => .float x

end Quantity

/-- The number that a scalar is, if it is one; a boolean is one or zero. -/
def Scalar.quantity? : Scalar → Option Quantity
  | .bool b => some (.bool b)
  | .int i => some (.int i)
  | .float x => some (.float x)
  | .text _ => none

def Value.quantity? : Value → Option Quantity
  | .scalar s => s.quantity?
  | _ => none

/-- Equality of scalars: numbers by exact value, texts by their characters. -/
def Scalar.eq (a b : Scalar) : Bool :=
  match a, b with
  | .text s, .text t => s == t
  | a, b =>
    match a.quantity?, b.quantity? with
    | some p, some q => p.eq q
    | _, _ => false

/-! ## Equality -/

namespace Value

mutual

/-- Equality of values: scalars as above, sequences item by item, mappings by their entries in any
order. -/
def eq : Value → Value → Bool
  | nothing, nothing => true
  | scalar a, scalar b => a.eq b
  | list xs, list ys => eqAll xs ys
  | tuple xs, tuple ys => eqAll xs ys
  | mapping xs, mapping ys => xs.length == ys.length && allWithin xs ys
  | bytes a, bytes b => a == b
  | severity a, severity b => a == b
  | date a, date b => a == b
  | _, _ => false

def eqAll : List Value → List Value → Bool
  | [], [] => true
  | x :: xs, y :: ys => eq x y && eqAll xs ys
  | _, _ => false

/-- Whether every entry of one mapping has its equal in another. -/
def allWithin : List (Value × Value) → List (Value × Value) → Bool
  | [], _ => true
  | x :: xs, ys => within x ys && allWithin xs ys

def within : Value × Value → List (Value × Value) → Bool
  | (k, v), ys => ys.any fun y => eq k y.1 && eq v y.2

end

/-- The mapping with the given entries: a key that comes again replaces the value of the first one and
keeps its place. -/
def ofEntries (entries : List (Value × Value)) : Value :=
  mapping (entries.foldl insert [])
where
  insert : List (Value × Value) → Value × Value → List (Value × Value)
    | [], entry => [entry]
    | (k, v) :: others, entry =>
      if eq k entry.1 then (k, entry.2) :: others else (k, v) :: insert others entry

def find? (entries : List (Value × Value)) (key : String) : Option Value :=
  (entries.find? fun entry => eq entry.1 (text key)).map (·.2)

end Value

/-! ## Text forms -/

def Scalar.plain : Scalar → String
  | .bool b => if b then "True" else "False"
  | .int i => i.numeral
  | .float x => x.numeral
  | .text s => s

/-- The literal text of a scalar: a text stands in quotes. -/
def Scalar.literal : Scalar → String
  | .text s => s.quoted
  | s => s.plain

/-- Whether the text of a scalar can be written: integers must not have too many digits. -/
def Scalar.isWritable : Scalar → Bool
  | .int i => Decimal.isWritable i
  | _ => true

def Severity.literal (s : Severity) : String :=
  "<Severity." ++ s.name ++ ": " ++ s.rank.numeral ++ ">"

def Date.literal (d : Date) : String :=
  "datetime.date(" ++ d.year.numeral ++ ", " ++ d.month.numeral ++ ", " ++ d.day.numeral ++ ")"

namespace Value

mutual

/-- The literal text of a value, which tells its kind. -/
def literal : Value → String
  | nothing => "None"
  | scalar s => s.literal
  | list items => "[" ++ ", ".intercalate (literals items) ++ "]"
  | tuple [] => "()"
  | tuple [item] => "(" ++ literal item ++ ",)"
  | tuple items => "(" ++ ", ".intercalate (literals items) ++ ")"
  | mapping entries => "\x7b" ++ ", ".intercalate (entryLiterals entries) ++ "\x7d"
  | bytes b => String.ofList (Text.byteLiteral b)
  | severity s => s.literal
  | date d => d.literal

def literals : List Value → List String
  | [] => []
  | item :: items => literal item :: literals items

def entryLiterals : List (Value × Value) → List String
  | [] => []
  | entry :: entries => entryLiteral entry :: entryLiterals entries

def entryLiteral : Value × Value → String
  | (k, v) => literal k ++ ": " ++ literal v

end

/-- The plain text of a value: a text stands for itself. -/
def plain : Value → String
  | scalar s => s.plain
  | severity s => "Severity." ++ s.name
  | date d => d.text
  | v => v.literal

/-! ### What can be written -/

mutual

/-- Whether the text of a value can be written: no integer in it has too many digits. -/
def isWritable : Value → Bool
  | scalar s => s.isWritable
  | list items | tuple items => allWritable items
  | mapping entries => entriesWritable entries
  | nothing | bytes _ | severity _ | date _ => true

def allWritable : List Value → Bool
  | [] => true
  | item :: items => isWritable item && allWritable items

def entriesWritable : List (Value × Value) → Bool
  | [] => true
  | entry :: entries => entryWritable entry && entriesWritable entries

def entryWritable : Value × Value → Bool
  | (k, v) => isWritable k && isWritable v

end

theorem allWritable_iff {items : List Value} : allWritable items = true ↔ ∀ v ∈ items, v.isWritable = true := by
  induction items with
  | nil => simp [allWritable]
  | cons v items ih => simp [allWritable, ih]

theorem entriesWritable_iff {entries : List (Value × Value)} :
    entriesWritable entries = true ↔ ∀ e ∈ entries, e.1.isWritable = true ∧ e.2.isWritable = true := by
  induction entries with
  | nil => simp [entriesWritable]
  | cons e entries ih =>
    obtain ⟨k, v⟩ := e
    simp [entriesWritable, entryWritable, ih]

theorem isWritable_scalar (s : Scalar) : isWritable (scalar s) = s.isWritable := by rw [isWritable]

/-- The scalar that stands for a value in captured metadata: the value itself if it is one, its plain text
otherwise. -/
def widened : Value → Scalar
  | scalar s => s
  | v => .text v.plain

/-- Whether a scalar can stand for a value: nothing needs to be written of a scalar. -/
def isWidened : Value → Bool
  | scalar _ => true
  | v => v.isWritable

end Value

end LogAssay
