import LogAssay.Diagnostic
import LogAssay.Metadata.Basic
import LogAssay.Metadata.Escape
import LogAssay.Metadata.Scan
import LogAssay.Number.Reader

/-!
# Decoding messages

A decoded message is the text in front of its context block together with the metadata of the block. A
quoted value is always a text. An unquoted value is a boolean if it spells one in any case, an integer if it
is an integer numeral that fits 64 bits, a floating-point number if it is a numeral or one of the names
`Infinity` and `NaN`; otherwise it is kept as it stands, and that is reported. An integer numeral of more than
4300 digits is not read at all.
-/

namespace LogAssay.Metadata

/-- An optional sign and at least one digit. -/
def isIntegerNumeral (s : List Char) : Bool :=
  let digits := (Binary64.takeSign s).2
  !digits.isEmpty && digits.all Char.isDigit

def integerOf (s : List Char) : Int :=
  let (negative, digits) := Binary64.takeSign s
  if negative then -(Decimal.toNat digits : Int) else Decimal.toNat digits

/-- Whether an integer fits 64 bits with a sign. -/
def fitsWord (i : Int) : Bool := -0x8000000000000000 ≤ i && i < 0x8000000000000000

/-- The floating-point number that an unquoted value spells. -/
def floatOf? (s : List Char) : Option Binary64 :=
  Binary64.read? (· == "Infinity".toList) (· == "NaN".toList) s

/-- The value of an unquoted token; nothing if it is of no known type. -/
def readPlain (s : List Char) : Except Fault (Option Scalar) :=
  if Text.lowered s = "true".toList then .ok (some (.bool true))
  else if Text.lowered s = "false".toList then .ok (some (.bool false))
  else if isIntegerNumeral s then
    let digits := (Binary64.takeSign s).2.length
    if Decimal.maxDigits < digits then .error (.numeralLength digits)
    else if fitsWord (integerOf s) then .ok (some (.int (integerOf s)))
    else .ok ((floatOf? s).map .float)
  else .ok ((floatOf? s).map .float)

/-- The values that a token adds to its key, and the reports on reading it. -/
def readToken : Token → Except Fault (List Scalar × List Diagnostic)
  | .bare => .ok ([], [])
  | .quoted body =>
    .ok ([.text (String.ofList (unescape body).1)],
      unescapeReports (String.ofList ('"' :: body ++ ['"'])) body)
  | .plain text =>
    (readPlain text).map fun
      | some value => ([value], [])
      | none => ([.text (String.ofList text)], [.keptLiteral (String.ofList text)])

/-- A message and its metadata. -/
structure Decoded where
  message : String
  metadata : Metadata
  deriving DecidableEq

/-- The metadata of the pairs, added one by one to what is there. -/
def readPairs (m : Metadata) : List Pair → Reported Metadata
  | [] => ⟨[], .ok m⟩
  | pair :: others =>
    match readToken pair.token with
    | .error fault => ⟨[], .error fault⟩
    | .ok (values, reports) =>
      let rest := readPairs (m.add (String.ofList pair.key) values) others
      ⟨reports ++ rest.reports, rest.outcome⟩

/-- The message without the block that ends it, and the metadata of the block. -/
def decode (text : String) : Reported Decoded :=
  match split? text.toList with
  | none => ⟨[], .ok ⟨text, []⟩⟩
  | some (message, inside) =>
    (readPairs [] (scan inside)).andThen fun m => .ok ⟨String.ofList message, m⟩

end LogAssay.Metadata
