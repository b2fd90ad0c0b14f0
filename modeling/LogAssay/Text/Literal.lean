import LogAssay.Text.Hex
import LogAssay.Text.Printable

/-!
# Quoted literals

The literal form of a text, as diagnostics and error messages show it. Single quotes enclose it unless it
contains a single quote and no double quote. The enclosing quote and the backslash are escaped, line feed,
carriage return and tab have escapes of their own, and every other character that is not printable is
given by its code point.
-/

namespace LogAssay.Text

/-- The quote that encloses a text: single, unless only double quotes avoid escapes. -/
def enclosingQuote (s : List Char) : Char := if '\'' ∈ s ∧ '"' ∉ s then '"' else '\''

/-- The escape of a character by its code point, of the least width that holds it. -/
def codePointEscape (n : Nat) : List Char :=
  if n < 0x100 then '\\' :: 'x' :: hex 2 n
  else if n < 0x10000 then '\\' :: 'u' :: hex 4 n
  else '\\' :: 'U' :: hex 8 n

/-- One character inside a literal enclosed in the given quote. -/
def literalChar (quote c : Char) : List Char :=
  if c = quote ∨ c = '\\' then ['\\', c]
  else if c = '\n' then ['\\', 'n']
  else if c = '\r' then ['\\', 'r']
  else if c = '\t' then ['\\', 't']
  else if isPrintable c then [c]
  else codePointEscape c.toNat

def literal (s : List Char) : List Char :=
  let quote := enclosingQuote s
  quote :: s.flatMap (literalChar quote) ++ [quote]

def literalByte (quote : Char) (b : UInt8) : List Char :=
  let c := Char.ofNat b.toNat
  if c = quote ∨ c = '\\' then ['\\', c]
  else if c = '\n' then ['\\', 'n']
  else if c = '\r' then ['\\', 'r']
  else if c = '\t' then ['\\', 't']
  else if 32 ≤ b.toNat ∧ b.toNat < 127 then [c]
  else '\\' :: 'x' :: hex 2 b.toNat

def byteLiteral (bytes : List UInt8) : List Char :=
  let quote := enclosingQuote (bytes.map fun b => Char.ofNat b.toNat)
  'b' :: quote :: bytes.flatMap (literalByte quote) ++ [quote]

end LogAssay.Text

/-- The literal form of a text, in quotes. -/
def String.quoted (s : String) : String := String.ofList (LogAssay.Text.literal s.toList)
