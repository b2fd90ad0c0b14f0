import LogAssay.Fault
import LogAssay.Metadata.Block
import LogAssay.Metadata.Escape

/-!
# Encoding metadata into messages

Metadata is appended to a message as a context block. Booleans and numbers stand unquoted, everything else
as its plain text in quotes. A sequence gives its key several values, and nothing or an empty sequence makes
it a bare tag. A key that is empty or holds a blank or an equals sign cannot be written, nor can a value with an
integer of too many digits.
-/

namespace LogAssay.Metadata

def quote (s : List Char) : List Char := '"' :: escape s ++ ['"']

def writeValue : Value → List Char
  | .scalar (.bool b) => if b then "true".toList else "false".toList
  | .scalar (.int i) => Decimal.ofInt i
  | .scalar (.float x) => x.text
  | v => quote v.plain.toList

def spread : Value → List Value
  | .nothing => []
  | .list items => items
  | .tuple items => items
  | v => [v]

def isKey (key : List Char) : Bool := !key.isEmpty && key.all isKeyChar

def writeEntry (key : List Char) (value : Value) : List Char :=
  match spread value with
  | [] => key ++ [' ']
  | values => values.flatMap fun v => key ++ '=' :: writeValue v ++ [' ']

/-- The pairs of all entries; the first key or value that cannot be written prevents it. -/
def writeEntries : List (String × Value) → Except Fault (List Char)
  | [] => .ok []
  | (key, value) :: others =>
    if isKey key.toList then
      if value.isWritable then (writeEntries others).map (writeEntry key.toList value ++ ·)
      else .error .unwritable
    else .error (.metadataKey key)

/-- The message with the entries appended as a context block; without entries it is left alone. -/
def encode (message : String) (entries : List (String × Value)) : Except Fault String :=
  if entries.isEmpty then .ok message
  else
    (writeEntries entries).map fun pairs =>
      String.ofList (message.toList ++ (if message = "" then [] else [' ']) ++ opening ++ pairs ++ [']'])

end LogAssay.Metadata
