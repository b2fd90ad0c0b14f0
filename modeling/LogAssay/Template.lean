import LogAssay.Metadata.Agreement
import LogAssay.Number.Rounded

/-!
# Message templates

A message may be a template whose conversions take arguments. A conversion is a percent sign, an optional name
in parentheses, flags, a width, a precision, a letter for the size of a number that counts for nothing, and a kind:

* `s` for the plain text of a value, `r` for its literal text, `a` for the latter in ASCII, and `c` for one character;
* `d`, `i` or `u` for the integer part of a number, `x`, `X` or `o` for an integer in another base;
* `e`, `f` or `g`, or one of their capitals, for a floating-point number.

A width or a precision may be an argument too. Two percent signs stand for one. A single non-empty mapping gives the
arguments by name; it is also the one unnamed argument. Without arguments a message is no template.

Conversions are carried out from left to right, and the first one that fails is the one that is told. Arguments
that are left over are a fault too, unless they are given by name. A width or a precision that no memory could hold is
refused, wherever it is given.
-/

namespace LogAssay

/-- What a message is given to fill in. -/
inductive Arguments where
  | none
  | listed (values : List Value)
  | named (entries : List (Value × Value))

def Arguments.ofList : List Value → Arguments
  | [] => none
  | [.mapping (e :: entries)] => named (e :: entries)
  | values => listed values

namespace Template

/-- A width or a precision: none, a number in the template, or an argument. -/
inductive Extent where
  | unset
  | fixed (n : Nat)
  | argument

/-- How a conversion says that its text is to be laid out. -/
structure Style where
  flags : List Char
  width : Extent
  precision : Extent

/-- A part of a template. -/
inductive Piece where
  | plain (c : Char)
  /-- A conversion; its kind is missing where the template ends too early. -/
  | conversion (name : Option (List Char)) (style : Style) (kind : Option Char) (index : Nat)
  /-- A name whose parenthesis is never closed. -/
  | openName

/-! ## Reading -/

/-- A name up to its closing parenthesis, and what follows; parentheses inside a name come in pairs. -/
def takeName? : Nat → List Char → Option (List Char × List Char)
  | _, [] => none
  | 0, ')' :: s => some ([], s)
  | depth + 1, ')' :: s => (takeName? depth s).map fun (name, rest) => (')' :: name, rest)
  | depth, '(' :: s => (takeName? (depth + 1) s).map fun (name, rest) => ('(' :: name, rest)
  | depth, c :: s => (takeName? depth s).map fun (name, rest) => (c :: name, rest)

theorem length_takeName? {depth : Nat} {s name rest : List Char}
    (h : takeName? depth s = some (name, rest)) : rest.length ≤ s.length := by
  fun_induction takeName? depth s generalizing name rest with
  | case1 => cases h
  | case2 s =>
    cases h
    exact Nat.le_succ _
  | case3 depth s ih | case4 depth s ih | case5 depth c s _ _ _ ih =>
    obtain ⟨⟨n, r⟩, h', he⟩ := Option.map_eq_some_iff.1 h
    cases he
    exact Nat.le_succ_of_le (ih h')

/-- Whether a character is a flag. -/
def isFlag (c : Char) : Bool := c = '-' || c = '+' || c = ' ' || c = '#' || c = '0'

def takeExtent : List Char → Extent × List Char
  | '*' :: s => (.argument, s)
  | s =>
    let digits := s.takeWhile Char.isDigit
    (if digits.isEmpty then .unset else .fixed (Decimal.toNat digits), s.dropWhile Char.isDigit)

/-- The precision behind a point; without digits it is zero. -/
def takePrecision : List Char → Extent × List Char
  | '.' :: s =>
    match takeExtent s with
    | (.unset, s) => (.fixed 0, s)
    | taken => taken
  | s => (.unset, s)

/-- What follows a letter for the size of a number, if there is one. -/
def skipSize : List Char → List Char
  | [] => []
  | c :: s => if c = 'h' ∨ c = 'l' ∨ c = 'L' then s else c :: s

def takeStyle (s : List Char) : Style × List Char :=
  let (width, behindWidth) := takeExtent (s.dropWhile isFlag)
  let (precision, behindPrecision) := takePrecision behindWidth
  (⟨s.takeWhile isFlag, width, precision⟩, skipSize behindPrecision)

theorem length_takeExtent (s : List Char) : (takeExtent s).2.length ≤ s.length := by
  unfold takeExtent
  split
  · exact Nat.le_succ _
  · exact (List.dropWhile_sublist Char.isDigit).length_le

theorem length_takePrecision (s : List Char) : (takePrecision s).2.length ≤ s.length := by
  unfold takePrecision
  split
  · next s =>
    have h := length_takeExtent s
    split
    · next heq =>
      rw [heq] at h
      exact Nat.le_succ_of_le h
    · exact Nat.le_succ_of_le h
  · exact Nat.le_refl _

theorem length_skipSize (s : List Char) : (skipSize s).length ≤ s.length := by
  unfold skipSize
  split
  · exact Nat.le_refl _
  · split
    · exact Nat.le_succ _
    · exact Nat.le_refl _

theorem length_takeStyle (s : List Char) : (takeStyle s).2.length ≤ s.length :=
  calc (takeStyle s).2.length
    _ ≤ (takePrecision (takeExtent (s.dropWhile isFlag)).2).2.length := length_skipSize _
    _ ≤ (takeExtent (s.dropWhile isFlag)).2.length := length_takePrecision _
    _ ≤ (s.dropWhile isFlag).length := length_takeExtent _
    _ ≤ s.length := (List.dropWhile_sublist isFlag).length_le

/-- A conversion behind its percent sign, with the length of the template up to the end of the text, and
what follows. -/
def takeConversion (length : Nat) (name : Option (List Char)) (s : List Char) :
    Piece × List Char :=
  let (style, kindAndRest) := takeStyle s
  match kindAndRest with
  | [] => (.conversion name style none length, [])
  | c :: rest => (.conversion name style (some c) (length - (rest.length + 1)), rest)

theorem length_takeConversion (length : Nat) (name : Option (List Char)) (s : List Char) :
    (takeConversion length name s).2.length ≤ s.length := by
  have h := length_takeStyle s
  rw [takeConversion]
  generalize takeStyle s = taken at h
  obtain ⟨style, _ | ⟨c, rest⟩⟩ := taken
  · exact Nat.zero_le _
  · exact Nat.le_of_succ_le h

/-- What stands behind a percent sign, and what follows. -/
def takePiece (length : Nat) : List Char → Piece × List Char
  | '%' :: s => (.plain '%', s)
  | '(' :: s =>
    match takeName? 0 s with
    | none => (.openName, [])
    | some (name, rest) => takeConversion length (some name) rest
  | s => takeConversion length none s

theorem length_takePiece (length : Nat) (s : List Char) :
    (takePiece length s).2.length ≤ s.length := by
  unfold takePiece
  split
  · exact Nat.le_succ _
  · split
    · exact Nat.zero_le _
    · next s name rest h =>
      exact Nat.le_trans (length_takeConversion _ _ _) (Nat.le_succ_of_le (length_takeName? h))
  · exact length_takeConversion _ _ _

/-- The parts of a template that ends at the given length. -/
def piecesOf (length : Nat) : List Char → List Piece
  | [] => []
  | '%' :: s => (takePiece length s).1 :: piecesOf length (takePiece length s).2
  | c :: s => .plain c :: piecesOf length s
termination_by s => s.length
decreasing_by
  · exact Nat.lt_succ_of_le (length_takePiece length s)
  · exact Nat.lt_succ_self _

def pieces (template : String) : List Piece := piecesOf template.length template.toList

/-! ## Layout -/

/-- How a text is laid out. -/
structure Layout where
  left : Bool := false
  zeros : Bool := false
  plus : Bool := false
  blank : Bool := false
  /-- Whether the base of an integer is marked, and the point of a number is written in any case. -/
  alternate : Bool := false
  width : Nat := 0
  precision : Option Nat := none

/-- The layout of a style with its width and precision. A negative width asks for the left side, and a negative
precision counts as zero. -/
def Style.layout (style : Style) (width precision : Option Int) : Layout where
  left := style.flags.contains '-' || (width.getD 0 < 0)
  zeros := style.flags.contains '0'
  plus := style.flags.contains '+'
  blank := style.flags.contains ' '
  alternate := style.flags.contains '#'
  width := (width.getD 0).natAbs
  precision := precision.map Int.toNat

def Layout.pad (l : Layout) (s : List Char) : List Char :=
  let missing := List.replicate (l.width - s.length) ' '
  if l.left then s ++ missing else missing ++ s

/-- A text cut to the precision and brought to the width. -/
def Layout.text (l : Layout) (s : List Char) : List Char :=
  l.pad (match l.precision with
    | some n => s.take n
    | none => s)

/-- A number of a sign, a mark for its base and a text, brought to the width with blanks, or with zeros in front of the
text. -/
def Layout.number (l : Layout) (negative : Bool) (mark text : List Char) : List Char :=
  let sign := if negative then ['-'] else if l.plus then ['+'] else if l.blank then [' '] else []
  if l.zeros && !l.left then sign ++ mark ++ Text.padded (l.width - (sign ++ mark).length) text
  else l.pad (sign ++ mark ++ text)

/-- An integer with at least so many digits as the precision says. -/
def Layout.integer (l : Layout) (i : Int) (mark : List Char) (numeral : Nat → List Char) : List Char :=
  l.number (i < 0) (if l.alternate then mark else []) (Text.padded (l.precision.getD 0) (numeral i.natAbs))

/-- A floating-point number with so many digits as the precision says. -/
def Layout.real (l : Layout) (x : Binary64) (form : Binary64.Form) (capital : Bool) : List Char :=
  let text := x.rounded form l.alternate (l.precision.getD 6)
  l.number x.isSigned [] (if capital then text.map Char.toUpper else text)

/-! ## Conversions -/

/-- The integer that a value is; a boolean is one or zero. -/
def integer? : Value → Option Int
  | .scalar (.bool b) => some (if b then 1 else 0)
  | .scalar (.int i) => some i
  | _ => none

/-- The integer part of a number. -/
def integerPart (kind : Char) (v : Value) : Except Fault Int :=
  match integer? v, v with
  | some i, _ => .ok i
  | none, .scalar (.float x) =>
    match x.truncate? with
    | some i => .ok i
    | none => .error (.noIntegerPart (x matches .infinite _))
  | none, v => .error (.notANumber kind v.fullKindName)

/-- A text of one character, or the character of a number. Numbers of surrogates stand for no character of a text, so
they are given the replacement character. -/
def character : Value → Except Fault Char
  | .scalar (.text s) =>
    match s.toList with
    | [c] => .ok c
    | _ => .error .notACharacter
  | v =>
    match integer? v with
    | none => .error .notACharacter
    | some i =>
      if 0 ≤ i ∧ i < 0x110000 then
        .ok (if i.toNat.isValidChar then Char.ofNat i.toNat else Char.ofNat 0xFFFD)
      else .error .characterRange

/-- A literal text with escapes for all characters beyond ASCII. -/
def ascii (s : List Char) : List Char :=
  s.flatMap fun c => if c.toNat < 128 then [c] else Text.codePointEscape c.toNat

/-- An integer in decimal notation, unless it has too many digits. -/
def convertDecimal (l : Layout) (kind : Char) (v : Value) : Except Fault (List Char) := do
  let i ← integerPart kind v
  if Decimal.isWritable i then return l.integer i [] Decimal.ofNat
  throw .unwritable

/-- An integer in another base. -/
def convertInteger (l : Layout) (kind : Char) (numeral : Nat → List Char) (v : Value) : Except Fault (List Char) :=
  match integer? v with
  | some i => .ok (l.integer i ['0', kind] numeral)
  | none => .error (.notAnInteger kind v.fullKindName)

def convertReal (l : Layout) (form : Binary64.Form) (capital : Bool) (v : Value) : Except Fault (List Char) :=
  match v.quantity? with
  | some q => (Value.toBinary64 q).map (l.real · form capital)
  | none => .error (.notReal v.fullKindName)

def convert (l : Layout) (kind : Char) (index : Nat) (v : Value) : Except Fault (List Char) :=
  match kind with
  | 's' => v.write.map fun text => l.text text.toList
  | 'r' => v.writeLiteral.map fun text => l.text text.toList
  | 'a' => v.writeLiteral.map fun text => l.text (ascii text.toList)
  | 'c' => (character v).map fun c => l.pad [c]
  | 'd' | 'i' | 'u' => convertDecimal l kind v
  | 'o' => convertInteger l kind (Nat.toDigits 8) v
  | 'x' => convertInteger l kind (Text.hexNumeral 'a') v
  | 'X' => convertInteger l kind (Text.hexNumeral 'A') v
  | 'e' => convertReal l .exponent false v
  | 'E' => convertReal l .exponent true v
  | 'f' => convertReal l .decimals false v
  | 'F' => convertReal l .decimals true v
  | 'g' => convertReal l .general false v
  | 'G' => convertReal l .general true v
  | _ => .error (.unknownConversion kind index)

/-! ## Rendering -/

/-- The arguments that are not used yet, and those that are given by name. -/
structure Supply where
  pending : List Value
  byName : Option (List (Value × Value))

/-- The supply with the argument of a name in place of the pending ones. -/
def Supply.choose (supply : Supply) : Option (List Char) → Except Fault Supply
  | none => .ok supply
  | some name =>
    match supply.byName with
    | none => .error .needsMapping
    | some entries =>
      match Value.find? entries (String.ofList name) with
      | some v => .ok { supply with pending := [v] }
      | none => .error (.missingName (String.ofList name))

/-- The next argument, and the supply behind it. -/
def Supply.take (supply : Supply) : Except Fault (Value × Supply) :=
  match supply.pending with
  | [] => .error .tooFewArguments
  | v :: pending => .ok (v, { supply with pending := pending })

/-- The greatest width or precision. -/
def maxExtent (precision : Bool) : Nat := if precision then (1 <<< 31) - 1 else (1 <<< 63) - 1

/-- A width or a precision, which may use up an argument. -/
def Extent.settle (precision : Bool) (supply : Supply) : Extent → Except Fault (Option Int × Supply)
  | unset => .ok (none, supply)
  | fixed n => if n ≤ maxExtent precision then .ok (some n, supply) else .error (.extentSize precision)
  | argument => do
    let (v, supply) ← supply.take
    match integer? v with
    | none => throw .extentKind
    | some i =>
      if i.natAbs ≤ maxExtent precision then return (some i, supply)
      throw (.extentSize precision)

def renderPieces (supply : Supply) : List Piece → Except Fault (List Char)
  | [] =>
    if supply.byName.isNone && !supply.pending.isEmpty then .error .tooManyArguments else .ok []
  | .plain c :: others => (renderPieces supply others).map (c :: ·)
  | .openName :: _ =>
    if supply.byName.isNone then .error .needsMapping else .error .incompleteName
  | .conversion name style kind index :: others => do
    let supply ← supply.choose name
    let (width, supply) ← style.width.settle false supply
    let (precision, supply) ← style.precision.settle true supply
    match kind with
    | none => throw .incompleteTemplate
    | some kind =>
      let (v, supply) ← supply.take
      let text ← convert (style.layout width precision) kind index v
      let rest ← renderPieces supply others
      return text ++ rest

/-- The message that a template makes of its arguments. -/
def render (template : String) : Arguments → Except Fault String
  | .none => .ok template
  | .listed values =>
    (renderPieces ⟨values, none⟩ (pieces template)).map String.ofList
  | .named entries =>
    (renderPieces ⟨[.mapping entries], some entries⟩ (pieces template)).map String.ofList

end Template

end LogAssay
