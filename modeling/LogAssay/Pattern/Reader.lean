import LogAssay.Fault
import LogAssay.Pattern.Basic

/-!
# Reading message patterns

A pattern is written with `.` for any character, `^` and `$` for line ends, character sets in brackets,
groups in parentheses, `|` between alternatives and a repetition behind what it repeats. A backslash makes a
class, an anchor, a control character or the plain character of what follows. `(?i)`, `(?m)` and `(?s)` at the
start choose the mode.

The reader goes from left to right over the characters and escapes of the pattern and keeps a stack of the
groups that are open. The first thing that it cannot read is the problem it tells, with its position.
-/

namespace LogAssay.Pattern

/-- A character of a pattern, or an escape, with its position. -/
structure Mark where
  position : Nat
  escaped : Bool
  char : Char

/-- The marks of a pattern. A backslash at the end has nothing to escape. -/
def marks (position : Nat) : List Char → List Mark × Bool
  | [] => ([], false)
  | ['\\'] => ([], true)
  | '\\' :: c :: rest =>
    let (others, dangling) := marks (position + 2) rest
    (⟨position, true, c⟩ :: others, dangling)
  | c :: rest =>
    let (others, dangling) := marks (position + 1) rest
    (⟨position, false, c⟩ :: others, dangling)

/-- The pattern being read: what problems refer to. -/
structure Source where
  text : List Char
  dangling : Bool

/-- A problem at a position. In a pattern of several lines the line and the column are told too. -/
def Source.problem (source : Source) (problem : String) (position : Nat) : Fault :=
  let before := source.text.take position
  let located := problem ++ " at position " ++ position.numeral
  let line := before.count '\n' + 1
  let column := (before.reverse.takeWhile (· ≠ '\n')).length + 1
  .pattern <|
    if '\n' ∈ source.text then
      located ++ " (line " ++ line.numeral ++ ", column " ++ column.numeral ++ ")"
    else located

/-- Going on to the given marks. A backslash that escapes nothing is noticed as soon as it is next. -/
def Source.next (source : Source) (rest : List Mark) : Except Fault (List Mark) :=
  if source.dangling && rest.isEmpty then
    .error (source.problem "bad escape (end of pattern)" (source.text.length - 1))
  else .ok rest

def Source.position (source : Source) : List Mark → Nat
  | [] => source.text.length
  | mark :: _ => mark.position

/-- A mark that is the given character, unescaped. -/
def Mark.is (mark : Mark) (c : Char) : Bool := !mark.escaped && mark.char == c

def Mark.text (mark : Mark) : String :=
  if mark.escaped then String.ofList ['\\', mark.char] else mark.char.toString

def namedClass? (c : Char) : Option CharClass :=
  match c with
  | 'd' => some (.digit false)
  | 'D' => some (.digit true)
  | 's' => some (.blank false)
  | 'S' => some (.blank true)
  | 'w' => some (.word false)
  | 'W' => some (.word true)
  | _ => none

/-- The character that an escape stands for; letters and digits without a meaning stand for none. -/
def escapedChar? (c : Char) : Option Nat :=
  match c with
  | 'a' => some 7
  | 'f' => some 12
  | 'n' => some 10
  | 'r' => some 13
  | 't' => some 9
  | 'v' => some 11
  | _ => if c.isAlphanum then none else some c.toNat

/-- The class that an escape stands for inside brackets. -/
def classEscape (source : Source) (mark : Mark) : Except Fault CharClass :=
  match namedClass? mark.char with
  | some named => .ok named
  | none =>
    if mark.char = 'b' then .ok (.single 8)
    else match escapedChar? mark.char with
      | some code => .ok (.single code)
      | none => .error (source.problem ("bad escape " ++ mark.text) mark.position)

/-- The pattern that an escape stands for outside brackets. -/
def escapePattern (source : Source) (mark : Mark) : Except Fault Pattern :=
  match mark.char with
  | 'A' => .ok .textStart
  | 'Z' => .ok .textEnd
  | 'b' => .ok (.boundary false)
  | 'B' => .ok (.boundary true)
  | c =>
    match namedClass? c with
    | some named => .ok (.set ⟨false, [named]⟩)
    | none =>
      match escapedChar? c with
      | some code => .ok (.set ⟨false, [.single code]⟩)
      | none => .error (source.problem ("bad escape " ++ mark.text) mark.position)

/-- The class that a mark stands for inside brackets. -/
def markClass (source : Source) (mark : Mark) : Except Fault CharClass :=
  if mark.escaped then classEscape source mark else .ok (.single mark.char.toNat)

/-- The classes inside brackets up to the closing one, which does not count as long as there is no class;
with what stands behind it. -/
def readClasses (source : Source) (opened : Nat) :
    Nat → List CharClass → List Mark → Except Fault (List CharClass × List Mark)
  | 0, _, _ => .error (source.problem "unterminated character set" opened)
  | fuel + 1, classes, marks =>
    match marks with
    | [] => .error (source.problem "unterminated character set" opened)
    | mark :: rest => do
      let rest ← source.next rest
      if mark.is ']' && !classes.isEmpty then return (classes, rest)
      let low ← markClass source mark
      match rest with
      | dash :: behind =>
        if dash.is '-' then
          let behind ← source.next behind
          match behind with
          | [] => throw (source.problem "unterminated character set" opened)
          | high :: beyond =>
            let beyond ← source.next beyond
            if high.is ']' then return (classes ++ [low, .single '-'.toNat], beyond)
            let top ← markClass source high
            match low, top with
            | .single first, .single last =>
              if last < first then
                throw (source.problem ("bad character range " ++ mark.text ++ "-" ++ high.text)
                  mark.position)
              readClasses source opened fuel (classes ++ [.range first last]) beyond
            | _, _ =>
              throw (source.problem ("bad character range " ++ mark.text ++ "-" ++ high.text)
                mark.position)
        else readClasses source opened fuel (classes ++ [low]) rest
      | [] => readClasses source opened fuel (classes ++ [low]) rest

/-- The digits in front of some marks, and the rest. -/
def readDigits (source : Source) : List Mark → Except Fault (List Char × List Mark)
  | [] => .ok ([], [])
  | mark :: rest =>
    if !mark.escaped && mark.char.isDigit then do
      let _ ← source.next rest
      let (digits, rest) ← readDigits source rest
      return (mark.char :: digits, rest)
    else .ok ([], mark :: rest)

/-- The bounds of a repetition in braces, from behind the opening one, and what stands behind the closing
one. Braces that hold no bounds are plain characters. -/
def readBounds (source : Source) (marks : List Mark) :
    Except Fault (Option (Nat × Option Nat × List Mark)) := do
  match marks with
  | first :: _ => if first.is '}' then return none
  | [] => return none
  let (least, rest) ← readDigits source marks
  let mut greatest := least
  let mut rest := rest
  match rest with
  | comma :: behind =>
    if comma.is ',' then
      let behind ← source.next behind
      let (digits, behind) ← readDigits source behind
      greatest := digits
      rest := behind
  | [] => pure ()
  match rest with
  | [] => return none
  | closing :: behind =>
    if closing.is '}' then
      let behind ← source.next behind
      let low := Decimal.toNat least
      if greatest.isEmpty then return some (low, none, behind)
      let high := Decimal.toNat greatest
      if high < low then
        throw (source.problem "min repeat greater than max repeat" (source.position marks))
      return some (low, some high, behind)
    else return none

/-- An open group: the alternatives read so far, the items of the current one, last first, and where the
group was opened. -/
structure Frame where
  alternatives : List Pattern := []
  items : List Pattern := []
  opened : Nat := 0

def sequence (items : List Pattern) : Pattern :=
  items.foldl (fun behind item => match behind with
    | .empty => item
    | behind => .seq item behind) .empty

def Frame.close (frame : Frame) : Pattern :=
  frame.alternatives.foldl (fun right left => .alt left right) (sequence frame.items)

def Frame.push (frame : Frame) (item : Pattern) : Frame :=
  { frame with items := item :: frame.items }

def Frame.branch (frame : Frame) : Frame :=
  { frame with alternatives := sequence frame.items :: frame.alternatives, items := [] }

/-- The frame with its last item repeated. Anchors cannot be repeated, nor can repetitions. -/
def Frame.repeatLast (source : Source) (frame : Frame) (at_ : Nat) (least : Nat)
    (greatest : Option Nat) : Except Fault Frame :=
  match frame.items with
  | [] => .error (source.problem "nothing to repeat" at_)
  | last :: others =>
    match last with
    | .lineStart | .lineEnd | .textStart | .textEnd | .boundary _ =>
      .error (source.problem "nothing to repeat" at_)
    | .repeated _ _ _ => .error (source.problem "multiple repeat" at_)
    | _ => .ok { frame with items := .repeated least greatest last :: others }

/-- What stands behind the question mark of a group. -/
inductive GroupStart where
  | plain (rest : List Mark)
  | mode (mode : PatternMode) (rest : List Mark)

/-- The mode letters from the first one on, up to the closing parenthesis. -/
def readMode (source : Source) (mode : PatternMode) : List Mark → Except Fault GroupStart
  | [] => .error (source.problem "missing -, : or )" source.text.length)
  | mark :: rest => do
    let _ ← source.next rest
    match mark.escaped, mark.char with
    | false, 'i' => readMode source { mode with ignoreCase := true } rest
    | false, 'm' => readMode source { mode with multiline := true } rest
    | false, 's' => readMode source { mode with dotAll := true } rest
    | false, 'u' => readMode source mode rest
    | false, ')' => return .mode mode rest
    | _, c =>
      throw (source.problem (if c.isAlpha then "unknown flag" else "missing -, : or )")
        mark.position)

/-- The start of a group that is marked by a question mark. -/
def readGroupStart (source : Source) (mode : PatternMode) : List Mark → Except Fault GroupStart
  | [] => .error (source.problem "unexpected end of pattern" source.text.length)
  | mark :: rest => do
    let rest' ← source.next rest
    if mark.is ':' then return .plain rest'
    if !mark.escaped && ['i', 'm', 's', 'u'].contains mark.char then
      readMode source mode (mark :: rest)
    else throw (source.problem ("unknown extension ?" ++ mark.text) (mark.position - 1))

/-- How far a pattern has been read: the mode, the group being read, the groups around it, and what is to
come. -/
structure Progress where
  mode : PatternMode := {}
  frame : Frame := {}
  around : List Frame := []
  rest : List Mark

namespace Progress

def push (p : Progress) (item : Pattern) (rest : List Mark) : Progress :=
  { p with frame := p.frame.push item, rest := rest }

def leaveGroup (source : Source) (p : Progress) (mark : Mark) (rest : List Mark) :
    Except Fault Progress :=
  match p.around with
  | [] => .error (source.problem "unbalanced parenthesis" mark.position)
  | outer :: further => do
    let rest ← source.next rest
    return { p with frame := outer.push (.group p.frame.close), around := further, rest := rest }

/-- A group whose inside begins with what is to come. -/
def enter (p : Progress) (opened : Nat) (rest : List Mark) : Progress :=
  { p with frame := { opened := opened }, around := p.frame :: p.around, rest := rest }

/-- The mode letters of a pattern, which have to stand at its start. -/
def setMode (source : Source) (p : Progress) (opened : Nat) (mode : PatternMode)
    (rest : List Mark) : Except Fault Progress :=
  if p.around.isEmpty && p.frame.items.isEmpty && p.frame.alternatives.isEmpty then
    .ok { p with mode := mode, rest := rest }
  else .error (source.problem "global flags not at the start of the expression" opened)

/-- The start of a group, or mode letters. -/
def enterGroup (source : Source) (p : Progress) (opened : Nat) : List Mark → Except Fault Progress
  | [] => .ok (p.enter opened [])
  | question :: behind =>
    if question.is '?' then do
      let behind ← source.next behind
      match ← readGroupStart source p.mode behind with
      | .plain inside => return p.enter opened inside
      | .mode mode behind => p.setMode source opened mode behind
    else .ok (p.enter opened (question :: behind))

/-- A caret behind an opening bracket, which negates the set. -/
def takeCaret (source : Source) : List Mark → Except Fault (Bool × List Mark)
  | [] => .ok (false, [])
  | caret :: behind =>
    if caret.is '^' then (source.next behind).map fun behind => (true, behind)
    else .ok (false, caret :: behind)

def readSet (source : Source) (p : Progress) (opened fuel : Nat) (rest : List Mark) :
    Except Fault Progress := do
  let (negated, inside) ← takeCaret source rest
  let (classes, behind) ← readClasses source opened fuel [] inside
  return p.push (.set ⟨negated, classes⟩) behind

/-- A repetition of the last item; a question mark behind it changes which piece is found first, but not
whether one is found. -/
def repeatLast (source : Source) (p : Progress) (position least : Nat) (greatest : Option Nat)
    (rest : List Mark) : Except Fault Progress := do
  let frame ← p.frame.repeatLast source position least greatest
  match rest with
  | [] => return { p with frame := frame, rest := [] }
  | lazy :: behind =>
    let rest ← if lazy.is '?' then source.next behind else pure (lazy :: behind)
    return { p with frame := frame, rest := rest }

/-- A repetition with bounds, or a plain brace. -/
def readBraces (source : Source) (p : Progress) (position : Nat) (rest : List Mark) :
    Except Fault Progress := do
  match ← readBounds source rest with
  | none => return p.push (.set ⟨false, [.single 0x7B]⟩) rest
  | some (least, greatest, behind) => p.repeatLast source position least greatest behind

/-- Reads on behind an unescaped mark. -/
def readPlain (source : Source) (p : Progress) (fuel : Nat) (mark : Mark) (rest : List Mark) :
    Except Fault Progress :=
  match mark.char with
  | '.' => .ok (p.push .any rest)
  | '^' => .ok (p.push .lineStart rest)
  | '$' => .ok (p.push .lineEnd rest)
  | '(' => p.enterGroup source mark.position rest
  | '[' => p.readSet source mark.position fuel rest
  | '*' => p.repeatLast source mark.position 0 none rest
  | '+' => p.repeatLast source mark.position 1 none rest
  | '?' => p.repeatLast source mark.position 0 (some 1) rest
  | '\x7b' => p.readBraces source mark.position rest
  | c => .ok (p.push (.set ⟨false, [.single c.toNat]⟩) rest)

def step (source : Source) (p : Progress) (fuel : Nat) (mark : Mark) (rest : List Mark) :
    Except Fault Progress :=
  if mark.is ')' then p.leaveGroup source mark rest
  else do
    let rest ← source.next rest
    if mark.is '|' then return { p with frame := p.frame.branch, rest := rest }
    else if mark.escaped then
      let item ← escapePattern source mark
      return p.push item rest
    else p.readPlain source fuel mark rest

end Progress

/-- The whole pattern, from where it has been read to. Each step uses up a mark, so as many steps as there are
marks are enough. -/
def readMarks (source : Source) : Nat → Progress → Except Fault (PatternMode × Pattern)
  | 0, p => .ok (p.mode, p.frame.close)
  | fuel + 1, p =>
    match p.rest with
    | [] =>
      if p.around.isEmpty then .ok (p.mode, p.frame.close)
      else .error (source.problem "missing ), unterminated subpattern" p.frame.opened)
    | mark :: rest => do
      let p ← p.step source fuel mark rest
      readMarks source fuel p

/-- The pattern that a text describes, and its mode. -/
def read (text : String) : Except Fault (PatternMode × Pattern) := do
  let (marks, dangling) := marks 0 text.toList
  let source : Source := ⟨text.toList, dangling⟩
  let marks ← source.next marks
  readMarks source (marks.length + 1) { rest := marks }

end LogAssay.Pattern
