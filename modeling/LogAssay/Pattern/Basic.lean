import LogAssay.Text.Blank
import LogAssay.Text.Casing
import LogAssay.Text.Digit
import LogAssay.Text.Word

/-!
# Message patterns

A pattern describes pieces of text. Matching asks whether some piece of a message fits, so it is enough to
know, for every position, the positions at which a piece that starts there can end. These are finitely many,
and repetition adds new ones until there are none left to add.
-/

namespace LogAssay

/-- How a pattern reads case and lines. -/
structure PatternMode where
  /-- Letters match in any case. -/
  ignoreCase : Bool := false
  /-- Lines inside the text have starts and ends. -/
  multiline : Bool := false
  /-- Any character includes the line feed. -/
  dotAll : Bool := false
  deriving DecidableEq, Repr

/-- A class of characters. -/
inductive CharClass where
  | single (code : Nat)
  | range (first last : Nat)
  | digit (negated : Bool)
  | blank (negated : Bool)
  | word (negated : Bool)
  deriving DecidableEq, Repr

/-- The characters of some classes, or all others. -/
structure CharSet where
  negated : Bool
  classes : List CharClass
  deriving DecidableEq, Repr

/-- A message pattern. -/
inductive Pattern where
  | empty
  | set (s : CharSet)
  | any
  | lineStart
  | lineEnd
  | textStart
  | textEnd
  | boundary (negated : Bool)
  | seq (first second : Pattern)
  | alt (left right : Pattern)
  /-- A pattern in parentheses. -/
  | group (inner : Pattern)
  /-- A pattern between a least and, perhaps, a greatest number of times. -/
  | repeated (least : Nat) (greatest : Option Nat) (inner : Pattern)
  deriving DecidableEq, Repr

namespace CharClass

/-- Whether a character belongs to a class. Where case is ignored, a single character stands for all its
case forms, and a range for those of all its characters. -/
def contains (ignoreCase : Bool) (c : Char) : CharClass → Bool
  | single code => code == c.toNat || (ignoreCase && Text.caseless (Char.ofNat code) == Text.caseless c)
  | range first last =>
    (first ≤ c.toNat && c.toNat ≤ last) ||
      (ignoreCase &&
        (List.range' first (last + 1 - first)).any fun code =>
          Text.caseless (Char.ofNat code) == Text.caseless c)
  | digit negated => (Text.digitValue? c).isSome != negated
  | blank negated => Text.isBlank c != negated
  | word negated => Text.isWord c != negated

end CharClass

def CharSet.contains (s : CharSet) (ignoreCase : Bool) (c : Char) : Bool :=
  s.classes.any (·.contains ignoreCase c) != s.negated

namespace Pattern

/-- Whether a word starts or ends at a position: a word character on exactly one side. -/
def isBoundary (text : Array Char) (i : Nat) : Bool :=
  let before := i != 0 && (text[i - 1]?).any Text.isWord
  let after := (text[i]?).any Text.isWord
  before != after

/-- Whether a position is one at which a word starts or ends, or else one at which none does. An empty text has
no positions of either kind. -/
def isEdge (negated : Bool) (text : Array Char) (i : Nat) : Bool :=
  text.size != 0 && isBoundary text i != negated

/-- Whether a line ends at a position. A line feed at the very end of the text ends the last line. -/
def isLineEnd (multiline : Bool) (text : Array Char) (i : Nat) : Bool :=
  i == text.size || (text[i]? == some '\n' && (multiline || i + 1 == text.size))

/-- Whether a line starts at a position. -/
def isLineStart (multiline : Bool) (text : Array Char) (i : Nat) : Bool :=
  i == 0 || (multiline && text[i - 1]? == some '\n')

/-- The position itself, if something holds there. -/
def stay (holds : Bool) (i : Nat) : List Nat := if holds then [i] else []

/-- The position behind the next character, if there is one and it fits. -/
def step (fits : Char → Bool) (text : Array Char) (i : Nat) : List Nat :=
  match text[i]? with
  | some c => if fits c then [i + 1] else []
  | none => []

/-- All positions reached from some positions by one move. -/
def advance (move : Nat → List Nat) (positions : List Nat) : List Nat :=
  (positions.flatMap move).eraseDups

/-- The positions reached by exactly the given number of moves. -/
def advanceTimes (move : Nat → List Nat) : Nat → List Nat → List Nat
  | 0, positions => positions
  | n + 1, positions => advanceTimes move n (advance move positions)

/-- The positions reached by at most the given number of moves; the search ends when nothing new comes. -/
def advanceUpTo (move : Nat → List Nat) : Nat → List Nat → List Nat → List Nat
  | 0, reached, _ => reached
  | n + 1, reached, latest =>
    match (advance move latest).filter fun i => !reached.contains i with
    | [] => reached
    | fresh => advanceUpTo move n (reached ++ fresh) fresh

/-- The positions at which a piece of text that fits a pattern and starts at a position can end. -/
def ends (mode : PatternMode) (text : Array Char) : Pattern → Nat → List Nat
  | empty, i => [i]
  | set s, i => step (s.contains mode.ignoreCase) text i
  | any, i => step (fun c => mode.dotAll || c != '\n') text i
  | lineStart, i => stay (isLineStart mode.multiline text i) i
  | lineEnd, i => stay (isLineEnd mode.multiline text i) i
  | textStart, i => stay (i == 0) i
  | textEnd, i => stay (i == text.size) i
  | boundary negated, i => stay (isEdge negated text i) i
  | seq first second, i => advance (second.ends mode text) (first.ends mode text i)
  | alt left right, i => (left.ends mode text i ++ right.ends mode text i).eraseDups
  | group inner, i => inner.ends mode text i
  | repeated least greatest inner, i =>
    let start := advanceTimes (inner.ends mode text) least [i]
    advanceUpTo (inner.ends mode text) ((greatest.getD (least + text.size + 1)) - least) start start

/-- Whether some piece of a text fits a pattern. -/
def foundIn (mode : PatternMode) (p : Pattern) (text : Array Char) : Bool :=
  (List.range (text.size + 1)).any fun i => !(p.ends mode text i).isEmpty

end Pattern

end LogAssay
