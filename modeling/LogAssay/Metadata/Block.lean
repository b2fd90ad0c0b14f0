import LogAssay.Text.Blank
import LogAssay.Text.Split

/-!
# Context blocks

A message may end in a context block: `[CONTEXT `, one or more pairs each followed by a space, and `]` as the
very last character. The block stands at the start of the message or directly behind a space or a line feed,
and that separator belongs to neither side.

A pair is a key, which holds neither blanks nor equals signs, alone or followed by an equals sign and a
value. An unquoted value is any character but a double quote and the non-blanks behind it. A quoted value
stands between double quotes; inside it a backslash must escape one of `\`, `"`, `n`, `r` and `t`.

Every step looks at most one character ahead, so a text is a block in one way at most. Whether it is one is
found by taking one pair after the other, each step leaving a shorter rest. If several places of a message
start a block, the first counts. The pairs themselves are read again, without regard to the separators
(`Metadata.scan`).
-/

namespace LogAssay.Metadata

/-- What stands behind a key. -/
inductive Token where
  /-- Nothing: the key is a bare tag. -/
  | bare
  /-- An unquoted value. -/
  | plain (text : List Char)
  /-- A quoted value, as it stands between the quotes. -/
  | quoted (body : List Char)
  deriving DecidableEq, Repr

/-- A key and what stands behind it. -/
structure Pair where
  key : List Char
  token : Token
  deriving DecidableEq, Repr

def isKeyChar (c : Char) : Bool := !Text.isBlank c && c != '='

def isEscapable (c : Char) : Bool := c = '\\' || c = '"' || c = 'n' || c = 'r' || c = 't'

/-- The body of a quoted value, from behind the opening quote, and what stands behind the closing one. -/
def takeBody? : List Char → Option (List Char × List Char)
  | [] => none
  | '"' :: rest => some ([], rest)
  | ['\\'] => none
  | '\\' :: c :: rest =>
    if isEscapable c then
      (takeBody? rest).map fun (body, rest) => ('\\' :: c :: body, rest)
    else none
  | c :: rest => (takeBody? rest).map fun (body, rest) => (c :: body, rest)

/-- What stands behind a key up to the space that ends the pair, and what stands behind that space. -/
def takeToken? : List Char → Option (Token × List Char)
  | ' ' :: rest => some (.bare, rest)
  | '=' :: '"' :: rest =>
    match takeBody? rest with
    | some (body, ' ' :: rest) => some (.quoted body, rest)
    | _ => none
  | '=' :: c :: rest =>
    match rest.dropWhile (!Text.isBlank ·) with
    | ' ' :: behind => some (.plain (c :: rest.takeWhile (!Text.isBlank ·)), behind)
    | _ => none
  | _ => none

/-- The first pair of a text, with its space, and what stands behind it. -/
def takePair? (s : List Char) : Option (Pair × List Char) :=
  let key := s.takeWhile isKeyChar
  if key = [] then none
  else (takeToken? (s.dropWhile isKeyChar)).map fun (token, rest) => (⟨key, token⟩, rest)

theorem length_takeBody? {s body rest : List Char} (h : takeBody? s = some (body, rest)) :
    rest.length < s.length := by
  induction s using takeBody?.induct generalizing body rest with
  | case1 => simp [takeBody?] at h
  | case2 r => simp [takeBody?] at h; simp [h]
  | case3 => simp [takeBody?] at h
  | case4 c r hc ih =>
    rw [takeBody?, if_pos hc] at h
    obtain ⟨⟨b, r'⟩, hb, he⟩ := Option.map_eq_some_iff.1 h
    cases he
    have := ih hb
    simp only [List.length_cons]
    omega
  | case5 c r hc => rw [takeBody?, if_neg hc] at h; cases h
  | case6 c r h1 h2 h3 ih =>
    rw [takeBody?] at h
    · obtain ⟨⟨b, r'⟩, hb, he⟩ := Option.map_eq_some_iff.1 h
      cases he
      have := ih hb
      simp only [List.length_cons]
      omega
    all_goals assumption

theorem length_takeToken? {s rest : List Char} {token : Token}
    (h : takeToken? s = some (token, rest)) : rest.length < s.length := by
  unfold takeToken? at h
  split at h
  · cases h; simp
  · split at h
    · next hb => cases h; have := length_takeBody? hb; simp only [List.length_cons] at this ⊢; omega
    · cases h
  · next r _ =>
    split at h
    · next hb =>
      cases h
      have := congrArg List.length hb
      have := (List.dropWhile_suffix (l := r) (!Text.isBlank ·)).length_le
      simp only [List.length_cons] at *
      omega
    · cases h
  · cases h

/-- A pair takes something away. -/
theorem length_takePair? {s rest : List Char} {pair : Pair}
    (h : takePair? s = some (pair, rest)) : rest.length < s.length := by
  unfold takePair? at h
  simp only at h
  split at h
  · cases h
  · obtain ⟨⟨token, r⟩, ht, he⟩ := Option.map_eq_some_iff.1 h
    cases he
    have := length_takeToken? ht
    have := (List.dropWhile_suffix (l := s) isKeyChar).length_le
    show r.length < s.length
    omega

/-- Whether a text is one pair or more and the bracket that ends it. -/
def isClosed (s : List Char) : Bool :=
  match _h : takePair? s with
  | none => false
  | some (_, rest) => rest = [']'] || isClosed rest
termination_by s.length
decreasing_by exact length_takePair? _h

/-- The beginning of a block. -/
def opening : List Char := ['[', 'C', 'O', 'N', 'T', 'E', 'X', 'T', ' ']

/-- What stands between the opening and the bracket of a text that is a block from its start to its end. -/
def block? (s : List Char) : Option (List Char) :=
  (Text.without? opening s).bind fun inside => if isClosed inside then some inside.dropLast else none

/-- A character that may stand between a message and its block. -/
def isSeparator (c : Char) : Bool := c = ' ' || c = '\n'

/-- The message in front of the first separator that a block follows, and the inside of that block. -/
def splitInside? : List Char → Option (List Char × List Char)
  | [] => none
  | c :: rest =>
    match if isSeparator c then block? rest else none with
    | some inside => some ([], inside)
    | none => (splitInside? rest).map fun (message, inside) => (c :: message, inside)

/-- The message in front of the block that ends a text, and the inside of the block; nothing if the text ends
in no block. -/
def split? (s : List Char) : Option (List Char × List Char) :=
  match block? s with
  | some inside => some ([], inside)
  | none => splitInside? s

end LogAssay.Metadata
