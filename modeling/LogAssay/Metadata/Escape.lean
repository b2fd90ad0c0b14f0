import LogAssay.Diagnostic
import LogAssay.Text.Split

/-!
# Escapes in quoted metadata values

A quoted value writes the backslash, the double quote, line feed, carriage return and tab as a backslash and
a letter or the character itself. Reading goes from one backslash to the next and never fails: a backslash
before any other character gives that character, a backslash at the end gives itself, and both are reported.

## Main statement

* `unescape_escape`: the written form of a text reads back as the text, and nothing is reported.
-/

namespace LogAssay.Metadata

/-- The letter that stands for a character behind a backslash. -/
def escapeLetter? (c : Char) : Option Char :=
  if c = '\\' then some '\\'
  else if c = '"' then some '"'
  else if c = '\n' then some 'n'
  else if c = '\r' then some 'r'
  else if c = '\t' then some 't'
  else none

/-- The character that a letter behind a backslash stands for. -/
def escaped? (c : Char) : Option Char :=
  if c = '\\' then some '\\'
  else if c = '"' then some '"'
  else if c = 'n' then some '\n'
  else if c = 'r' then some '\r'
  else if c = 't' then some '\t'
  else none

theorem escaped?_of_escapeLetter? {c l : Char} (h : escapeLetter? c = some l) :
    escaped? l = some c := by
  unfold escapeLetter? at h
  repeat' split at h
  all_goals first | (cases h; subst_vars; rfl) | cases h

/-- One character of a quoted value. -/
def escapeChar (c : Char) : List Char :=
  match escapeLetter? c with
  | some letter => ['\\', letter]
  | none => [c]

/-- The text as it stands between the quotes. -/
def escape (s : List Char) : List Char := s.flatMap escapeChar

/-- What is wrong with an escape. -/
inductive EscapeProblem where
  | unknown (c : Char)
  | trailing
  deriving DecidableEq, Repr

/-- The text that stands between the quotes read back, with the problems met on the way. What stands in front of
the next backslash is taken as it is, then the character behind the backslash is looked up, and reading goes on
behind that one. A backslash at the end is taken with what stands in front of it. -/
def unescape (body : List Char) : List Char × List EscapeProblem :=
  match _h : Text.cut? '\\' body with
  | none => (body, [])
  | some (_, []) => (body, [.trailing])
  | some (front, c :: rest) =>
    let (text, problems) := unescape rest
    match escaped? c with
    | some meant => (front ++ meant :: text, problems)
    | none => (front ++ c :: text, .unknown c :: problems)
termination_by body.length
decreasing_by
  rw [(Text.cut?_eq_some_iff.1 _h).2, List.length_append, List.length_cons, List.length_cons]
  omega

theorem unescape_of_cut?_none {body : List Char} (h : Text.cut? '\\' body = none) : unescape body = (body, []) := by
  rw [unescape]
  split <;> simp_all

theorem unescape_of_cut?_end {body front : List Char} (h : Text.cut? '\\' body = some (front, [])) :
    unescape body = (body, [.trailing]) := by
  rw [unescape]
  split <;> simp_all

theorem unescape_of_cut?_cons {body front rest : List Char} {c : Char}
    (h : Text.cut? '\\' body = some (front, c :: rest)) :
    unescape body = (front ++ (escaped? c).getD c :: (unescape rest).1,
      if escaped? c = none then .unknown c :: (unescape rest).2 else (unescape rest).2) := by
  rw [unescape]
  split
  · simp_all
  · simp_all
  · next front' c' rest' h' =>
    rw [h] at h'
    cases h'
    cases escaped? c <;> rfl

theorem unescape_escapeLetter {c l : Char} (h : escapeLetter? c = some l) (s : List Char) :
    unescape ('\\' :: l :: s) = (c :: (unescape s).1, (unescape s).2) := by
  have hcut : Text.cut? '\\' ('\\' :: l :: s) = some ([], l :: s) := if_pos rfl
  rw [unescape_of_cut?_cons hcut, escaped?_of_escapeLetter? h]
  rfl

theorem unescape_cons {c : Char} (h : escapeLetter? c = none) (s : List Char) :
    unescape (c :: s) = (c :: (unescape s).1, (unescape s).2) := by
  have hc : c ≠ '\\' := by rintro rfl; simp [escapeLetter?] at h
  have hcut := Text.cut?_cons_of_ne hc s
  rcases hs : Text.cut? '\\' s with _ | ⟨front, _ | ⟨d, rest⟩⟩ <;> rw [hs] at hcut
  · rw [unescape_of_cut?_none hcut, unescape_of_cut?_none hs]
  · rw [unescape_of_cut?_end hcut, unescape_of_cut?_end hs]
  · rw [unescape_of_cut?_cons hcut, unescape_of_cut?_cons hs]
    rfl

theorem escape_cons (c : Char) (s : List Char) : escape (c :: s) = escapeChar c ++ escape s := by
  simp [escape]

/-- Writing and reading back gives the text, without problems. -/
theorem unescape_escape (s : List Char) : unescape (escape s) = (s, []) := by
  induction s with
  | nil => exact unescape_of_cut?_none rfl
  | cons c r ih =>
    rw [escape_cons, escapeChar]
    cases h : escapeLetter? c with
    | some l => simp [unescape_escapeLetter h, ih]
    | none => simp [unescape_cons h, ih]

/-- The report on a problem of the quoted value `raw`. -/
def EscapeProblem.diagnostic (raw : String) : EscapeProblem → Diagnostic
  | unknown c => .unknownEscape c raw
  | trailing => .trailingBackslash raw

/-- The reports on reading back the body of the quoted value `raw`: each problem in order, and behind them
one warning about the whole. -/
def unescapeReports (raw : String) (body : List Char) : List Diagnostic :=
  let (text, problems) := unescape body
  if problems.isEmpty then []
  else problems.map (·.diagnostic raw) ++ [.doubtfulText raw (String.ofList text)]

end LogAssay.Metadata
