/-!
# Blank characters

The characters that separate tokens: the ASCII controls from tab to carriage return, the four information
separators, the next-line and no-break spaces, and every character of the Unicode space, line and
paragraph separator classes.
-/

namespace LogAssay.Text

/-- A blank character separates tokens. -/
def isBlank (c : Char) : Bool :=
  let n := c.toNat
  (9 ≤ n && n ≤ 13) || (28 ≤ n && n ≤ 32) || n == 0x85 || n == 0xA0 || n == 0x1680
    || (0x2000 ≤ n && n ≤ 0x200A) || n == 0x2028 || n == 0x2029 || n == 0x202F || n == 0x205F
    || n == 0x3000

def trim (s : List Char) : List Char :=
  ((s.dropWhile isBlank).reverse.dropWhile isBlank).reverse

/-- A text without blanks at its ends is left alone. -/
theorem trim_eq_self {s : List Char} (first : ∀ c ∈ s.head?, isBlank c = false)
    (last : ∀ c ∈ s.getLast?, isBlank c = false) : trim s = s := by
  have drop : ∀ t : List Char, (∀ c ∈ t.head?, isBlank c = false) → t.dropWhile isBlank = t := by
    intro t h
    cases t with
    | nil => rfl
    | cons c r => simp [h c (by simp)]
  rw [trim, drop s first, drop s.reverse, List.reverse_reverse]
  intro c hc
  exact last c (by simpa using hc)

end LogAssay.Text
