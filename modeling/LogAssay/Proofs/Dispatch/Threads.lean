import LogAssay.Dispatch.Record
import LogAssay.Proofs.Metadata.Roundtrip
import Mathlib.Data.List.TakeWhile

/-!
# Tokens of threads

A thread that is given as a text has its number for a token if the text shows one, and the text itself otherwise. What a
text shows is told in two ways that do not agree: a text is taken for a number if all of its characters show digits, and
it is read as one if they are decimal digits and not too many. Between the two lie the texts that have no token at all,
such as a superscript.

## Main statements

* `readNumber_ok_iff`: which texts are read as numbers.
* `threadOfText_of_isNumeral`, `threadOfText_of_isForeign`: the tokens of numerals and of other texts.
* `threadOfText_ok_iff`: which texts have a token.
-/

namespace LogAssay

/-! ## Digits -/

namespace Text

/-- The first script of the table is the one of the ASCII digits. -/
theorem digitValue?_of_isDigit {c : Char} (h : c.isDigit = true) : digitValue? c = some (Decimal.digitValue c) := by
  obtain ⟨hlow, hhigh⟩ := Metadata.isDigit_iff.1 h
  have hzeros : zeros = 0x30 :: zeros.tail := rfl
  unfold digitValue?
  rw [hzeros, List.find?_cons_of_pos]
  · rfl
  · simp only [Bool.and_eq_true, decide_eq_true_eq]
    omega

theorem isSome_digitValue?_of_isDigit {c : Char} (h : c.isDigit = true) : (digitValue? c).isSome = true := by
  rw [digitValue?_of_isDigit h]
  rfl

/-- Decimal digits show digits. -/
theorem showsDigit_of_decimal {c : Char} (h : (digitValue? c).isSome = true) : showsDigit c = true := by
  unfold showsDigit
  rw [h, Bool.true_or]

/-- Blanks around a text are trimmed off. -/
theorem trim_between {before s after : List Char} (hbefore : ∀ c ∈ before, isBlank c = true)
    (hafter : ∀ c ∈ after, isBlank c = true) (hs : s ≠ []) (first : ∀ c ∈ s.head?, isBlank c = false)
    (last : ∀ c ∈ s.getLast?, isBlank c = false) : trim (before ++ s ++ after) = s := by
  have hfront : (before ++ s ++ after).dropWhile isBlank = s ++ after := by
    rw [List.append_assoc]
    obtain ⟨d, rest, rfl⟩ := List.exists_cons_of_ne_nil hs
    exact dropWhile_run hbefore first
  have hback : (s ++ after).reverse.dropWhile isBlank = s.reverse := by
    rw [List.reverse_append]
    refine dropWhile_run (fun c hc => hafter c (List.mem_reverse.1 hc)) fun c hc => last c ?_
    rwa [List.head?_reverse] at hc
  unfold trim
  rw [hfront, hback, List.reverse_reverse]

end Text

namespace Dispatch

open Text (digitValue? showsDigit isBlank)

/-! ## Numerals -/

/-- A text of decimal digits, of any script, that is read as a number. -/
structure IsNumeral (s : List Char) : Prop where
  ne_nil : s ≠ []
  decimal : ∀ c ∈ s, (digitValue? c).isSome = true
  length_le : s.length ≤ Decimal.maxDigits

/-- A text that is not taken for a number: it is empty, or one of its characters shows no digit. -/
def IsForeign (s : List Char) : Prop := s = [] ∨ ∃ c ∈ s, showsDigit c = false

/-- Numerals are read. -/
theorem IsNumeral.readNumber_eq {s : List Char} (h : IsNumeral s) : readNumber s = .ok (numberOf s) := by
  have hall : (s.takeWhile fun c => (digitValue? c).isSome) = s := List.takeWhile_eq_self_iff.2 h.decimal
  have hlength : ¬Decimal.maxDigits < s.length := Nat.not_lt.2 h.length_le
  unfold readNumber
  simp only [hall]
  rw [if_neg hlength, if_pos trivial]

/-- **Which texts are read as numbers**: those of decimal digits, and not too many. -/
theorem readNumber_ok_iff {s : List Char} :
    (∃ n, readNumber s = .ok n) ↔ (∀ c ∈ s, (digitValue? c).isSome = true) ∧ s.length ≤ Decimal.maxDigits := by
  constructor
  · rintro ⟨n, hn⟩
    unfold readNumber at hn
    simp only at hn
    split at hn
    · cases hn
    · next hlength =>
      split at hn
      · next hall =>
        rw [hall] at hlength
        exact ⟨List.takeWhile_eq_self_iff.1 hall, Nat.not_lt.1 hlength⟩
      · cases hn
  · rintro ⟨hdecimal, hlength⟩
    rcases eq_or_ne s [] with rfl | hs
    · exact ⟨0, rfl⟩
    · exact ⟨_, (IsNumeral.mk hs hdecimal hlength).readNumber_eq⟩

theorem not_isForeign_iff {s : List Char} : ¬IsForeign s ↔ s ≠ [] ∧ s.all showsDigit = true := by
  unfold IsForeign
  simp [List.all_eq_true]

theorem IsNumeral.not_isForeign {s : List Char} (h : IsNumeral s) : ¬IsForeign s :=
  not_isForeign_iff.2 ⟨h.ne_nil, List.all_eq_true.2 fun c hc => Text.showsDigit_of_decimal (h.decimal c hc)⟩

/-! ## Tokens -/

/-- What is left of the text of a thread for its number: the blanks around it go, and then the name. -/
def inner (text : String) : List Char := unwrap (Text.trim text.toList)

/-- The token of a numeral is its number. -/
theorem threadOfText_of_isNumeral {text : String} (h : IsNumeral (inner text)) :
    threadOfText text = .ok (.int (numberOf (inner text))) := by
  unfold threadOfText
  rw [← inner, if_pos (not_isForeign_iff.1 h.not_isForeign), h.readNumber_eq]
  rfl

/-- A text that is not taken for a number is its own token. -/
theorem threadOfText_of_isForeign {text : String} (h : IsForeign (inner text)) :
    threadOfText text = .ok (.text text) := by
  unfold threadOfText
  rw [← inner, if_neg fun hall => not_isForeign_iff.2 hall h]

/-- **Which texts have a token**: those that are read as a number, or are not taken for one. -/
theorem threadOfText_ok_iff {text : String} :
    (∃ v, threadOfText text = .ok v) ↔ IsNumeral (inner text) ∨ IsForeign (inner text) := by
  constructor
  · rintro ⟨v, hv⟩
    -- a text that is taken for a number has a token only if it is read as one
    by_cases hforeign : IsForeign (inner text)
    · exact .inr hforeign
    · obtain ⟨hne, hall⟩ := not_isForeign_iff.1 hforeign
      unfold threadOfText at hv
      rw [← inner, if_pos ⟨hne, hall⟩] at hv
      cases hread : readNumber (inner text) with
      | error fault =>
        rw [hread] at hv
        cases hv
      | ok n =>
        obtain ⟨hdecimal, hlength⟩ := readNumber_ok_iff.1 ⟨n, hread⟩
        exact .inl ⟨hne, hdecimal, hlength⟩
  · rintro (h | h)
    · exact ⟨_, threadOfText_of_isNumeral h⟩
    · exact ⟨_, threadOfText_of_isForeign h⟩

theorem thread_of_text {metadata : Fields} {s : String} (hs : Value.find? metadata "thread_id" = some (.text s)) :
    thread metadata = threadOfText s := by
  unfold thread
  rw [hs]
  rfl

end Dispatch

end LogAssay
