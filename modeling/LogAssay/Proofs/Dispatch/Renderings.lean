import LogAssay.Proofs.Dispatch.Converting
import LogAssay.Proofs.Number.Comparison
import Mathlib.Data.List.Basic

/-!
# Renderings of a thread

A backend may give the number of a thread as an integer, as a numeral or as a name around a numeral, with zeros in
front and blanks on both sides. The token is the number, however it is rendered. So whether two records are of one
thread depends on their numbers alone, and a record of such a thread is never of one thread with a record whose thread
is given by a text with something else than digits.

## Main statements

* `Renders.thread_eq`: the token of a rendering is its number.
* `threadOfText_of_other`: the token of a text with something else than digits is the text.
* `thread_independent_of_rendering`: what this says of converted records.
-/

namespace LogAssay

/-! ## Equality of tokens -/

theorem Value.int_eq_int_iff {i j : Int} : (Value.int i).eq (.int j) = true ↔ i = j := by
  simp only [Value.eq, Scalar.eq, Scalar.quantity?]
  exact Quantity.eq_int

/-- No integer is a text. -/
theorem Value.int_eq_text (i : Int) (s : String) : (Value.int i).eq (.text s) = false := by
  simp [Value.eq, Scalar.eq, Scalar.quantity?]

theorem Value.text_eq_int (s : String) (i : Int) : (Value.text s).eq (.int i) = false := by
  simp [Value.eq, Scalar.eq, Scalar.quantity?]

namespace Dispatch

open Decimal (AllDigits)
open Text (isBlank digitValue?)

variable {n m : Nat} {digits : List Char} {text : String} {v w : Value} {metadata : Fields}

/-! ## Numerals -/

/-- Decimal digits that denote a number, with any zeros in front. -/
structure Denotes (digits : List Char) (n : Nat) : Prop where
  ne_nil : digits ≠ []
  allDigits : AllDigits digits
  length_le : digits.length ≤ Decimal.maxDigits
  value : Decimal.toNat digits = n

theorem numberOf_eq_toNat (h : AllDigits digits) : numberOf digits = Decimal.toNat digits := by
  unfold numberOf Decimal.toNat
  refine List.foldl_ext _ _ 0 fun n c hc => ?_
  rw [Text.digitValue?_of_isDigit (h c hc)]
  rfl

theorem Denotes.isNumeral (h : Denotes digits n) : IsNumeral digits where
  ne_nil := h.ne_nil
  decimal c hc := Text.isSome_digitValue?_of_isDigit (h.allDigits c hc)
  length_le := h.length_le

/-! ## Names and blanks -/

/-- The name around a text is taken off. -/
theorem unwrap_named (s : List Char) : unwrap ("ThreadId(".toList ++ (s ++ [')'])) = s := by
  unfold unwrap
  rw [Text.without?_append]
  simp

/-- Digits do not begin with the name. -/
theorem unwrap_of_allDigits (h : AllDigits digits) : unwrap digits = digits := by
  unfold unwrap
  cases hwithout : Text.without? "ThreadId(".toList digits with
  | none => rfl
  | some rest =>
    have hname : digits = "ThreadId(".toList ++ rest := Text.without?_eq_some_iff.1 hwithout
    have hfirst : 'T'.isDigit = true := h 'T' (by rw [hname]; simp)
    exact absurd hfirst (by decide)

/-- A text with blanks on both sides. -/
def IsPadded (s : List Char) (text : String) : Prop :=
  ∃ before after, (∀ c ∈ before, isBlank c = true) ∧ (∀ c ∈ after, isBlank c = true) ∧
    text.toList = before ++ s ++ after

theorem Denotes.inner_eq (h : Denotes digits n) (padded : IsPadded digits text) : inner text = digits := by
  obtain ⟨before, after, hbefore, hafter, htext⟩ := padded
  have hblank {c : Char} (hc : c ∈ digits) : isBlank c = false := Metadata.isBlank_of_isDigit (h.allDigits c hc)
  unfold inner
  rw [htext, Text.trim_between hbefore hafter h.ne_nil (fun c hc => hblank (List.mem_of_head? hc))
    fun c hc => hblank (List.mem_of_getLast? hc)]
  exact unwrap_of_allDigits h.allDigits

theorem inner_named (padded : IsPadded ("ThreadId(".toList ++ (digits ++ [')'])) text) : inner text = digits := by
  obtain ⟨before, after, hbefore, hafter, htext⟩ := padded
  unfold inner
  rw [htext, Text.trim_between hbefore hafter (by simp)]
  · exact unwrap_named digits
  · intro c hc
    obtain rfl : 'T' = c := by simpa using hc
    decide
  · intro c hc
    rw [← List.append_assoc, List.getLast?_concat] at hc
    obtain rfl : ')' = c := by simpa using hc
    decide

/-! ## Renderings -/

/-- The ways in which the number of a thread is given. -/
inductive Renders (n : Nat) : Value → Prop where
  | number : Renders n (.int n)
  | numeral {digits : List Char} {text : String} (denotes : Denotes digits n) (padded : IsPadded digits text) :
    Renders n (.text text)
  | named {digits : List Char} {text : String} (denotes : Denotes digits n)
    (padded : IsPadded ("ThreadId(".toList ++ (digits ++ [')'])) text) : Renders n (.text text)

theorem Denotes.threadOfText_eq (h : Denotes digits n) (hinner : inner text = digits) :
    threadOfText text = .ok (.int n) := by
  subst hinner
  rw [threadOfText_of_isNumeral h.isNumeral, numberOf_eq_toNat h.allDigits, h.value]

/-- **The token of a rendering is its number.** -/
theorem Renders.thread_eq (h : Renders n v) (hv : Value.find? metadata "thread_id" = some v) :
    thread metadata = .ok (.int n) := by
  cases h with
  | number =>
    unfold thread
    rw [hv]
    rfl
  | numeral denotes padded => exact (thread_of_text hv).trans (denotes.threadOfText_eq (denotes.inner_eq padded))
  | named denotes padded => exact (thread_of_text hv).trans (denotes.threadOfText_eq (inner_named padded))

/-- **The token of a text with something else than digits is the text**, if it has a token. -/
theorem threadOfText_of_other {s : String} {c : Char} (hc : c ∈ inner s) (hdigit : digitValue? c = none)
    (hv : threadOfText s = .ok v) : v = .text s := by
  rcases threadOfText_ok_iff.1 ⟨v, hv⟩ with hnumeral | hforeign
  · have hsome := hnumeral.decimal c hc
    rw [hdigit] at hsome
    cases hsome
  · rw [threadOfText_of_isForeign hforeign] at hv
    exact (Except.ok.inj hv).symm

/-! ## Records -/

/-- A record that comes of converting one which gives its thread by a value. -/
def Captures (v : Value) (r : Record) : Prop :=
  ∃ now record message metadata, Parts record message metadata ∧ Value.find? metadata "thread_id" = some v ∧
    (convert now record).outcome = .ok r

theorem Renders.thread_of_captures (h : Renders n v) {r : Record} (hr : Captures v r) : r.thread = .int n := by
  obtain ⟨now, record, message, metadata, parts, hv, hconvert⟩ := hr
  obtain ⟨decoded, t, token, -, -, -, htoken, -, rfl⟩ := parts.convert_ok_iff.1 hconvert
  rw [h.thread_eq hv] at htoken
  exact (Except.ok.inj htoken).symm

theorem thread_of_captures_other {s : String} {c : Char} (hc : c ∈ inner s) (hdigit : digitValue? c = none) {r : Record}
    (hr : Captures (.text s) r) : r.thread = .text s := by
  obtain ⟨now, record, message, metadata, parts, hs, hconvert⟩ := hr
  obtain ⟨decoded, t, token, -, -, -, htoken, -, rfl⟩ := parts.convert_ok_iff.1 hconvert
  rw [thread_of_text hs] at htoken
  exact threadOfText_of_other hc hdigit htoken

/-- **The token of a thread does not depend on its rendering.** A record whose thread is rendered in any of the three
ways has the number for its token, and its thread never keeps it from being converted. Two such records, however
rendered, are of one thread iff their numbers are equal. And none is of one thread with a record whose thread is given
by a text that holds something else than digits, once the blanks and the name around it are gone. -/
theorem thread_independent_of_rendering (h : Renders n v) :
    (∀ now record message metadata, Parts record message metadata → Value.find? metadata "thread_id" = some v →
      thread metadata = .ok (.int n) ∧
      ((∃ r, (convert now record).outcome = .ok r) ↔
        (∃ d, (Metadata.decode message).outcome = .ok d) ∧
          (∀ v, Value.find? record "level" = some v → v.isWritable = true) ∧ (∃ t, time now metadata = .ok t) ∧
          ∀ key v, (.text key, v) ∈ pairsOf metadata → v.isWidened = true) ∧
      ∀ r, (convert now record).outcome = .ok r → r.thread = .int n) ∧
    (∀ r r' m w, Captures v r → Renders m w → Captures w r' → (r.sameThread r' = true ↔ n = m)) ∧
    ∀ r r' s c, Captures v r → c ∈ inner s → digitValue? c = none → Captures (.text s) r' →
      r.sameThread r' = false ∧ r'.sameThread r = false := by
  refine ⟨fun now record message metadata parts hv => ?_, fun r r' m w hr hw hr' => ?_,
    fun r r' s c hr hc hdigit hr' => ?_⟩
  · have htoken := h.thread_eq hv
    have hthread : ∃ token, thread metadata = .ok token := ⟨_, htoken⟩
    refine ⟨htoken, ?_, fun r hr => h.thread_of_captures ⟨now, record, message, metadata, parts, hv, hr⟩⟩
    rw [parts.exists_convert_ok_iff, and_iff_right hthread]
  · unfold Record.sameThread
    rw [h.thread_of_captures hr, hw.thread_of_captures hr', Value.int_eq_int_iff]
    exact Int.natCast_inj
  · unfold Record.sameThread
    rw [h.thread_of_captures hr, thread_of_captures_other hc hdigit hr']
    exact ⟨Value.int_eq_text n s, Value.text_eq_int s n⟩

/-- A thread that has a token is captured, by a record with nothing else in it. -/
theorem exists_captures {token : Value} (htoken : thread [(.text "thread_id", v)] = .ok token) : ∃ r, Captures v r := by
  have htime : time ⟨0⟩ [(.text "thread_id", v)] = .ok ⟨0⟩ := by simp [time]
  have hmessage : (Metadata.decode "").outcome = .ok ⟨"", []⟩ := eq_ok_of_toOption (by decide +kernel)
  obtain ⟨r, hr⟩ := (parts_bare _).exists_convert_ok_iff.2
    ⟨⟨_, hmessage⟩, by simp [bare], ⟨_, htime⟩, ⟨token, htoken⟩, by simp [pairsOf]⟩
  exact ⟨r, ⟨0⟩, _, "", _, parts_bare _, by simp, hr⟩

/-- A number with a zero in front, in its name and between blanks, next to the number itself and to the name of a
worker. -/
theorem thread_independent_of_rendering_padded :
    Renders 7 (.text " ThreadId(07)\n") ∧
    ∃ padded plain worker, Captures (.text " ThreadId(07)\n") padded ∧ Captures (.int 7) plain ∧
      Captures (.text "worker-1") worker ∧ padded.thread = .int 7 ∧ padded.sameThread plain = true ∧
      padded.sameThread worker = false := by
  have hdenotes : Denotes ['0', '7'] 7 := ⟨by decide, List.all_eq_true.1 (by decide), by decide, by decide⟩
  have hrenders : Renders 7 (.text " ThreadId(07)\n") :=
    .named hdenotes ⟨[' '], ['\n'], List.all_eq_true.1 (by decide), List.all_eq_true.1 (by decide), by decide⟩
  have hw : 'w' ∈ inner "worker-1" := by decide +kernel
  have hforeign : IsForeign (inner "worker-1") := .inr ⟨'w', hw, by decide +kernel⟩
  have hpadded : thread [(.text "thread_id", .text " ThreadId(07)\n")] = .ok (.int 7) := hrenders.thread_eq (by simp)
  have hplain : thread [(.text "thread_id", .int 7)] = .ok (.int 7) := Renders.number.thread_eq (n := 7) (by simp)
  have hworker : thread [(.text "thread_id", .text "worker-1")] = .ok (.text "worker-1") :=
    (thread_of_text (by simp)).trans (threadOfText_of_isForeign hforeign)
  obtain ⟨padded, hpadded⟩ := exists_captures hpadded
  obtain ⟨plain, hplain⟩ := exists_captures hplain
  obtain ⟨worker, hworker⟩ := exists_captures hworker
  obtain ⟨-, hsame, hother⟩ := thread_independent_of_rendering hrenders
  exact ⟨hrenders, padded, plain, worker, hpadded, hplain, hworker, hrenders.thread_of_captures hpadded,
    (hsame padded plain 7 _ hpadded .number hplain).2 rfl,
    (hother padded worker _ 'w' hpadded hw (by decide +kernel) hworker).1⟩

end Dispatch

end LogAssay
