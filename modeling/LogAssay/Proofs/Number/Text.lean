import LogAssay.Number.Reader
import LogAssay.Proofs.Number.Shortest
import LogAssay.Text.Split
import Mathlib.Data.List.Induction

/-!
# The texts of numbers

An integer and a finite floating-point number read back from their texts.

## Spellings

Positional and exponent notation are brought under one head: a spelling is a whole part and behind it a
fraction, an exponent or both. What the reader makes of a spelling is said once (`Spells.read`), and so is what
callers need to know of its characters. The four branches of the layout are then spellings of one value, up to
trailing zeros, which rounding does not see.
-/

namespace LogAssay

namespace Decimal

/-! ## Runs of digits -/

theorem toNat_append (a b : List Char) : toNat (a ++ b) = toNat a * 10 ^ b.length + toNat b := by
  induction b using List.reverseRecOn with
  | nil => simp [toNat]
  | append_singleton b c ih =>
    rw [← List.append_assoc, toNat_append_singleton, ih, toNat_append_singleton, List.length_append,
      List.length_singleton, Nat.pow_succ]
    ring

theorem toNat_replicate_zero : ∀ n : Nat, toNat (List.replicate n '0') = 0
  | 0 => rfl
  | n + 1 => by
    rw [List.replicate_succ', toNat_append_singleton, toNat_replicate_zero n]
    rfl

/-- Leading zeros count for nothing. -/
theorem toNat_zeros_append (n : Nat) (s : List Char) : toNat (List.replicate n '0' ++ s) = toNat s := by
  rw [toNat_append, toNat_replicate_zero, Nat.zero_mul, Nat.zero_add]

theorem toNat_append_zeros (s : List Char) (n : Nat) :
    toNat (s ++ List.replicate n '0') = toNat s * 10 ^ n := by
  rw [toNat_append, toNat_replicate_zero, List.length_replicate, Nat.add_zero]

/-- A list of ASCII digits. -/
def AllDigits (s : List Char) : Prop := ∀ c ∈ s, c.isDigit = true

theorem AllDigits.append {a b : List Char} (ha : AllDigits a) (hb : AllDigits b) : AllDigits (a ++ b) := by
  intro c hc
  rcases List.mem_append.1 hc with h | h
  · exact ha c h
  · exact hb c h

theorem allDigits_zeros (n : Nat) : AllDigits (List.replicate n '0') := by
  intro c hc
  rw [List.eq_of_mem_replicate hc]
  rfl

theorem allDigits_ofNat (n : Nat) : AllDigits (ofNat n) := fun _ => isDigit_of_mem_ofNat

/-- A numeral is no longer than the power of ten above it. -/
theorem length_ofNat_le {n : Nat} : ∀ {k : Nat}, n < 10 ^ (k + 1) → (ofNat n).length ≤ k + 1
  | 0, h => by
    rw [ofNat, if_pos (by omega)]
    simp
  | k + 1, h => by
    rw [ofNat]
    split
    · simp
    · have hdiv : n / 10 < 10 ^ (k + 1) := by
        rw [Nat.pow_succ] at h
        omega
      have := length_ofNat_le hdiv
      rw [List.length_append, List.length_singleton]
      omega

/-- An integer of 64 bits can be written. -/
theorem isWritable_of_word {i : Int} (lower : -2 ^ 63 ≤ i) (upper : i < 2 ^ 63) : isWritable i = true := by
  have hsmall : i.natAbs < 10 ^ (18 + 1) := by omega
  exact decide_eq_true ((length_ofNat_le hsmall).trans (by decide))

end Decimal

namespace Binary64

open Decimal

/-! ## Spellings -/

/-- The mark, the sign and the digits of an exponent, with zeros before them. -/
def exponentText (zeros : Nat) (exponent : Int) : List Char :=
  'e' :: (if exponent < 0 then '-' else '+') :: (List.replicate zeros '0' ++ ofNat exponent.natAbs)

/-- A text is a whole part with a fraction, an exponent or both behind it. -/
inductive Spells : List Char → List Char → List Char → Int → Prop where
  | positional {whole fraction : List Char} (hne : whole ≠ []) (hw : AllDigits whole)
    (hf : AllDigits fraction) : Spells (whole ++ '.' :: fraction) whole fraction 0
  | mark {whole : List Char} (hne : whole ≠ []) (hw : AllDigits whole) (zeros : Nat) (exponent : Int) :
    Spells (whole ++ exponentText zeros exponent) whole [] exponent
  | both {whole fraction : List Char} (hne : whole ≠ []) (hw : AllDigits whole)
    (hf : AllDigits fraction) (zeros : Nat) (exponent : Int) :
    Spells (whole ++ '.' :: (fraction ++ exponentText zeros exponent)) whole fraction exponent

variable {s whole fraction : List Char} {exponent : Int}

/-- A sign is missed before anything but a sign. -/
theorem takeSign_eq_self (h : ∀ c ∈ s.head?, c ≠ '+' ∧ c ≠ '-') : takeSign s = (false, s) := by
  unfold takeSign
  split
  · exact absurd rfl (h '+' rfl).1
  · exact absurd rfl (h '-' rfl).2
  · rfl

theorem readExponent?_exponentText (zeros : Nat) (exponent : Int) :
    readExponent? (exponentText zeros exponent) = some exponent := by
  have hdigits : AllDigits (List.replicate zeros '0' ++ ofNat exponent.natAbs) :=
    (allDigits_zeros zeros).append (allDigits_ofNat _)
  have hne : List.replicate zeros '0' ++ ofNat exponent.natAbs ≠ [] := by
    simp [ofNat_ne_nil]
  have hall : (List.replicate zeros '0' ++ ofNat exponent.natAbs).all Char.isDigit = true :=
    List.all_eq_true.2 hdigits
  have hvalue : toNat (List.replicate zeros '0' ++ ofNat exponent.natAbs) = exponent.natAbs := by
    rw [toNat_zeros_append, toNat_ofNat]
  unfold exponentText
  by_cases hneg : exponent < 0
  · rw [if_pos hneg]
    simp only [readExponent?, takeSign, true_or, if_true]
    rw [if_pos ⟨hne, hall⟩, hvalue, Option.some.injEq]
    omega
  · rw [if_neg hneg]
    simp only [readExponent?, takeSign, true_or, if_true, Bool.false_eq_true, if_false]
    rw [if_pos ⟨hne, hall⟩, hvalue, Option.some.injEq]
    omega

/-- The reader takes a spelling apart. -/
theorem Spells.read (h : Spells s whole fraction exponent) (negative : Bool) :
    readUnsigned? negative s = some ⟨negative, whole, fraction, exponent⟩ := by
  have hpoint : ∀ r : List Char, ∀ c ∈ ('.' :: r).head?, c.isDigit = false := by
    intro r c hc
    cases hc
    rfl
  have hmark : ∀ zeros e, ∀ c ∈ (exponentText zeros e).head?, c.isDigit = false := by
    intro zeros e c hc
    cases hc
    rfl
  cases h with
  | positional hne hw hf =>
    unfold readUnsigned?
    rw [Text.takeWhile_run hw (hpoint _), Text.dropWhile_run hw (hpoint _)]
    simp only
    have hend : ∀ c ∈ ([] : List Char).head?, c.isDigit = false := by simp
    have htake := Text.takeWhile_run hf hend
    have hdrop := Text.dropWhile_run hf hend
    rw [List.append_nil] at htake hdrop
    rw [if_neg fun hc => hne hc.1, htake, hdrop]
    rfl
  | mark hne hw zeros =>
    unfold readUnsigned?
    rw [Text.takeWhile_run hw (hmark zeros exponent), Text.dropWhile_run hw (hmark zeros exponent)]
    show (if whole = [] ∧ ([] : List Char) = [] then none
      else (readExponent? (exponentText zeros exponent)).map (Numeral.mk negative whole [])) = _
    rw [if_neg fun hc => hne hc.1, readExponent?_exponentText]
    rfl
  | both hne hw hf zeros =>
    unfold readUnsigned?
    rw [Text.takeWhile_run hw (hpoint _), Text.dropWhile_run hw (hpoint _)]
    simp only
    rw [if_neg fun hc => hne hc.1, Text.takeWhile_run hf (hmark zeros exponent),
      Text.dropWhile_run hf (hmark zeros exponent), readExponent?_exponentText]
    rfl

/-- A spelling begins with a digit. -/
theorem Spells.head (h : Spells s whole fraction exponent) : ∃ c r, s = c :: r ∧ c.isDigit = true := by
  have first : ∀ r, whole ≠ [] → AllDigits whole → ∃ c t, whole ++ r = c :: t ∧ c.isDigit = true := by
    intro r hne hw
    obtain ⟨c, t, rfl⟩ := List.exists_cons_of_ne_nil hne
    exact ⟨c, t ++ r, rfl, hw c (by simp)⟩
  cases h with
  | positional hne hw hf => exact first _ hne hw
  | mark hne hw zeros => exact first _ hne hw
  | both hne hw hf zeros => exact first _ hne hw

/-- A spelling is no integer numeral, for its point or its mark. -/
theorem Spells.exists_not_isDigit (h : Spells s whole fraction exponent) : ∃ c ∈ s, c.isDigit = false := by
  cases h with
  | positional hne hw hf => exact ⟨'.', by simp, rfl⟩
  | mark hne hw zeros => exact ⟨'e', by simp [exponentText], rfl⟩
  | both hne hw hf zeros => exact ⟨'.', by simp, rfl⟩

/-- A character of a spelling. -/
def IsSpellingChar (c : Char) : Prop := c.isDigit = true ∨ c = '.' ∨ c = 'e' ∨ c = '+' ∨ c = '-'

theorem isSpellingChar_of_mem_exponentText {zeros : Nat} {e : Int} {c : Char}
    (h : c ∈ exponentText zeros e) : IsSpellingChar c := by
  unfold exponentText at h
  rcases List.mem_cons.1 h with rfl | h
  · exact .inr (.inr (.inl rfl))
  · rcases List.mem_cons.1 h with rfl | h
    · split
      · exact .inr (.inr (.inr (.inr rfl)))
      · exact .inr (.inr (.inr (.inl rfl)))
    · exact .inl ((allDigits_zeros zeros).append (allDigits_ofNat _) c h)

theorem Spells.isSpellingChar (h : Spells s whole fraction exponent) : ∀ c ∈ s, IsSpellingChar c := by
  intro c hc
  cases h with
  | positional hne hw hf =>
    rcases List.mem_append.1 hc with hc | hc
    · exact .inl (hw c hc)
    · rcases List.mem_cons.1 hc with rfl | hc
      · exact .inr (.inl rfl)
      · exact .inl (hf c hc)
  | mark hne hw zeros =>
    rcases List.mem_append.1 hc with hc | hc
    · exact .inl (hw c hc)
    · exact isSpellingChar_of_mem_exponentText hc
  | both hne hw hf zeros =>
    rcases List.mem_append.1 hc with hc | hc
    · exact .inl (hw c hc)
    · rcases List.mem_cons.1 hc with rfl | hc
      · exact .inr (.inl rfl)
      · rcases List.mem_append.1 hc with hc | hc
        · exact .inl (hf c hc)
        · exact isSpellingChar_of_mem_exponentText hc

/-! ## The text of a decimal -/

/-- Every layout of some digits is a spelling of the same decimal. -/
theorem exists_spells_layout {ds : List Char} (hne : ds ≠ []) (hd : AllDigits ds) (hpos : toNat ds ≠ 0)
    (point : Int) : ∃ whole fraction exponent, Spells (Scaled.layout ds point) whole fraction exponent ∧
      Scaled.reduce ⟨toNat (whole ++ fraction), exponent - fraction.length⟩
        = Scaled.reduce ⟨toNat ds, point - ds.length⟩ := by
  have hlength : 0 < ds.length := List.length_pos_iff.2 hne
  unfold Scaled.layout
  split
  · split
    · -- the point stands before all digits
      next hbefore =>
      have hf := (allDigits_zeros (-point).toNat).append hd
      refine ⟨['0'], List.replicate (-point).toNat '0' ++ ds, 0,
        .positional (by simp) (allDigits_zeros 1) hf, ?_⟩
      have hvalue := toNat_zeros_append ((-point).toNat + 1) ds
      rw [List.replicate_succ, List.cons_append] at hvalue
      rw [List.singleton_append, hvalue, List.length_append, List.length_replicate]
      congr 2
      omega
    · split
      · -- the point stands behind all digits
        next hafter =>
        refine ⟨ds ++ List.replicate (point.toNat - ds.length) '0', ['0'], 0,
          .positional (by simp [hne]) (hd.append (allDigits_zeros _)) (allDigits_zeros 1), ?_⟩
        have hzeros : List.replicate (point.toNat - ds.length) '0' ++ ['0']
            = List.replicate (point.toNat - ds.length + 1) '0' := List.replicate_succ'.symm
        rw [List.append_assoc, hzeros, toNat_append_zeros, Scaled.reduce_mul_pow hpos]
        congr 2
        simp only [List.length_singleton]
        omega
      · -- the point stands among the digits
        next hbefore hafter =>
        have htake : ds.take point.toNat ≠ [] := by
          rw [ne_eq, List.take_eq_nil_iff]
          rintro (h | h)
          · omega
          · exact hne h
        refine ⟨ds.take point.toNat, ds.drop point.toNat, 0,
          .positional htake (fun c hc => hd c (List.mem_of_mem_take hc))
            (fun c hc => hd c (List.mem_of_mem_drop hc)), ?_⟩
        rw [List.take_append_drop, List.length_drop]
        congr 2
        omega
  · -- one digit stands before the point, and the rest is left to the exponent
    obtain ⟨d, others, rfl⟩ := List.exists_cons_of_ne_nil hne
    have hone : AllDigits [d] := fun c hc => hd c (by simp_all)
    have hothers : AllDigits others := fun c hc => hd c (List.mem_cons_of_mem d hc)
    refine ⟨[d], others, point - 1, ?_, ?_⟩
    · cases others with
      | nil => exact .mark (by simp) hone _ _
      | cons x others =>
        have htext := Spells.both (by simp) hone hothers (2 - (ofNat (point - 1).natAbs).length) (point - 1)
        simpa [exponentText] using htext
    · congr 2
      simp only [List.length_cons]
      push_cast
      omega

/-! ## The text of a number -/

theorem ofScaled_zero (negative : Bool) (exponent : Int) :
    ofScaled negative ⟨0, exponent⟩ = zero negative := by
  rw [ofScaled, Scaled.reduce_of_no_zeros (by simp), ofReduced, if_pos rfl]

/-- A decimal that reads back as a number with a sign. -/
theorem ofScaled_of_readsBack {u : Nat} {d : Scaled} (h : readsBack u d = true) (negative : Bool)
    (hu : Representable u) : ofScaled negative d = finite negative u hu := by
  obtain ⟨_, _, hd⟩ := readsBack_iff.1 h
  rw [ofScaled_withSign false negative, hd, withSign]

theorem digits_ne_zero_of_readsBack {u : Nat} {d : Scaled} (h : readsBack u d = true) (hpos : 0 < u) :
    d.digits ≠ 0 := by
  intro hzero
  obtain ⟨digits, e⟩ := d
  cases hzero
  obtain ⟨_, _, hd⟩ := readsBack_iff.1 h
  rw [ofScaled_zero, zero] at hd
  cases hd
  exact Nat.lt_irrefl 0 hpos

/-- A decimal that reads back as a number has a spelling that does. -/
theorem exists_spells_of_readsBack {u : Nat} {d : Scaled} (h : readsBack u d = true) (hpos : 0 < u)
    (negative : Bool) (hu : Representable u) : ∃ whole fraction exponent,
      Spells d.text whole fraction exponent ∧
      ofScaled negative ⟨toNat (whole ++ fraction), exponent - fraction.length⟩
        = finite negative u hu := by
  have hdigits : toNat (ofNat d.digits) ≠ 0 := by
    rw [toNat_ofNat]
    exact digits_ne_zero_of_readsBack h hpos
  obtain ⟨whole, fraction, exponent, hspells, hvalue⟩ :=
    exists_spells_layout (ofNat_ne_nil _) (allDigits_ofNat d.digits) hdigits
      ((ofNat d.digits).length + d.exponent)
  refine ⟨whole, fraction, exponent, hspells, ?_⟩
  have hshift : ((ofNat d.digits).length + d.exponent : Int) - (ofNat d.digits).length = d.exponent := by
    omega
  rw [ofScaled, hvalue, toNat_ofNat, hshift]
  exact ofScaled_of_readsBack h negative hu

/-- **The text of a finite number is its sign and a spelling of it.** -/
theorem exists_spells_text (negative : Bool) {u : Nat} (hu : Representable u) :
    ∃ body whole fraction exponent,
      (finite negative u hu).text = (if negative then ['-'] else []) ++ body ∧
      Spells body whole fraction exponent ∧
      ofScaled negative ⟨toNat (whole ++ fraction), exponent - fraction.length⟩
        = finite negative u hu := by
  rcases Nat.eq_zero_or_pos u with rfl | hpos
  · have hzero := allDigits_zeros 1
    refine ⟨['0', '.', '0'], ['0'], ['0'], 0, ?_, .positional (by simp) hzero hzero, ?_⟩
    · rw [text, if_pos rfl]
    · exact ofScaled_zero negative _
  · obtain ⟨whole, fraction, exponent, hspells, hvalue⟩ :=
      exists_spells_of_readsBack (readsBack_shortest hu hpos) hpos negative hu
    refine ⟨(shortest u).text, whole, fraction, exponent, ?_, hspells, hvalue⟩
    rw [text, if_neg (Nat.ne_of_gt hpos)]

/-- A number has a text, and only characters of spellings stand in it. -/
theorem exists_cons_text (negative : Bool) {u : Nat} (hu : Representable u) :
    ∃ c r, (finite negative u hu).text = c :: r ∧ ∀ x ∈ c :: r, IsSpellingChar x := by
  obtain ⟨body, _, _, _, htext, hspells, _⟩ := exists_spells_text negative hu
  rw [htext]
  cases negative with
  | true =>
    refine ⟨'-', body, rfl, fun x hx => ?_⟩
    rcases List.mem_cons.1 hx with rfl | hx
    · exact .inr (.inr (.inr (.inr rfl)))
    · exact hspells.isSpellingChar x hx
  | false =>
    obtain ⟨c, r, rfl, _⟩ := hspells.head
    exact ⟨c, r, rfl, hspells.isSpellingChar⟩

/-- The sign of a number is taken off its text. -/
theorem takeSign_text {body : List Char} (h : Spells body whole fraction exponent) (negative : Bool) :
    takeSign ((if negative then ['-'] else []) ++ body) = (negative, body) := by
  cases negative with
  | true => rfl
  | false =>
    obtain ⟨c, r, rfl, hc⟩ := h.head
    refine takeSign_eq_self fun x hx => ?_
    cases hx
    constructor
    · rintro rfl
      cases hc
    · rintro rfl
      cases hc

/-- **A finite number reads back from its text**, whatever the names of the infinities and of the number that
is none, as long as no name begins with a digit. -/
theorem read?_text (infinity none : List Char → Bool)
    (hnames : ∀ c r, c.isDigit = true → infinity (c :: r) = false ∧ none (c :: r) = false)
    (negative : Bool) {u : Nat} (hu : Representable u) :
    read? infinity none (finite negative u hu).text = some (finite negative u hu) := by
  obtain ⟨body, whole, fraction, exponent, htext, hspells, hvalue⟩ := exists_spells_text negative hu
  obtain ⟨c, r, rfl, hc⟩ := hspells.head
  obtain ⟨hinfinity, hnone⟩ := hnames c r hc
  have hsign := takeSign_text hspells negative
  rw [htext, read?, hsign]
  simp only
  rw [if_neg (by simp [hinfinity]), if_neg (by simp [hnone]), Numeral.read?, hsign]
  simp only
  rw [hspells.read negative, Option.map_some, Numeral.value, hvalue]

/-! ## The text of an integer -/

/-- The sign of an integer is taken off its text. -/
theorem takeSign_ofInt (i : Int) : takeSign (Decimal.ofInt i) = (decide (i < 0), ofNat i.natAbs) := by
  unfold Decimal.ofInt
  split
  · next hneg => rw [takeSign, decide_eq_true hneg]
  · next hneg =>
    rw [decide_eq_false hneg]
    refine takeSign_eq_self fun c hc => ?_
    have hdigit := allDigits_ofNat i.natAbs c (List.mem_of_mem_head? hc)
    constructor
    · rintro rfl
      cases hdigit
    · rintro rfl
      cases hdigit

/-- An integer begins with a digit or a minus sign and goes on in digits. -/
theorem exists_cons_ofInt (i : Int) :
    ∃ c r, Decimal.ofInt i = c :: r ∧ (c.isDigit = true ∨ c = '-') ∧ AllDigits r := by
  unfold Decimal.ofInt
  split
  · exact ⟨'-', _, rfl, .inr rfl, allDigits_ofNat _⟩
  · obtain ⟨c, r, hcr⟩ := List.exists_cons_of_ne_nil (ofNat_ne_nil i.natAbs)
    have hdigits := allDigits_ofNat i.natAbs
    rw [hcr] at hdigits
    exact ⟨c, r, hcr, .inl (hdigits c (by simp)), fun x hx => hdigits x (by simp [hx])⟩

end Binary64

end LogAssay
