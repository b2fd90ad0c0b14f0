import LogAssay.Proofs.Metadata.Decoding

/-!
# When decoding fails

Decoding fails at integer numerals of too many digits and at nothing else: the first of them among the pairs of
the block is told, by its number of digits.

## Main statements

* `outcome_readPairs_eq_error_iff`: of the pairs of a block, the first one that cannot be read is told.
* `decode_fails_iff`: which texts decode, and what is told of the others.
-/

namespace LogAssay.Metadata

/-! ## Tokens -/

/-- A token that is an integer numeral of a number of digits that is not read. -/
def Token.IsExcessive (token : Token) (digits : Nat) : Prop :=
  ∃ text, token = .plain text ∧ isIntegerNumeral text = true ∧
    (Binary64.takeSign text).2.length = digits ∧ Decimal.maxDigits < digits

theorem length_takeSign_le (text : List Char) : (Binary64.takeSign text).2.length ≤ text.length := by
  unfold Binary64.takeSign
  split <;> simp

/-- A numeral of too many digits spells no truth value, for its length. -/
theorem lowered_ne_of_maxDigits_lt {text : List Char} (h : Decimal.maxDigits < (Binary64.takeSign text).2.length) :
    Text.lowered text ≠ "true".toList ∧ Text.lowered text ≠ "false".toList := by
  have hlength : Decimal.maxDigits < (Text.lowered text).length := by
    rw [Text.lowered, List.length_map]
    exact Nat.lt_of_lt_of_le h (length_takeSign_le text)
  constructor
  all_goals
    intro heq
    rw [heq] at hlength
    exact absurd hlength (by decide)

/-- A numeral of too many digits is refused, and its digits are told. -/
theorem readPlain_of_maxDigits_lt {text : List Char} (hnumeral : isIntegerNumeral text = true)
    (h : Decimal.maxDigits < (Binary64.takeSign text).2.length) :
    readPlain text = .error (.numeralLength (Binary64.takeSign text).2.length) := by
  obtain ⟨htrue, hfalse⟩ := lowered_ne_of_maxDigits_lt h
  rw [readPlain, if_neg htrue, if_neg hfalse, if_pos hnumeral]
  exact if_pos h

theorem Token.IsExcessive.read {token : Token} {digits : Nat} (h : token.IsExcessive digits) :
    readToken token = .error (.numeralLength digits) := by
  obtain ⟨text, rfl, hnumeral, rfl, hlong⟩ := h
  rw [readToken, readPlain_of_maxDigits_lt hnumeral hlong]
  rfl

/-- A token that is not readable is a numeral of too many digits. -/
theorem Token.exists_isExcessive {token : Token} (h : ¬token.IsReadable) :
    ∃ digits, token.IsExcessive digits := by
  simp only [Token.IsReadable, not_forall, Nat.not_le] at h
  obtain ⟨text, htoken, hnumeral, hlong⟩ := h
  exact ⟨_, text, htoken, hnumeral, rfl, hlong⟩

/-- A token that is read is readable. -/
theorem Token.isReadable_of_read {token : Token} {r : List Scalar × List Diagnostic}
    (h : readToken token = .ok r) : token.IsReadable := by
  by_contra hnot
  obtain ⟨digits, hdigits⟩ := Token.exists_isExcessive hnot
  rw [hdigits.read] at h
  cases h

/-! ## Pairs -/

/-- Some pairs are readable up to one that is a numeral of too many digits. -/
def BreaksAt (ps : List Pair) (digits : Nat) : Prop :=
  ∃ before p after, ps = before ++ p :: after ∧ (∀ q ∈ before, q.token.IsReadable) ∧
    p.token.IsExcessive digits

/-- Pairs are readable, or one of them is the first that is not. -/
theorem isReadable_or_breaksAt : ∀ ps : List Pair,
    (∀ p ∈ ps, p.token.IsReadable) ∨ ∃ digits, BreaksAt ps digits
  | [] => .inl fun _ h => absurd h List.not_mem_nil
  | p :: ps => by
    by_cases hp : p.token.IsReadable
    · rcases isReadable_or_breaksAt ps with h | ⟨digits, before, q, after, rfl, hbefore, hq⟩
      · exact .inl fun q hq => by
          rcases List.mem_cons.1 hq with rfl | hq
          · exact hp
          · exact h q hq
      · refine .inr ⟨digits, p :: before, q, after, rfl, fun x hx => ?_, hq⟩
        rcases List.mem_cons.1 hx with rfl | hx
        · exact hp
        · exact hbefore x hx
    · obtain ⟨digits, hdigits⟩ := Token.exists_isExcessive hp
      exact .inr ⟨digits, [], p, ps, rfl, fun _ h => absurd h List.not_mem_nil, hdigits⟩

/-- A numeral of too many digits ends the reading. -/
theorem BreaksAt.outcome {ps : List Pair} {digits : Nat} (h : BreaksAt ps digits) (m : Metadata) :
    (readPairs m ps).outcome = .error (.numeralLength digits) := by
  obtain ⟨before, p, after, rfl, hbefore, hp⟩ := h
  induction before generalizing m with
  | nil => rw [List.nil_append, readPairs, hp.read]
  | cons q before ih =>
    obtain ⟨reports, hread, -⟩ := (hbefore q (by simp)).read
    rw [List.cons_append, readPairs, hread]
    exact ih _ fun x hx => hbefore x (by simp [hx])

/-- **Of the pairs of a block, the first one that cannot be read is told**, and nothing else is. -/
theorem outcome_readPairs_eq_error_iff {m : Metadata} {ps : List Pair} {fault : Fault} :
    (readPairs m ps).outcome = .error fault ↔
      ∃ digits, BreaksAt ps digits ∧ fault = .numeralLength digits := by
  constructor
  · intro h
    rcases isReadable_or_breaksAt ps with hread | ⟨digits, hbreaks⟩
    · rw [outcome_readPairs hread] at h
      cases h
    · rw [hbreaks.outcome] at h
      exact ⟨digits, hbreaks, (Except.error.inj h).symm⟩
  · rintro ⟨digits, hbreaks, rfl⟩
    exact hbreaks.outcome m

/-! ## Texts -/

/-- A text with a block decodes to the message in front of the block and to what its pairs are read as. -/
theorem decode_of_splitsFirst {s : String} {m : List Char} {ps : List Pair}
    (h : SplitsFirst s.toList m ps) :
    decode s = (readPairs [] ps).andThen fun md => .ok ⟨String.ofList m, md⟩ := by
  obtain ⟨separator, block, -, hblock, -⟩ := h.1
  rw [decode, split?_eq_some_iff.2 ⟨ps, h, rfl⟩]
  simp only
  rw [scan_inside hblock.wellFormed]

/-- A text without a block is left alone. -/
theorem decode_of_not_splits {s : String} (h : ∀ m ps, ¬Splits s.toList m ps) :
    decode s = ⟨[], .ok ⟨s, []⟩⟩ := by
  rw [decode, split?_eq_none_iff.2 h]

/-- A text has a block behind a shortest message, or no block at all. -/
theorem splitsFirst_or_not_splits (s : List Char) :
    (∃ m ps, SplitsFirst s m ps) ∨ ∀ m ps, ¬Splits s m ps := by
  cases hsplit : split? s with
  | none => exact .inr (split?_eq_none_iff.1 hsplit)
  | some found =>
    obtain ⟨ps, hfirst, -⟩ := split?_eq_some_iff.1 hsplit
    exact .inl ⟨_, ps, hfirst⟩

/-- A readable block is gathered. -/
theorem outcome_decode_of_isReadable {s : String} {m : List Char} {ps : List Pair}
    (h : SplitsFirst s.toList m ps) (hread : ∀ p ∈ ps, p.token.IsReadable) :
    (decode s).outcome = .ok ⟨String.ofList m, gather [] ps⟩ := by
  rw [decode_of_splitsFirst h, Reported.andThen, outcome_readPairs hread]
  rfl

/-- What decodes although it has a block has a readable one, which was gathered. -/
theorem SplitsFirst.decoded {s : String} {m : List Char} {ps : List Pair} {d : Decoded}
    (h : SplitsFirst s.toList m ps) (decoded : (decode s).outcome = .ok d) :
    (∀ p ∈ ps, p.token.IsReadable) ∧ d = ⟨String.ofList m, gather [] ps⟩ := by
  rcases isReadable_or_breaksAt ps with hread | ⟨digits, hbreaks⟩
  · rw [outcome_decode_of_isReadable h hread] at decoded
    exact ⟨hread, (Except.ok.inj decoded).symm⟩
  · rw [decode_of_splitsFirst h, Reported.andThen, hbreaks.outcome] at decoded
    cases decoded

/-- What decoding makes of a text tells its block: one that is readable and was gathered. -/
theorem exists_splitsFirst_of_outcome {s : String} {d : Decoded} (h : (decode s).outcome = .ok d)
    (hblock : d.metadata ≠ []) : ∃ m ps, SplitsFirst s.toList m ps ∧
      (∀ p ∈ ps, p.token.IsReadable) ∧ d = ⟨String.ofList m, gather [] ps⟩ := by
  rcases splitsFirst_or_not_splits s.toList with ⟨m, ps, hfirst⟩ | hnone
  · exact ⟨m, ps, hfirst, hfirst.decoded h⟩
  · rw [decode_of_not_splits hnone] at h
    cases h
    exact absurd rfl hblock

/-- **Decoding fails at integer numerals of too many digits and at nothing else**: a text decodes exactly if its
block has none, and of a text that does not decode the digits of the first one are told. -/
theorem decode_fails_iff (s : String) :
    ((∃ d, (decode s).outcome = .ok d) ↔
      ∀ m ps, SplitsFirst s.toList m ps → ∀ p ∈ ps, p.token.IsReadable) ∧
    ∀ fault, (decode s).outcome = .error fault ↔
      ∃ m ps digits, SplitsFirst s.toList m ps ∧ BreaksAt ps digits ∧ fault = .numeralLength digits := by
  rcases splitsFirst_or_not_splits s.toList with ⟨m, ps, hfirst⟩ | hnone
  · -- the block is unique, so that all that is said of a first block is said of this one
    have hunique : ∀ m' qs, SplitsFirst s.toList m' qs → qs = ps := fun m' qs h => (h.unique hfirst).2
    have herror : ∀ fault, (decode s).outcome = .error fault ↔
        ∃ digits, BreaksAt ps digits ∧ fault = .numeralLength digits := by
      intro fault
      rw [← outcome_readPairs_eq_error_iff (m := []), decode_of_splitsFirst hfirst, Reported.andThen]
      cases (readPairs [] ps).outcome <;> simp [bind, Except.bind]
    refine ⟨⟨?_, fun h => ?_⟩, fun fault => (herror fault).trans ⟨?_, ?_⟩⟩
    · rintro ⟨d, hd⟩ m' qs h
      rw [hunique m' qs h]
      rcases isReadable_or_breaksAt ps with hread | ⟨digits, hbreaks⟩
      · exact hread
      · rw [(herror _).2 ⟨digits, hbreaks, rfl⟩] at hd
        cases hd
    · exact ⟨_, outcome_decode_of_isReadable hfirst (h m ps hfirst)⟩
    · rintro ⟨digits, hbreaks, rfl⟩
      exact ⟨m, ps, digits, hfirst, hbreaks, rfl⟩
    · rintro ⟨m', qs, digits, h, hbreaks, rfl⟩
      exact ⟨digits, hunique m' qs h ▸ hbreaks, rfl⟩
  · rw [decode_of_not_splits hnone]
    refine ⟨⟨fun _ m ps h => absurd h.1 (hnone m ps), fun _ => ⟨_, rfl⟩⟩, fun fault => ⟨?_, ?_⟩⟩
    · intro h
      cases h
    · rintro ⟨m, ps, -, h, -⟩
      exact absurd h.1 (hnone m ps)

/-- A numeral of ones, alone in its block, is told if it is too long. -/
theorem outcome_decode_ones {n : Nat} (hlong : Decimal.maxDigits < n) :
    (decode ("[CONTEXT k=" ++ String.ofList (List.replicate n '1') ++ " ]")).outcome
      = .error (.numeralLength n) := by
  obtain ⟨k, rfl⟩ := Nat.exists_eq_succ_of_ne_zero (Nat.ne_of_gt (Nat.zero_lt_of_lt hlong))
  have htoken : (Token.plain (List.replicate (k + 1) '1')).WellFormed := by
    refine ⟨'1', List.replicate k '1', List.replicate_succ, by decide, fun c hc => ?_⟩
    rw [List.eq_of_mem_replicate hc]
    decide
  have hexcessive : (Token.plain (List.replicate (k + 1) '1')).IsExcessive (k + 1) := by
    have hsign : Binary64.takeSign (List.replicate (k + 1) '1') = (false, List.replicate (k + 1) '1') := rfl
    refine ⟨_, rfl, ?_, by rw [hsign, List.length_replicate], hlong⟩
    rw [isIntegerNumeral, hsign]
    simp
  have htext : ("[CONTEXT k=" ++ String.ofList (List.replicate (k + 1) '1') ++ " ]").toList
      = opening ++ inside [⟨['k'], .plain (List.replicate (k + 1) '1')⟩] ++ [']'] := by
    rw [String.toList_append, String.toList_append, String.toList_ofList]
    simp [inside_cons, Pair.text, Token.text, opening]
  have hblock : IsBlock (opening ++ inside [⟨['k'], .plain (List.replicate (k + 1) '1')⟩] ++ [']'])
      [⟨['k'], .plain (List.replicate (k + 1) '1')⟩] := by
    refine ⟨by simp, ?_, rfl⟩
    simp only [List.mem_singleton, forall_eq]
    exact ⟨by simp, by simp [Text.isBlank], htoken⟩
  have hfirst : SplitsFirst ("[CONTEXT k=" ++ String.ofList (List.replicate (k + 1) '1') ++ " ]").toList []
      [⟨['k'], .plain (List.replicate (k + 1) '1')⟩] :=
    ⟨⟨[], _, .start, hblock, htext⟩, fun _ _ _ => Nat.zero_le _⟩
  have hbreaks : BreaksAt [⟨['k'], .plain (List.replicate (k + 1) '1')⟩] (k + 1) :=
    ⟨[], _, [], rfl, by simp, hexcessive⟩
  rw [decode_of_splitsFirst hfirst, Reported.andThen, hbreaks.outcome]
  rfl

/-- Decoding fails at a numeral of one digit too many. -/
theorem not_decode_ones : ¬∃ d,
    (decode ("[CONTEXT k=" ++ String.ofList (List.replicate 4301 '1') ++ " ]")).outcome = .ok d := by
  rintro ⟨d, hd⟩
  rw [outcome_decode_ones (by decide)] at hd
  cases hd

end LogAssay.Metadata
