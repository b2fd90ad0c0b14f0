import LogAssay.Proofs.Metadata.Joining

/-!
# Blocks on top of each other

Decoding takes one block off a text. If the message that is left ends in a block, decoding it once more takes off
another one. Behind a space this does not happen, because there the two blocks would have been one. Behind a line
feed it does, because no pair reaches over a line feed unless it is quoted.

## Main statement

* `decode_message_iff`: the message that is decoded from a text decodes to itself, unless the block of the text stands
  on a line of its own below another block.
-/

namespace LogAssay.Metadata

/-- A message ends in a block, and below it, on a line of its own, stands the block that ends the text. -/
def IsStacked (s message : List Char) : Prop :=
  ∃ m ps block qs, Splits message m ps ∧ IsBlock block qs ∧ s = message ++ '\n' :: block

/-- No block is found further ahead than the shortest message. -/
theorem SplitsFirst.not_splits_of_lt {s message m : List Char} {ps qs : List Pair} (h : SplitsFirst s message ps)
    (hlt : m.length < message.length) : ¬Splits s m qs :=
  fun hsplits => absurd (h.2 m qs hsplits) (Nat.not_le.2 hlt)

/-- A message is longer than what stands in front of its block. -/
theorem Splits.length_lt {s m : List Char} {ps : List Pair} (h : Splits s m ps) : m.length < s.length := by
  obtain ⟨separator, block, -, hblock, rfl⟩ := h
  obtain ⟨r, rfl⟩ := hblock.head
  simp only [List.length_append, List.length_cons]
  omega

/-- **What is in front of the first block ends in a block only if the two are stacked.** -/
theorem SplitsFirst.isStacked {s message m : List Char} {ps qs : List Pair} (h : SplitsFirst s message ps)
    (again : Splits message m qs) : IsStacked s message := by
  obtain ⟨separator, block, hsep, hblock, hs⟩ := h.1
  cases hsep with
  | start => exact absurd rfl again.ne_nil
  | newline => exact ⟨m, qs, block, ps, again, hblock, by rw [hs]; simp⟩
  | space =>
    -- the two blocks are one, which is found further ahead
    have hjoin := again.join hblock.wellFormed
    rw [written_of_ne_nil again.ne_nil, ← hblock.text] at hjoin
    rw [List.append_assoc, List.singleton_append] at hs
    rw [← hs] at hjoin
    exact absurd hjoin (h.not_splits_of_lt again.length_lt)

/-- A text decodes to itself, without a report, exactly if it ends in no block. -/
theorem decode_eq_self_iff {s : String} : decode s = ⟨[], .ok ⟨s, []⟩⟩ ↔ ∀ m ps, ¬Splits s.toList m ps := by
  refine ⟨fun hdecode m ps h => ?_, decode_of_not_splits⟩
  rcases splitsFirst_or_not_splits s.toList with ⟨m', qs, hfirst⟩ | hnone
  · have hd := (hfirst.decoded (congrArg Reported.outcome hdecode)).2
    obtain ⟨separator, block, -, hblock, -⟩ := hfirst.1
    exact gather_ne_nil hblock.pairs_ne_nil (congrArg Decoded.metadata hd).symm
  · exact hnone m ps h

/-- **A decoded message decodes to itself**, without metadata and without a report, unless it ends in a block and the
block that was taken off stands below it on a line of its own. Then the upper block is found, and is taken off as well
if it can be read. -/
theorem decode_message_iff (s : String) (d : Decoded) (decoded : (decode s).outcome = .ok d) :
    (decode d.message = ⟨[], .ok ⟨d.message, []⟩⟩ ↔ ¬IsStacked s.toList d.message.toList) ∧
    (IsStacked s.toList d.message.toList → ∃ m ps, SplitsFirst d.message.toList m ps ∧ m.length < d.message.length ∧
      ∀ d', (decode d.message).outcome = .ok d' → d' = ⟨String.ofList m, gather [] ps⟩) := by
  refine ⟨?_, ?_⟩
  · rw [decode_eq_self_iff]
    constructor
    · rintro hnone ⟨m, ps, -, -, hsplits, -, -⟩
      exact hnone m ps hsplits
    · intro hstacked m ps hsplits
      rcases splitsFirst_or_not_splits s.toList with ⟨message, qs, hfirst⟩ | hnone
      · obtain ⟨-, rfl⟩ := hfirst.decoded decoded
        rw [String.toList_ofList] at hsplits hstacked
        exact hstacked (hfirst.isStacked hsplits)
      · -- nothing was taken off
        rw [decode_of_not_splits hnone] at decoded
        cases decoded
        exact hnone m ps hsplits
  · rintro ⟨m, ps, -, -, hsplits, -, -⟩
    rcases splitsFirst_or_not_splits d.message.toList with ⟨m', qs, hfirst⟩ | hnone
    · refine ⟨m', qs, hfirst, ?_, fun d' hd' => (hfirst.decoded hd').2⟩
      rw [← String.length_toList]
      exact hfirst.1.length_lt
    · exact absurd hsplits (hnone m ps)

/-- A quoted value may hold a line feed and the opening of a block behind it. -/
theorem decode_message_iff_quoted :
    ∃ d, (decode "a [CONTEXT k=\"x ]\n[CONTEXT y\" ]").outcome = .ok d ∧
      d = ⟨"a", [("k", [.text "x ]\n[CONTEXT y"])]⟩ ∧ decode d.message = ⟨[], .ok ⟨d.message, []⟩⟩ := by
  have hdecode : (decode "a [CONTEXT k=\"x ]\n[CONTEXT y\" ]").outcome
      = .ok ⟨"a", [("k", [.text "x ]\n[CONTEXT y"])]⟩ := eq_ok_of_toOption (by decide +kernel)
  refine ⟨_, hdecode, rfl, (decode_message_iff _ _ hdecode).1.2 ?_⟩
  rintro ⟨m, ps, block, qs, -, -, heq⟩
  cases heq

/-- Of two blocks on lines of their own, the upper one is left in the message. -/
theorem not_decode_message_stacked :
    ¬∀ s d, (decode s).outcome = .ok d → (decode d.message).outcome = .ok ⟨d.message, []⟩ := by
  intro h
  have hdecode : (decode "a [CONTEXT x ]\n[CONTEXT y ]").outcome = .ok ⟨"a [CONTEXT x ]", [("y", [])]⟩ :=
    eq_ok_of_toOption (by decide +kernel)
  have hagain : (decode "a [CONTEXT x ]").outcome = .ok ⟨"a", [("x", [])]⟩ :=
    eq_ok_of_toOption (by decide +kernel)
  have hsame := (h _ _ hdecode).symm.trans hagain
  simp at hsame

end LogAssay.Metadata
