import LogAssay.Metadata.Decode
import LogAssay.Proofs.Metadata.Grammar
import Mathlib.Data.List.Induction

/-!
# Decoding by the grammar

Decoding takes off the block that the grammar finds and gathers its pairs. What is gathered is described pair by
pair: the keys in the order in which they come first, and under each key the values of all its pairs. The one
thing that prevents decoding is an integer numeral that is too long to be read.
-/

namespace LogAssay.Metadata

/-! ## Values of tokens -/

/-- A token that is no integer numeral of too many digits. -/
def Token.IsReadable (token : Token) : Prop :=
  ∀ text, token = .plain text → isIntegerNumeral text = true →
    (Binary64.takeSign text).2.length ≤ Decimal.maxDigits

/-- The values that a token adds to its key. -/
def Token.values (token : Token) : List Scalar :=
  match readToken token with
  | .ok (values, _) => values
  | .error _ => []

/-- Reading an unquoted value fails at an integer numeral of too many digits only. -/
theorem readPlain_eq_ok {text : List Char} (h : (Token.plain text).IsReadable) :
    ∃ value, readPlain text = .ok value := by
  unfold readPlain
  split
  · exact ⟨_, rfl⟩
  · split
    · exact ⟨_, rfl⟩
    · split
      · next hnumeral =>
        simp only
        rw [if_neg (Nat.not_lt.2 (h text rfl hnumeral))]
        split <;> exact ⟨_, rfl⟩
      · exact ⟨_, rfl⟩

/-- A readable token is read. A bare one has no value, and any other token has one. -/
theorem Token.IsReadable.read {token : Token} (h : token.IsReadable) :
    ∃ reports, readToken token = .ok (token.values, reports) ∧
      token.values.length = if token = .bare then 0 else 1 := by
  cases token with
  | bare => exact ⟨_, rfl, rfl⟩
  | quoted body => exact ⟨_, rfl, rfl⟩
  | plain text =>
    obtain ⟨value, hvalue⟩ := readPlain_eq_ok h
    cases value with
    | none =>
      have hread : readToken (.plain text)
          = .ok ([.text (String.ofList text)], [.keptLiteral (String.ofList text)]) := by
        rw [readToken, hvalue]; rfl
      exact ⟨_, by rw [Token.values, hread], by rw [Token.values, hread]; rfl⟩
    | some v =>
      have hread : readToken (.plain text) = .ok ([v], []) := by
        rw [readToken, hvalue]; rfl
      exact ⟨_, by rw [Token.values, hread], by rw [Token.values, hread]; rfl⟩

theorem Pair.length_text_le_inside {p : Pair} : ∀ {ps : List Pair}, p ∈ ps →
    p.text.length ≤ (inside ps).length
  | q :: ps, h => by
    rw [inside_cons, List.length_append, List.length_cons]
    rcases List.mem_cons.1 h with rfl | h
    · omega
    · have := Pair.length_text_le_inside h
      omega

/-- A text of no more characters than an integer may have digits is readable throughout. -/
theorem Splits.isReadable {s message : List Char} {ps : List Pair} (h : Splits s message ps)
    (hs : s.length ≤ Decimal.maxDigits) : ∀ p ∈ ps, p.token.IsReadable := by
  intro p hp text htoken _
  obtain ⟨separator, block, _, hblock, rfl⟩ := h
  have hpair := Pair.length_text_le_inside hp
  rw [Pair.text, htoken, Token.text] at hpair
  rw [hblock.text] at hs
  have hsign : (Binary64.takeSign text).2.length ≤ text.length := by
    unfold Binary64.takeSign
    split <;> simp
  simp only [List.length_append, List.length_cons] at hpair hs
  omega

/-! ## Gathering pairs -/

/-- The key of a pair as text. -/
def Pair.name (p : Pair) : String := String.ofList p.key

/-- The metadata of some pairs, added one by one to what is there. -/
def gather (m : Metadata) (ps : List Pair) : Metadata :=
  ps.foldl (fun m p => m.add p.name p.token.values) m

theorem gather_concat (m : Metadata) (ps : List Pair) (p : Pair) :
    gather m (ps ++ [p]) = (gather m ps).add p.name p.token.values := by
  simp [gather]

/-- Readable pairs are gathered. -/
theorem outcome_readPairs : ∀ {ps : List Pair} {m : Metadata}, (∀ p ∈ ps, p.token.IsReadable) →
    (readPairs m ps).outcome = .ok (gather m ps)
  | [], _, _ => rfl
  | p :: ps, m, h => by
    obtain ⟨reports, hread, _⟩ := (h p (by simp)).read
    rw [readPairs, hread]
    simp only
    rw [show String.ofList p.key = p.name from rfl,
      outcome_readPairs fun q hq => h q (by simp [hq])]
    rfl

/-- A new key comes last, and a known one keeps its place. -/
theorem keys_add (m : Metadata) (key : String) (more : List Scalar) :
    (m.add key more).keys = if key ∈ m.keys then m.keys else m.keys ++ [key] := by
  induction m with
  | nil => simp [add, keys]
  | cons e others ih =>
    obtain ⟨k, vs⟩ := e
    by_cases h : k = key
    · simp [add, keys, h]
    · rw [add, if_neg h]
      show k :: (add others key more).keys = _
      rw [ih]
      have hmem : key ∈ keys ((k, vs) :: others) ↔ key ∈ keys others := by
        simp [keys, Ne.symm h]
      by_cases hin : key ∈ keys others
      · rw [if_pos hin, if_pos (hmem.2 hin)]; rfl
      · rw [if_neg hin, if_neg (fun hc => hin (hmem.1 hc))]; rfl

theorem eraseDups_concat (names : List String) (name : String) :
    (names ++ [name]).eraseDups
      = if name ∈ names.eraseDups then names.eraseDups else names.eraseDups ++ [name] := by
  rw [List.eraseDups_append]
  by_cases h : name ∈ names
  · rw [if_pos (List.mem_eraseDups.2 h)]
    simp [List.removeAll, h]
  · rw [if_neg (fun hc => h (List.mem_eraseDups.1 hc))]
    simp [List.removeAll, h, List.eraseDups_cons]

/-- **Gathered keys stand in the order of their first occurrence.** -/
theorem keys_gather (ps : List Pair) : (gather [] ps).keys = (ps.map Pair.name).eraseDups := by
  induction ps using List.reverseRecOn with
  | nil => rfl
  | append_singleton ps p ih =>
    rw [gather_concat, keys_add, ih, List.map_append, List.map_singleton, eraseDups_concat]

/-- **Gathered values stand under their key in the order of their pairs.** -/
theorem values_gather (ps : List Pair) (key : String) :
    (gather [] ps).values key = (ps.filter (·.name = key)).flatMap (·.token.values) := by
  induction ps using List.reverseRecOn with
  | nil => rfl
  | append_singleton ps p ih =>
    rw [gather_concat, List.filter_append, List.flatMap_append, ← ih]
    by_cases h : p.name = key
    · subst h
      rw [values_add_self]
      simp
    · rw [values_add_of_ne _ _ (Ne.symm h)]
      simp [h]

theorem gather_ne_nil {ps : List Pair} (h : ps ≠ []) : gather [] ps ≠ [] := by
  intro hnil
  obtain ⟨p, qs, rfl⟩ := List.exists_cons_of_ne_nil h
  have hkeys := keys_gather (p :: qs)
  rw [hnil] at hkeys
  simp [keys, List.eraseDups_cons] at hkeys

/-! ## Decoding -/

/-- What decoding reads off a message and the pairs behind it. -/
structure Decoded.IsOf (d : Decoded) (message : List Char) (ps : List Pair) : Prop where
  message : d.message = String.ofList message
  metadata : d.metadata = gather [] ps
  keys : d.metadata.keys = (ps.map Pair.name).eraseDups
  values : ∀ key, d.metadata.values key = (ps.filter (·.name = key)).flatMap (·.token.values)
  counts : ∀ p ∈ ps, p.token.values.length = if p.token = .bare then 0 else 1

/-- What decoding makes of a text by the grammar. -/
structure Decoded.Follows (d : Decoded) (s : String) : Prop where
  /-- A block is recognised exactly if the grammar has one. -/
  found : d.metadata ≠ [] ↔ ∃ m ps, Splits s.toList m ps
  /-- The block behind the shortest message counts, its pairs are unique, and the scan finds them. -/
  block : d.metadata ≠ [] → ∃ m ps, SplitsFirst s.toList m ps ∧
    (∀ qs, Splits s.toList m qs → qs = ps) ∧ scan (inside ps) = ps ∧ d.IsOf m ps
  /-- Without a block the text is left alone. -/
  unfound : d.metadata = [] → d.message = s

/-- **Decoding follows the grammar**, on every text whose first block holds no integer numeral that is too long
to be read. -/
theorem decode_follows_grammar (s : String)
    (short : ∀ m ps, SplitsFirst s.toList m ps → ∀ p ∈ ps, p.token.IsReadable) :
    ∃ d, (decode s).outcome = .ok d ∧ d.Follows s := by
  cases hsplit : split? s.toList with
  | none =>
    have hnone := split?_eq_none_iff.1 hsplit
    refine ⟨⟨s, []⟩, by rw [decode, hsplit], ?_, fun h => absurd rfl h, fun _ => rfl⟩
    exact ⟨fun h => absurd rfl h, fun ⟨m, ps, h⟩ => absurd h (hnone m ps)⟩
  | some found =>
    obtain ⟨m, body⟩ := found
    obtain ⟨ps, hfirst, rfl⟩ := split?_eq_some_iff.1 hsplit
    obtain ⟨separator, block, _, hblock, _⟩ := hfirst.1
    have hscan : scan (inside ps) = ps := scan_inside hblock.wellFormed
    have hread := short m ps hfirst
    have hne : gather [] ps ≠ [] := gather_ne_nil hblock.pairs_ne_nil
    refine ⟨⟨String.ofList m, gather [] ps⟩, ?_, ?_, ?_, fun h => absurd h hne⟩
    · rw [decode, hsplit]
      simp only [Reported.andThen]
      rw [hscan, outcome_readPairs hread]
      rfl
    · exact ⟨fun _ => ⟨m, ps, hfirst.1⟩, fun _ => hne⟩
    · intro _
      refine ⟨m, ps, hfirst, fun qs hq => hq.unique hfirst.1, hscan, rfl, rfl, keys_gather ps,
        values_gather ps, fun p hp => ?_⟩
      obtain ⟨_, _, hcount⟩ := (hread p hp).read
      exact hcount

/-- A key may look like the opening of a block, and a quoted value like its end. -/
theorem decode_follows_grammar_lookalikes :
    ∃ d, (decode "a\n[CONTEXT [CONTEXT k=\"x ]\" k=7 ]").outcome = .ok d ∧
      d.Follows "a\n[CONTEXT [CONTEXT k=\"x ]\" k=7 ]" ∧
      d = ⟨"a", [("[CONTEXT", []), ("k", [.text "x ]", .int 7])]⟩ := by
  obtain ⟨d, hd, hfollows⟩ := decode_follows_grammar "a\n[CONTEXT [CONTEXT k=\"x ]\" k=7 ]"
    fun m ps h => h.1.isReadable (by decide)
  refine ⟨d, hd, hfollows, ?_⟩
  have hrun : (decode "a\n[CONTEXT [CONTEXT k=\"x ]\" k=7 ]").outcome.toOption
      = some ⟨"a", [("[CONTEXT", []), ("k", [.text "x ]", .int 7])]⟩ := by decide +kernel
  rw [hd] at hrun
  exact Option.some.inj hrun

end LogAssay.Metadata
