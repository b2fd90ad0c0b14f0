import LogAssay.Proofs.Metadata.Writing

/-!
# Decoded messages written again

What was decoded can be encoded again: its keys can be written, and its integers fit. Decoding then gives the
same message and the same metadata, however the values were spelled at first, with one exception. The
infinities and the number that is none are written as `inf`, `-inf` and `nan`, which are not among the names
that are read, so they come back as texts.

## Main statement

* `decode_reencoded`: what comes back, and exactly when it is the same.
-/

namespace LogAssay

namespace Scalar

/-- A scalar that is an infinity or the number that is none. -/
def isNonfinite : Scalar → Bool
  | .float (.finite ..) => false
  | .float _ => true
  | _ => false

/-- What a written scalar is read as. -/
def reread (s : Scalar) : Scalar := if s.isNonfinite then .text s.plain else s

/-- A scalar that is no integer beyond 64 bits. -/
def FitsWord : Scalar → Prop
  | .int i => -2 ^ 63 ≤ i ∧ i < 2 ^ 63
  | _ => True

theorem reread_of_finite {s : Scalar} (h : s.isNonfinite = false) : s.reread = s := by
  rw [reread, h]
  rfl

theorem reread_eq_self_iff {s : Scalar} : s.reread = s ↔ s.isNonfinite = false := by
  constructor
  · intro h
    cases hs : s.isNonfinite with
    | false => rfl
    | true =>
      -- a text is no floating-point number
      rw [reread, if_pos hs] at h
      rw [← h] at hs
      cases hs
  · exact reread_of_finite

theorem FitsWord.isWritable {s : Scalar} (h : s.FitsWord) : s.isWritable = true := by
  cases s with
  | int i => exact Decimal.isWritable_of_word h.1 h.2
  | bool | float | text => rfl

/-- A scalar that fits can be carried, unless it is an infinity or the number that is none. -/
theorem FitsWord.isStorable {s : Scalar} (h : s.FitsWord) (hs : s.isNonfinite = false) : s.IsStorable := by
  cases s with
  | bool b => exact .bool b
  | int i => exact .int h.1 h.2
  | text t => exact .text t
  | float x =>
    cases x with
    | finite negative units hu => exact .float negative hu
    | nan => cases hs
    | infinite negative => cases hs

end Scalar

namespace Metadata

/-! ## Tokens -/

/-- An infinity and the number that is none are written as tokens that are kept as they stand. -/
theorem readToken_of_isNonfinite {s : Scalar} (h : s.isNonfinite = true) :
    (tokenOf s).WellFormed ∧ readToken (tokenOf s) = .ok ([.text s.plain], [.keptLiteral s.plain]) := by
  cases s with
  | bool | int | text => cases h
  | float x =>
    cases x with
    | finite => cases h
    | nan => exact ⟨⟨'n', ['a', 'n'], rfl, by decide, by simp [Text.isBlank]⟩, rfl⟩
    | infinite negative =>
      cases negative with
      | true => exact ⟨⟨'-', ['i', 'n', 'f'], rfl, by decide, by simp [Text.isBlank]⟩, rfl⟩
      | false => exact ⟨⟨'i', ['n', 'f'], rfl, by decide, by simp [Text.isBlank]⟩, rfl⟩

/-- A scalar that fits is written as a token of the grammar, and something is read of it. -/
theorem readToken_of_fitsWord {s : Scalar} (h : s.FitsWord) :
    (tokenOf s).WellFormed ∧ ∃ reports, readToken (tokenOf s) = .ok ([s.reread], reports) := by
  cases hs : s.isNonfinite with
  | true =>
    obtain ⟨hw, hread⟩ := readToken_of_isNonfinite hs
    exact ⟨hw, _, by rw [hread, Scalar.reread, if_pos hs]⟩
  | false =>
    have hstorable := h.isStorable hs
    exact ⟨wellFormed_tokenOf hstorable, _,
      by rw [readToken_tokenOf hstorable, Scalar.reread_of_finite hs]⟩

/-- An unquoted value is read as a scalar that fits. -/
theorem fitsWord_of_readPlain {text : List Char} {s : Scalar} (h : readPlain text = .ok (some s)) :
    s.FitsWord := by
  have hfloat : ∀ x : Option Binary64, x.map Scalar.float = some s → s.FitsWord := by
    intro x hx
    obtain ⟨_, -, rfl⟩ := Option.map_eq_some_iff.1 hx
    trivial
  unfold readPlain at h
  split at h
  · cases h
    trivial
  · split at h
    · cases h
      trivial
    · split at h
      · simp only at h
        split at h
        · cases h
        · split at h
          · next hfits =>
            cases h
            simp only [fitsWord, Bool.and_eq_true, decide_eq_true_eq] at hfits
            exact ⟨by omega, by omega⟩
          · exact hfloat _ (Except.ok.inj h)
      · exact hfloat _ (Except.ok.inj h)

/-- **Every scalar that is read fits.** -/
theorem Token.fitsWord_values (token : Token) : ∀ s ∈ token.values, s.FitsWord := by
  intro s hs
  cases token with
  | bare => cases hs
  | quoted body =>
    obtain rfl := List.mem_singleton.1 hs
    trivial
  | plain text =>
    rw [Token.values, readToken] at hs
    cases hread : readPlain text with
    | error fault =>
      rw [hread] at hs
      cases hs
    | ok value =>
      rw [hread] at hs
      cases value with
      | none =>
        obtain rfl := List.mem_singleton.1 hs
        trivial
      | some v =>
        obtain rfl := List.mem_singleton.1 hs
        exact fitsWord_of_readPlain hread

/-! ## Gathered metadata -/

theorem forall_add {P : Scalar → Prop} {m : Metadata} {key : String} {more : List Scalar}
    (hm : ∀ e ∈ m, ∀ s ∈ e.2, P s) (hmore : ∀ s ∈ more, P s) : ∀ e ∈ m.add key more, ∀ s ∈ e.2, P s := by
  induction m with
  | nil => simpa [add] using hmore
  | cons first others ih =>
    obtain ⟨k, vs⟩ := first
    rw [List.forall_mem_cons] at hm
    unfold add
    split
    · exact List.forall_mem_cons.2 ⟨List.forall_mem_append.2 ⟨hm.1, hmore⟩, hm.2⟩
    · exact List.forall_mem_cons.2 ⟨hm.1, ih hm.2⟩

/-- What holds of all scalars that some pairs give holds of what is gathered of them. -/
theorem forall_gather {P : Scalar → Prop} : ∀ {ps : List Pair} {m : Metadata},
    (∀ p ∈ ps, ∀ s ∈ p.token.values, P s) → (∀ e ∈ m, ∀ s ∈ e.2, P s) → ∀ e ∈ gather m ps, ∀ s ∈ e.2, P s
  | [], _, _, hm => hm
  | p :: ps, m, h, hm =>
    forall_gather (m := m.add p.name p.token.values) (fun q hq => h q (by simp [hq]))
      (forall_add hm (h p (by simp)))

theorem nodup_keys_add {m : Metadata} (h : m.keys.Nodup) (key : String) (more : List Scalar) :
    (m.add key more).keys.Nodup := by
  rw [keys_add]
  split
  · exact h
  · next hkey =>
    refine List.nodup_append.2 ⟨h, by simp, fun a ha b hb hab => hkey ?_⟩
    rwa [hab, List.mem_singleton.1 hb] at ha

/-- Every gathered key stands once. -/
theorem nodup_keys_gather : ∀ {ps : List Pair} {m : Metadata}, m.keys.Nodup → (gather m ps).keys.Nodup
  | [], _, h => h
  | p :: _, m, h => nodup_keys_gather (m := m.add p.name p.token.values) (nodup_keys_add h p.name p.token.values)

/-- The keys of a block can be written. -/
theorem isKey_of_mem_gather {ps : List Pair} (h : ∀ p ∈ ps, p.WellFormed) :
    ∀ e ∈ gather [] ps, isKey e.1.toList = true := by
  intro e he
  have hkey : e.1 ∈ (gather [] ps).keys := List.mem_map_of_mem he
  rw [keys_gather, List.mem_eraseDups] at hkey
  obtain ⟨p, hp, hname⟩ := List.mem_map.1 hkey
  rw [← hname, isKey_iff, Pair.name, String.toList_ofList]
  refine ⟨fun hempty => (h p hp).key_ne_nil ?_, (h p hp).key⟩
  simpa using congrArg String.toList hempty

/-! ## Messages -/

/-- What metadata reads back as, if its keys can be written and its scalars fit. -/
def reread (m : Metadata) : Metadata := m.map fun e => (e.1, e.2.map Scalar.reread)

/-- Metadata reads back as it was exactly if it holds no infinity and no number that is none. -/
theorem reread_eq_self_iff {m : Metadata} :
    m.reread = m ↔ ∀ e ∈ m, ∀ s ∈ e.2, s.isNonfinite = false := by
  have hscalars : ∀ vs : List Scalar, vs.map Scalar.reread = vs ↔ ∀ s ∈ vs, s.isNonfinite = false := by
    intro vs
    calc vs.map Scalar.reread = vs ↔ vs.map Scalar.reread = vs.map id := by rw [List.map_id]
      _ ↔ ∀ s ∈ vs, s.isNonfinite = false := by simp only [List.map_inj_left, id_eq, Scalar.reread_eq_self_iff]
  calc m.reread = m ↔ m.map (fun e => (e.1, e.2.map Scalar.reread)) = m.map id := by rw [List.map_id, reread]
    _ ↔ ∀ e ∈ m, (e.1, e.2.map Scalar.reread) = e := by simp only [List.map_inj_left, id_eq]
    _ ↔ ∀ e ∈ m, ∀ s ∈ e.2, s.isNonfinite = false := by
      refine forall₂_congr fun e _ => ?_
      rw [← hscalars e.2, Prod.ext_iff]
      simp

/-- Metadata whose keys can be written and whose scalars fit is written behind a message that opens no block, and
read. -/
theorem exists_encode_of_fitsWord {message : String} {m : Metadata} (ne : m ≠ []) (distinct : m.keys.Nodup)
    (writable : ∀ e ∈ m, isKey e.1.toList = true) (fits : ∀ e ∈ m, ∀ s ∈ e.2, s.FitsWord)
    (unopened : ¬HasOpening (message.toList ++ [' '])) :
    ∃ text, encode message (m.map fun e => (e.1, .tuple (e.2.map .scalar))) = .ok text ∧
      (decode text).outcome = .ok ⟨message, m.reread⟩ := by
  -- each key is written with all its values
  let md : List (String × Content) := m.map fun e => (e.1, .tuple e.2)
  have hne : md ≠ [] := by simpa [md] using ne
  have hkeys : ∀ e ∈ md, isKey e.1.toList = true := by
    intro e he
    obtain ⟨x, hx, rfl⟩ := List.mem_map.1 he
    exact writable x hx
  have hread : ∀ e ∈ md, ∀ s ∈ e.2.scalars, (tokenOf s).WellFormed ∧
      ∃ reports, readToken (tokenOf s) = .ok ([s.reread], reports) := by
    intro e he s hs
    obtain ⟨x, hx, rfl⟩ := List.mem_map.1 he
    exact readToken_of_fitsWord (fits x hx s hs)
  have hvalues : ∀ e ∈ md, e.2.value.isWritable = true := by
    intro e he
    obtain ⟨x, hx, rfl⟩ := List.mem_map.1 he
    exact Content.isWritable_value fun s hs => (fits x hx s hs).isWritable
  have hencode := encode_entries message hne hkeys hvalues
  have hentries : md.map (fun e => (e.1, e.2.value)) = m.map fun e => (e.1, .tuple (e.2.map .scalar)) := by
    simp [md, Content.value]
  rw [hentries] at hencode
  refine ⟨_, hencode, ?_⟩
  have hfirst := splitsFirst_written (entriesPairs_ne_nil hne)
    (wellFormed_entriesPairs hkeys fun e he s hs => (hread e he s hs).1) unopened
  rw [← String.toList_ofList (l := written _ _)] at hfirst
  have hreadable : ∀ p ∈ entriesPairs md, p.token.IsReadable := by
    intro p hp
    rcases token_of_mem_entriesPairs hp with hbare | ⟨e, he, s, hs, htoken⟩
    · exact Token.isReadable_of_read (by rw [hbare]; rfl)
    · obtain ⟨reports, hr⟩ := (hread e he s hs).2
      exact Token.isReadable_of_read (by rw [htoken]; exact hr)
  have hgather : gather [] (entriesPairs md) = m.reread := by
    rw [entriesPairs, gather_entries_of_values Scalar.reread]
    · simp [md, Content.scalars, reread]
    · simpa [md, keys, Function.comp_def] using distinct
    · simp [keys]
    · intro e he s hs
      obtain ⟨reports, hr⟩ := (hread e he s hs).2
      rw [Token.values, hr]
  rw [outcome_decode_of_isReadable hfirst hreadable, hgather, String.ofList_toList]

/-- **What was decoded comes back from being encoded**, if the message opens no block: with the infinities and the
number that is none as texts, and so exactly as it was if there are none of these. -/
theorem decode_reencoded (s : String) (d : Decoded) (decoded : (decode s).outcome = .ok d)
    (block : d.metadata ≠ []) (unopened : ¬HasOpening (d.message.toList ++ [' '])) :
    ∃ text, encode d.message (d.metadata.map fun e => (e.1, .tuple (e.2.map .scalar))) = .ok text ∧
      (decode text).outcome = .ok ⟨d.message, d.metadata.reread⟩ ∧
      ((decode text).outcome = .ok d ↔ ∀ e ∈ d.metadata, ∀ s ∈ e.2, s.isNonfinite = false) := by
  obtain ⟨m, ps, hfirst, -, rfl⟩ := exists_splitsFirst_of_outcome decoded block
  obtain ⟨separator, b, -, hblock, -⟩ := hfirst.1
  obtain ⟨text, hencode, hdecode⟩ := exists_encode_of_fitsWord block (nodup_keys_gather List.nodup_nil)
    (isKey_of_mem_gather hblock.wellFormed)
    (forall_gather (fun p _ => p.token.fitsWord_values) fun _ h => absurd h List.not_mem_nil) unopened
  refine ⟨text, hencode, hdecode, ?_⟩
  rw [hdecode, ← reread_eq_self_iff, Except.ok.injEq, Decoded.mk.injEq]
  simp

/-- Values of every class, one of which comes back as a text. -/
theorem decode_reencoded_mixed :
    ∃ d, (decode "a b\n[CONTEXT k=TRUE k=+007 k=-0. t=\"\\\" ]\" t u=-Infinity ]").outcome = .ok d ∧
      d = ⟨"a b", [("k", [.bool true, .int 7, .float (.zero true)]), ("t", [.text "\" ]"]),
        ("u", [.float (.infinite true)])]⟩ ∧
      ∃ text, encode d.message (d.metadata.map fun e => (e.1, .tuple (e.2.map .scalar))) = .ok text ∧
        (decode text).outcome = .ok ⟨d.message, d.metadata.reread⟩ ∧
        ((decode text).outcome = .ok d ↔ ∀ e ∈ d.metadata, ∀ s ∈ e.2, s.isNonfinite = false) := by
  have hdecode : (decode "a b\n[CONTEXT k=TRUE k=+007 k=-0. t=\"\\\" ]\" t u=-Infinity ]").outcome
      = .ok ⟨"a b", [("k", [.bool true, .int 7, .float (.zero true)]), ("t", [.text "\" ]"]),
        ("u", [.float (.infinite true)])]⟩ := eq_ok_of_toOption (by decide +kernel)
  exact ⟨_, hdecode, rfl, decode_reencoded _ _ hdecode (by simp) (by decide)⟩

/-- An infinity comes back as a text. -/
theorem not_decode_reencoded_infinity : ∃ d text,
    (decode "m [CONTEXT a=Infinity ]").outcome = .ok d ∧ d.metadata = [("a", [.float (.infinite false)])] ∧
    ¬HasOpening (d.message.toList ++ [' ']) ∧
    encode d.message (d.metadata.map fun e => (e.1, .tuple (e.2.map .scalar))) = .ok text ∧
    (decode text).outcome = .ok ⟨"m", [("a", [.text "inf"])]⟩ ∧ (decode text).outcome ≠ .ok d := by
  have hagain : (decode "m [CONTEXT a=inf ]").outcome = .ok ⟨"m", [("a", [.text "inf"])]⟩ :=
    eq_ok_of_toOption (by decide +kernel)
  refine ⟨⟨"m", [("a", [.float (.infinite false)])]⟩, "m [CONTEXT a=inf ]",
    eq_ok_of_toOption (by decide +kernel), rfl, by decide, rfl, hagain, ?_⟩
  rw [hagain]
  simp

end Metadata

end LogAssay
