import LogAssay.Proofs.Metadata.Unescaping
import LogAssay.Proofs.Metadata.Writing

/-!
# What decoding reports

A quotation that a block may hold escapes only what stands in the table of escapes, and no backslash ends it. So reading
the values of a block never meets a problem with an escape, although the reader of quoted values knows nothing of
blocks. What is left to report is one thing: an unquoted value of no known type, kept as it stands.

## Main statements

* `IsBody.problems_eq_nil`: the grammar shields the reader of quoted values.
* `reports_readPairs`: the reports on some pairs, in their order.
* `decode_reports_kept`: what decoding reports on any text that decodes.
-/

namespace LogAssay.Metadata

/-! ## Quoted values -/

theorem exists_mem_escapes {c : Char} (h : isEscapable c = true) : ∃ meant, (c, meant) ∈ escapes := by
  simp only [isEscapable, Bool.or_eq_true, decide_eq_true_eq] at h
  rcases h with (((rfl | rfl) | rfl) | rfl) | rfl
  all_goals exact ⟨_, escaped?_eq_some_iff.1 rfl⟩

theorem IsBody.means {body : List Char} (h : IsBody body) : ∃ text, Means body text [] := by
  induction h with
  | nil => exact ⟨[], .nil⟩
  | char _ hb _ ih =>
    obtain ⟨text, hmeans⟩ := ih
    exact ⟨_, .char hb hmeans⟩
  | escape hc _ ih =>
    obtain ⟨text, hmeans⟩ := ih
    obtain ⟨meant, hmeant⟩ := exists_mem_escapes hc
    exact ⟨_, .escape hmeant hmeans⟩

/-- **The grammar shields the reader of quoted values.** -/
theorem IsBody.problems_eq_nil {body : List Char} (h : IsBody body) : (unescape body).2 = [] := by
  obtain ⟨text, hmeans⟩ := h.means
  exact (means_iff.1 hmeans).2.symm

theorem IsBody.unescapeReports_eq_nil {body : List Char} (h : IsBody body) (raw : String) :
    unescapeReports raw body = [] :=
  unescapeReports_of_clean h.problems_eq_nil

/-! ## Unquoted values -/

/-- The text of an unquoted value that is kept as it stands: its value is the text. -/
def Token.kept? : Token → Option String
  | .plain text =>
    if (Token.plain text).values = [.text (String.ofList text)] then some (String.ofList text) else none
  | .bare | .quoted _ => none

/-- No unquoted value is of a known type and a text. -/
theorem ne_text_of_readPlain {text : List Char} {value : Scalar} (h : readPlain text = .ok (some value)) (s : String) :
    value ≠ .text s := by
  have hfloat : ∀ {x : Option Binary64}, x.map Scalar.float = some value → value ≠ .text s := by
    intro x hx
    obtain ⟨_, -, rfl⟩ := Option.map_eq_some_iff.1 hx
    exact Scalar.noConfusion
  unfold readPlain at h
  simp only at h
  repeat' split at h
  all_goals first
    | exact hfloat (Except.ok.inj h)
    | (obtain rfl := Option.some.inj (Except.ok.inj h); exact Scalar.noConfusion)
    | cases h

/-- A token of a block that is read is reported exactly if it is kept as it stands. -/
theorem Token.WellFormed.read {token : Token} (h : token.WellFormed) (hread : token.IsReadable) :
    readToken token = .ok (token.values, (token.kept?.map .keptLiteral).toList) := by
  cases token with
  | bare => rfl
  | quoted body =>
    rw [Token.values, readToken, IsBody.unescapeReports_eq_nil h]
    rfl
  | plain text =>
    obtain ⟨value, hvalue⟩ := readPlain_eq_ok hread
    cases value with
    | none =>
      have hvalues : (Token.plain text).values = [.text (String.ofList text)] := by
        rw [Token.values, readToken, hvalue]
        rfl
      rw [kept?, if_pos hvalues, hvalues, readToken, hvalue]
      rfl
    | some value =>
      have hvalues : (Token.plain text).values = [value] := by
        rw [Token.values, readToken, hvalue]
        rfl
      have hknown : (Token.plain text).values ≠ [.text (String.ofList text)] := by
        rw [hvalues]
        exact fun heq => ne_text_of_readPlain hvalue _ (List.head_eq_of_cons_eq heq)
      rw [kept?, if_neg hknown, hvalues, readToken, hvalue]
      rfl

/-! ## Blocks -/

/-- **The reports on some pairs**: one for each unquoted value that is kept as it stands, in the order of the pairs. -/
theorem reports_readPairs : ∀ {ps : List Pair} {m : Metadata}, (∀ p ∈ ps, p.WellFormed) →
    (∀ p ∈ ps, p.token.IsReadable) →
    (readPairs m ps).reports = (ps.filterMap fun p => p.token.kept?).map .keptLiteral
  | [], _, _, _ => rfl
  | p :: ps, m, hwell, hread => by
    have htoken := (hwell p List.mem_cons_self).token.read (hread p List.mem_cons_self)
    have hothers (m : Metadata) := reports_readPairs (m := m) (fun q hq => hwell q (List.mem_cons_of_mem p hq))
      fun q hq => hread q (List.mem_cons_of_mem p hq)
    rw [readPairs, htoken]
    simp only
    rw [hothers]
    cases hkept : p.token.kept? <;> simp only [List.filterMap_cons, hkept] <;> rfl

/-- The pairs of a text: those of its block, or none if there is no block. -/
def IsPairs (s : List Char) (pairs : List Pair) : Prop :=
  (∃ m, SplitsFirst s m pairs) ∨ (pairs = [] ∧ ∀ m ps, ¬Splits s m ps)

theorem exists_isPairs {s : String} {d : Decoded} (h : (decode s).outcome = .ok d) :
    ∃ pairs, IsPairs s.toList pairs ∧ (∀ p ∈ pairs, p.WellFormed) ∧
      (decode s).reports = (pairs.filterMap fun p => p.token.kept?).map .keptLiteral := by
  rcases splitsFirst_or_not_splits s.toList with ⟨m, ps, hfirst⟩ | hnone
  · obtain ⟨separator, block, -, hblock, -⟩ := hfirst.1
    refine ⟨ps, .inl ⟨m, hfirst⟩, hblock.wellFormed, ?_⟩
    rw [decode_of_splitsFirst hfirst]
    exact reports_readPairs hblock.wellFormed (hfirst.decoded h).1
  · refine ⟨[], .inr ⟨rfl, hnone⟩, fun p hp => absurd hp List.not_mem_nil, ?_⟩
    rw [decode_of_not_splits hnone]
    rfl

/-- **Decoding reports what is kept as it stands and nothing else.** On a text that decodes, the reports are one for
each unquoted value that is kept as literal text, in order of appearance and of the lowest weight. Of a quoted value
that a block may hold there is nothing to report. -/
theorem decode_reports_kept {s : String} {d : Decoded} (h : (decode s).outcome = .ok d) :
    (∃ pairs, IsPairs s.toList pairs ∧
      (decode s).reports = (pairs.filterMap fun p => p.token.kept?).map .keptLiteral ∧
      ∀ p ∈ pairs, ∀ body, p.token = .quoted body → IsBody body) ∧
    (∀ report ∈ (decode s).reports, report.weight = .debug) ∧
    ∀ body, IsBody body → (unescape body).2 = [] ∧ ∀ raw, unescapeReports raw body = [] := by
  obtain ⟨pairs, hpairs, hwell, hreports⟩ := exists_isPairs h
  refine ⟨⟨pairs, hpairs, hreports, fun p hp body hbody => ?_⟩, fun report hreport => ?_, fun body hbody => ?_⟩
  · have htoken := (hwell p hp).token
    rwa [hbody] at htoken
  · rw [hreports] at hreport
    obtain ⟨text, -, rfl⟩ := List.mem_map.1 hreport
    rfl
  · exact ⟨hbody.problems_eq_nil, hbody.unescapeReports_eq_nil⟩

/-- Two of the values have no type, and the quotation between them holds every escape. -/
def mixed : String := "go [CONTEXT a=x b=\"\\\\\\\"\\n\\r\\t\" c=1 a=-y d ]"

theorem decode_reports_kept_mixed :
    (∃ d, (decode mixed).outcome = .ok d ∧
      d = ⟨"go", [("a", [.text "x", .text "-y"]), ("b", [.text "\\\"\n\r\t"]), ("c", [.int 1]), ("d", [])]⟩) ∧
    (∃ pairs, IsPairs mixed.toList pairs ∧
      (decode mixed).reports = (pairs.filterMap fun p => p.token.kept?).map .keptLiteral) ∧
    (decode mixed).reports.map Diagnostic.message
      = ["x", "-y"].map fun text => (Diagnostic.keptLiteral text).message := by
  have hdecode : (decode mixed).outcome
      = .ok ⟨"go", [("a", [.text "x", .text "-y"]), ("b", [.text "\\\"\n\r\t"]), ("c", [.int 1]), ("d", [])]⟩ :=
    eq_ok_of_toOption (by decide +kernel)
  obtain ⟨⟨pairs, hpairs, hreports, -⟩, -⟩ := decode_reports_kept hdecode
  exact ⟨⟨_, hdecode, rfl⟩, ⟨pairs, hpairs, hreports⟩, by decide +kernel⟩

end LogAssay.Metadata
