import LogAssay.Proofs.Metadata.Writing

/-!
# Tags behind a block

A message that ends in a block already is given tags in a block of their own, behind a space. The blocks join:
what is found is one block behind the old message, in which the bracket of the old block and the word that opens
the new one are two bare keys between the old pairs and the tags.

An opening in front of the old block may change even this. If pairs lead from it into a quotation that the text
never ends, then a quotation mark among the tags ends it, and the block is found further ahead.

## Three stages

* **Spaces.** Where a space stands inside a block, a pair has ended, or the space belongs to a value
  (`inside_cut`).
* **Blocks.** A text that ends in a block has no other pair that its last bracket could end (`text_eq_bracket`).
  So a block further ahead goes on behind a quotation (`leavesQuotation_of_splits`).
* **Messages.** What a message with a block reads as once it is given tags (`decode_annotated_block`).
-/

namespace LogAssay.Metadata

/-! ## Spaces -/

theorem IsBody.append {a b : List Char} (ha : IsBody a) (hb : IsBody b) : IsBody (a ++ b) := by
  induction ha with
  | nil => exact hb
  | char hq hback _ ih => exact .char hq hback ih
  | escape hc _ ih => exact .escape hc ih

theorem IsBody.of_forall {s : List Char} (h : ∀ c ∈ s, c ≠ '"' ∧ c ≠ '\\') : IsBody s := by
  induction s with
  | nil => exact .nil
  | cons c s ih =>
    obtain ⟨hquote, hback⟩ := h c (by simp)
    exact .char hquote hback (ih fun x hx => h x (by simp [hx]))

/-- A body may end in front of any space: no space is escaped. -/
theorem IsBody.of_append_space {a b : List Char} (h : IsBody (a ++ ' ' :: b)) : IsBody a := by
  generalize hx : a ++ ' ' :: b = x at h
  induction h generalizing a with
  | nil => simp at hx
  | char hq hback _ ih =>
    cases a with
    | nil => exact .nil
    | cons c a =>
      obtain ⟨rfl, hrest⟩ := List.cons.inj hx
      exact .char hq hback (ih hrest)
  | escape hc _ ih =>
    cases a with
    | nil => cases hx
    | cons c a =>
      obtain ⟨rfl, hrest⟩ := List.cons.inj hx
      cases a with
      | nil =>
        cases hrest
        cases hc
      | cons d a =>
        obtain ⟨rfl, htail⟩ := List.cons.inj hrest
        exact .escape hc (ih htail)

/-- A key that is written, as a pair of its own. -/
abbrev IsKey (key : List Char) : Prop := (Pair.mk key .bare).WellFormed

theorem Pair.WellFormed.isKey {p : Pair} (h : p.WellFormed) : IsKey p.key := ⟨h.key_ne_nil, h.key, trivial⟩

theorem IsKey.notMem {key : List Char} (h : IsKey key) : ' ' ∉ key ∧ '=' ∉ key :=
  ⟨fun hc => absurd (h.key _ hc).1 (by decide), fun hc => (h.key _ hc).2 rfl⟩

/-- Where a space stands inside a token. -/
theorem Token.cut {token : Token} (h : token.WellFormed) {x y : List Char} (hcut : token.text = x ++ ' ' :: y) :
    x = ['='] ∨ ∃ body tail, x = '=' :: '"' :: body ∧ IsBody body ∧ y = tail ++ ['"'] := by
  cases token with
  | bare => simp [Token.text] at hcut
  | plain text =>
    obtain ⟨c, rest, rfl, -, hrest⟩ := h
    rcases x with _ | ⟨e, x⟩
    · cases hcut
    · obtain ⟨he, htext⟩ := List.cons.inj hcut
      rcases x with _ | ⟨c', x⟩
      · exact .inl (by rw [he])
      · -- behind its first character an unquoted value has no space
        obtain ⟨-, rfl⟩ := List.cons.inj htext
        exact absurd (hrest ' ' (by simp)) (by decide)
  | quoted body =>
    rcases x with _ | ⟨e, x⟩
    · cases hcut
    · obtain ⟨he, hvalue⟩ := List.cons.inj hcut
      rcases x with _ | ⟨q, x⟩
      · exact .inl (by rw [he])
      · obtain ⟨hq, hbody⟩ := List.cons.inj hvalue
        have hbody : body ++ ['"'] = x ++ ' ' :: y := hbody
        subst he hq
        -- the space is not the closing quotation mark, so it stands in the body
        rcases List.eq_nil_or_concat y with rfl | ⟨tail, last, rfl⟩
        · exact absurd (List.append_inj' hbody rfl).2 (by decide)
        · rw [List.concat_eq_append, ← List.cons_append, ← List.append_assoc] at hbody
          obtain ⟨rfl, hlast⟩ := List.append_inj' hbody rfl
          exact .inr ⟨x, tail, rfl, IsBody.of_append_space h, by rw [List.concat_eq_append, hlast]⟩

/-- Where a space stands inside a pair: right behind the equals sign, or in a quotation. -/
theorem Pair.cut {p : Pair} (h : p.WellFormed) {x y : List Char} (hcut : p.text = x ++ ' ' :: y) :
    x = p.key ++ ['='] ∨ ∃ body tail, x = p.key ++ '=' :: '"' :: body ∧ IsBody body ∧ y = tail ++ ['"'] := by
  have hkey := h.isKey.notMem.1
  rcases List.append_eq_append_iff.1 hcut with ⟨r, hx, htoken⟩ | ⟨r, hr, htoken⟩
  · rcases Token.cut h.token htoken with rfl | ⟨body, tail, rfl, hbody, hy⟩
    · exact .inl hx
    · exact .inr ⟨body, tail, hx, hbody, hy⟩
  · cases r with
    | nil =>
      -- no token begins with a space
      rw [List.nil_append] at htoken
      cases hp : p.token <;> rw [hp, Token.text] at htoken <;> cases htoken
    | cons c r =>
      obtain ⟨rfl, -⟩ := List.cons.inj htoken
      exact absurd (hr ▸ by simp : ' ' ∈ p.key) hkey

/-- What may stand in front of a space inside a block, behind some pairs. -/
inductive IsCut : List Char → Prop where
  | whole {p : Pair} (h : p.WellFormed) : IsCut p.text
  | equals {key : List Char} (h : IsKey key) : IsCut (key ++ ['='])
  | quotation {key body : List Char} (h : IsKey key) (hb : IsBody body) : IsCut (key ++ '=' :: '"' :: body)

/-- **Where a space stands inside a block**: behind a pair, behind an equals sign, or in a quotation. -/
theorem inside_cut : ∀ {qs : List Pair} {r rest : List Char}, (∀ q ∈ qs, q.WellFormed) →
    inside qs ++ [']'] = r ++ ' ' :: rest →
    ∃ ps x, (∀ p ∈ ps, p.WellFormed) ∧ IsCut x ∧ r = inside ps ++ x
  | [], r, rest, _, h => by
    cases r <;> simp at h
  | q :: qs, r, rest, wf, h => by
    have hq : q.WellFormed := wf q (by simp)
    have hnone : ∀ p ∈ ([] : List Pair), p.WellFormed := fun _ hp => absurd hp List.not_mem_nil
    rw [inside_cons, List.append_assoc, List.cons_append] at h
    rcases List.append_eq_append_iff.1 h with ⟨r', rfl, hr'⟩ | ⟨r', htext, hr'⟩
    · cases r' with
      | nil => exact ⟨[], q.text, hnone, .whole hq, by simp⟩
      | cons c r' =>
        -- the space stands behind the first pair
        obtain ⟨rfl, hrest⟩ := List.cons.inj hr'
        obtain ⟨ps, x, hps, hx, rfl⟩ := inside_cut (fun p hp => wf p (by simp [hp])) hrest
        refine ⟨q :: ps, x, fun p hp => ?_, hx, by simp [inside_cons]⟩
        rcases List.mem_cons.1 hp with rfl | hp
        · exact hq
        · exact hps p hp
    · cases r' with
      | nil => exact ⟨[], q.text, hnone, .whole hq, by simp [htext]⟩
      | cons c r' =>
        -- the space stands in the first pair
        obtain ⟨rfl, -⟩ := List.cons.inj hr'
        rcases Pair.cut hq htext with rfl | ⟨body, -, rfl, hbody, -⟩
        · exact ⟨[], _, hnone, .equals hq.isKey, rfl⟩
        · exact ⟨[], _, hnone, .quotation hq.isKey hbody, rfl⟩

/-! ## Blocks -/

theorem inside_append (ps qs : List Pair) : inside (ps ++ qs) = inside ps ++ inside qs := by
  simp [inside]

theorem inside_concat (ps : List Pair) (p : Pair) : inside (ps ++ [p]) = inside ps ++ p.text ++ [' '] := by
  simp [inside]

/-- A text that ends in an opening and in some pairs behind it, but in no bracket. -/
def IsUnclosed (s : List Char) : Prop :=
  ∃ before ps, (∀ p ∈ ps, p.WellFormed) ∧ s = before ++ opening ++ inside ps

theorem IsUnclosed.space {s : List Char} (h : IsUnclosed s) : ∃ y, s = y ++ [' '] := by
  obtain ⟨before, ps, -, rfl⟩ := h
  rcases List.eq_nil_or_concat ps with rfl | ⟨ps, p, rfl⟩
  · exact ⟨before ++ ['[', 'C', 'O', 'N', 'T', 'E', 'X', 'T'], by simp [opening]⟩
  · exact ⟨before ++ opening ++ inside ps ++ p.text, by simp [inside_concat]⟩

/-- A pair and a word behind two spaces of one text are the same, or the last space belongs to the value. -/
theorem Pair.aligned {p : Pair} (h : p.WellFormed) {y z v : List Char} (hv : ' ' ∉ v)
    (hquote : v.getLast? ≠ some '"') (heq : z ++ ' ' :: p.text = y ++ ' ' :: v) :
    (z = y ∧ p.text = v) ∨ y = z ++ ' ' :: (p.key ++ ['=']) := by
  rcases List.append_eq_append_iff.1 heq with ⟨r, rfl, hr⟩ | ⟨r, rfl, hr⟩
  · cases r with
    | nil => exact .inl ⟨by simp, (List.cons.inj hr).2⟩
    | cons c r =>
      obtain ⟨rfl, htext⟩ := List.cons.inj hr
      rcases Pair.cut h htext with rfl | ⟨-, tail, -, -, rfl⟩
      · exact .inr rfl
      · exact absurd List.getLast?_concat hquote
  · cases r with
    | nil => exact .inl ⟨by simp, (List.cons.inj hr).2.symm⟩
    | cons c r =>
      obtain ⟨-, rfl⟩ := List.cons.inj hr
      exact absurd (by simp) hv

/-- Something stands behind the equals sign of a value. -/
theorem Token.text_eq {token : Token} (h : token.WellFormed) :
    token.text = [] ∨ ∃ value last, token.text = '=' :: value ++ [last] := by
  cases token with
  | bare => exact .inl rfl
  | quoted body => exact .inr ⟨'"' :: body, '"', rfl⟩
  | plain text =>
    obtain ⟨c, rest, rfl, -, -⟩ := h
    rcases List.eq_nil_or_concat rest with rfl | ⟨rest, last, rfl⟩
    · exact .inr ⟨[], c, rfl⟩
    · exact .inr ⟨c :: rest, last, by simp [Token.text]⟩

/-- No pair is a key and an equals sign alone. -/
theorem Pair.text_ne_concat {p : Pair} (h : p.WellFormed) {key : List Char} (hkey : IsKey key) :
    p.text ≠ key ++ ['='] := by
  intro heq
  rw [Pair.text] at heq
  rcases Token.text_eq h.token with htoken | ⟨value, last, htoken⟩
  · rw [htoken, List.append_nil] at heq
    exact h.isKey.notMem.2 (by simp [heq])
  · rw [htoken, ← List.append_assoc] at heq
    exact hkey.notMem.2 (by simp [← (List.append_inj' heq rfl).1])

/-- **What ends in a pair that is not finished does not end in a pair that is.** -/
theorem IsUnclosed.not_concat {s : List Char} (h : IsUnclosed s) {key : List Char} (hkey : IsKey key) :
    ¬IsUnclosed (s ++ key ++ ['=', ' ']) := by
  -- the pair that ends the longer text leads to a shorter text of the same kind
  induction hn : s.length using Nat.strongRecOn generalizing s key with
  | ind n ih =>
    subst hn
    rintro ⟨before, ps, hps, heq⟩
    obtain ⟨y, rfl⟩ := h.space
    have hleft : y ++ [' '] ++ key ++ ['=', ' '] = y ++ [' '] ++ key ++ ['='] ++ [' '] := by simp
    rcases List.eq_nil_or_concat ps with rfl | ⟨ps, p, rfl⟩
    · -- an opening has no equals sign in front of its space
      have hright : before ++ opening ++ inside []
          = before ++ ['[', 'C', 'O', 'N', 'T', 'E', 'X'] ++ ['T'] ++ [' '] := by simp [opening]
      rw [hleft, hright] at heq
      have hlast := (List.append_inj' (List.append_inj' heq rfl).1 rfl).2
      cases hlast
    · rw [List.concat_eq_append] at hps heq
      have hp : p.WellFormed := hps p (by simp)
      have hshorter : IsUnclosed (before ++ opening ++ inside ps) :=
        ⟨before, ps, fun q hq => hps q (by simp [hq]), rfl⟩
      obtain ⟨z, hz⟩ := hshorter.space
      have htext : z ++ ' ' :: p.text = y ++ ' ' :: (key ++ ['=']) := by
        rw [inside_concat, ← List.append_assoc, ← List.append_assoc, hz, hleft] at heq
        simpa using (List.append_inj' heq rfl).1.symm
      rcases Pair.aligned hp (by simpa using hkey.notMem.1) (by simp) htext with ⟨-, hword⟩ | rfl
      · exact Pair.text_ne_concat hp hkey hword
      · refine ih (before ++ opening ++ inside ps).length ?_ hshorter hp.isKey rfl ?_
        · rw [hz]
          simp
        · rw [hz]
          simpa using h

/-- **A bracket behind unclosed pairs is the whole of the last pair** of any other reading. -/
theorem text_eq_bracket {s t : List Char} {p : Pair} (hs : IsUnclosed s) (ht : IsUnclosed t) (hp : p.WellFormed)
    (heq : t ++ p.text = s ++ [']']) : p.text = [']'] := by
  obtain ⟨y, rfl⟩ := hs.space
  obtain ⟨z, rfl⟩ := ht.space
  have htext : z ++ ' ' :: p.text = y ++ ' ' :: [']'] := by simpa using heq
  rcases Pair.aligned hp (by decide) (by decide) htext with ⟨-, hword⟩ | rfl
  · exact hword
  · exact absurd (by simpa using hs) (ht.not_concat hp.isKey)

/-- In front of the message's end stands an opening from which pairs lead into a quotation that the text never
ends. -/
def LeavesQuotation (s message : List Char) : Prop :=
  ∃ m separator ps key body, m.length < message.length ∧ Separates m separator ∧
    (∀ p ∈ ps, p.WellFormed) ∧ IsKey key ∧ IsBody body ∧
    s = m ++ separator ++ opening ++ inside ps ++ key ++ '=' :: '"' :: body

theorem Separates.length_le {message separator : List Char} (h : Separates message separator) :
    separator.length ≤ 1 := by
  cases h <;> simp

theorem inside_ne_nil {ps : List Pair} (ne : ps ≠ []) : inside ps ≠ [] := by
  obtain ⟨p, qs, rfl⟩ := List.exists_cons_of_ne_nil ne
  simp [inside]

/-- **Behind a block, another block begins further ahead only if an unended quotation leads to it.** -/
theorem leavesQuotation_of_splits {s message m rest : List Char} {ps qs : List Pair}
    (h : SplitsFirst s message ps) (ahead : Splits (s ++ ' ' :: rest) m qs)
    (hlt : m.length < message.length) : LeavesQuotation s message := by
  obtain ⟨separator, block, hsep, hblock, hs⟩ := h.1
  obtain ⟨separator', block', hsep', hblock', heq⟩ := ahead
  have htext : s = message ++ separator ++ opening ++ inside ps ++ [']'] := by
    rw [hs, hblock.text]
    simp
  have hlength : s.length = message.length + separator.length + opening.length + (inside ps).length + 1 := by
    rw [htext]
    simp only [List.length_append, List.length_singleton]
  have hfront : m.length + separator'.length ≤ message.length := by
    have := hsep'.length_le
    omega
  have hinside : 0 < (inside ps).length := List.length_pos_iff.2 (inside_ne_nil hblock.pairs_ne_nil)
  -- the opening further ahead stands in front of the old block's end
  obtain ⟨r, hr, hcut⟩ : ∃ r, s = m ++ separator' ++ opening ++ r ∧ inside qs ++ [']'] = r ++ ' ' :: rest := by
    rw [hblock'.text, List.append_assoc opening, ← List.append_assoc _ opening] at heq
    rcases List.append_eq_append_iff.1 heq with ⟨r, hr, -⟩ | ⟨r, hr, hcut⟩
    · have := congrArg List.length hr
      simp only [List.length_append] at this
      omega
    · exact ⟨r, hr, hcut⟩
  obtain ⟨ps', x, hps', hx, rfl⟩ := inside_cut hblock'.wellFormed hcut
  rw [← List.append_assoc] at hr
  cases hx with
  | whole hp =>
    -- the pair is the bracket that ends the old block, so that the text is split further ahead already
    have hword := text_eq_bracket ⟨message ++ separator, ps, hblock.wellFormed, rfl⟩
      ⟨m ++ separator', ps', hps', rfl⟩ hp (hr.symm.trans htext)
    rw [hword] at hr
    have hne : ps' ≠ [] := by
      rintro rfl
      have := congrArg List.length hr
      simp only [List.length_append, List.length_singleton, inside_nil, List.length_nil] at this
      omega
    have hsplits : Splits s m ps' :=
      ⟨separator', _, hsep', ⟨hne, hps', rfl⟩, by rw [hr]; simp⟩
    exact absurd (h.2 m ps' hsplits) (Nat.not_le.2 hlt)
  | equals hkey =>
    rw [htext, ← List.append_assoc] at hr
    cases (List.append_inj' hr rfl).2
  | quotation hkey hbody =>
    rw [← List.append_assoc] at hr
    exact ⟨m, separator', ps', _, _, hlt, hsep', hps', hkey, hbody, hr⟩

/-! ## Messages -/

/-- The bare keys between two blocks that are read as one: the bracket of the first block and the word that opens
the second. -/
def joint : List Pair := [⟨[']'], .bare⟩, ⟨['[', 'C', 'O', 'N', 'T', 'E', 'X', 'T'], .bare⟩]

theorem wellFormed_joint : ∀ p ∈ joint, p.WellFormed := by
  simp only [joint, List.mem_cons, List.not_mem_nil, or_false, forall_eq_or_imp, forall_eq]
  exact ⟨⟨by simp, by simp [Text.isBlank], trivial⟩, ⟨by simp, by simp [Text.isBlank], trivial⟩⟩

theorem joint_bare : ∀ p ∈ joint, p.token = .bare := by
  simp [joint]

theorem Splits.ne_nil {s m : List Char} {ps : List Pair} (h : Splits s m ps) : s ≠ [] := by
  obtain ⟨separator, block, -, hblock, rfl⟩ := h
  obtain ⟨r, rfl⟩ := hblock.head
  simp

/-- A text with a block, and behind it another block, has one block of the pairs of both. -/
theorem Splits.join {s m : List Char} {ps ts : List Pair} (h : Splits s m ps) (hts : ∀ p ∈ ts, p.WellFormed) :
    Splits (written s ts) m (ps ++ joint ++ ts) := by
  rw [written_of_ne_nil h.ne_nil]
  obtain ⟨separator, block, hsep, hblock, rfl⟩ := h
  have hwf : ∀ p ∈ ps ++ joint ++ ts, p.WellFormed :=
    List.forall_mem_append.2 ⟨List.forall_mem_append.2 ⟨hblock.wellFormed, wellFormed_joint⟩, hts⟩
  have hjoint : inside joint = ']' :: ' ' :: opening := rfl
  refine ⟨separator, _, hsep, ⟨by simp [joint], hwf, rfl⟩, ?_⟩
  rw [hblock.text, inside_append, inside_append, hjoint]
  simp

/-- **The joined block is the one that is found**, unless the text leaves a quotation. -/
theorem SplitsFirst.join {s m : List Char} {ps ts : List Pair} (h : SplitsFirst s m ps)
    (ended : ¬LeavesQuotation s m) (hts : ∀ p ∈ ts, p.WellFormed) :
    SplitsFirst (written s ts) m (ps ++ joint ++ ts) := by
  refine ⟨h.1.join hts, fun m' qs ahead => ?_⟩
  rw [written_of_ne_nil h.1.ne_nil] at ahead
  by_contra hlt
  exact ended (leavesQuotation_of_splits h ahead (Nat.not_le.1 hlt))

/-- What a message that is given some tags is read as. -/
def readAnnotated (tags : Tags) (message : Tags.Message) : Except Fault Decoded := do
  let annotated ← Tags.annotate tags message
  let text ← annotated.text
  (decode text).outcome

theorem readAnnotated_inForce {tags : List (String × Scalar)} (h : Carriable tags) (ne : tags ≠ [])
    {message : Tags.Message} {text : String} (rendered : message.text = .ok text) :
    readAnnotated (inForce tags) message
      = (decode (String.ofList (written text.toList (tagPairs tags)))).outcome := by
  have htext (annotated : String) : (Tags.Message.mk (.text annotated) .none).text = .ok annotated := rfl
  rw [readAnnotated, h.annotate ne rendered]
  simp only [bind, Except.bind, htext]

/-- The metadata of a block and of the tags that were joined to it. -/
structure JoinedTo (md m : Metadata) (tags : List (String × Scalar)) : Prop where
  keys : ∀ key, key ∈ md.keys ↔ key ∈ m.keys ∨ key = "]" ∨ key = "[CONTEXT" ∨ key ∈ tags.map (·.1)
  values : ∀ key, md.values key = m.values key ++ (tags.lookup key).toList

theorem values_singletons (tags : List (String × Scalar)) (key : String) :
    Metadata.values (tags.map fun t => (t.1, [t.2])) key = (tags.lookup key).toList := by
  induction tags with
  | nil => rfl
  | cons t tags ih =>
    rw [values, values?] at ih ⊢
    rw [List.map_cons, List.lookup_cons, List.lookup_cons]
    cases key == t.1 with
    | true => rfl
    | false => exact ih

/-- **Joined blocks are gathered as the first block, the two bare keys, and the tags.** -/
theorem Carriable.joinedTo {tags : List (String × Scalar)} (h : Carriable tags) (ps : List Pair) :
    JoinedTo (gather [] (ps ++ joint ++ tagPairs tags)) (gather [] ps) tags where
  keys key := by
    have hnames : (tagPairs tags).map Pair.name = tags.map (·.1) := by
      simp [tagPairs, Pair.name, Function.comp_def]
    rw [keys_gather, keys_gather, List.mem_eraseDups, List.mem_eraseDups, List.map_append, List.map_append,
      hnames, List.mem_append, List.mem_append, or_assoc]
    simp [joint, Pair.name, or_assoc]
  values key := by
    have hjoint : (joint.filter (·.name = key)).flatMap (·.token.values) = [] := by
      refine List.flatMap_eq_nil_iff.2 fun p hp => ?_
      rw [joint_bare p (List.mem_filter.1 hp).1]
      rfl
    have htags : ((tagPairs tags).filter (·.name = key)).flatMap (·.token.values) = (tags.lookup key).toList := by
      rw [← values_gather, h.gather_tagPairs (by simp [Metadata.keys]), List.nil_append, values_singletons]
    rw [values_gather, values_gather, List.filter_append, List.filter_append, List.flatMap_append,
      List.flatMap_append, hjoint, htags, List.append_nil]

/-- A text that is split ahead of a message does not decode to the message. -/
theorem Splits.message_ne {s : String} {m message : List Char} {ps : List Pair} (h : Splits s.toList m ps)
    (hlt : m.length < message.length) (md : Metadata) :
    (decode s).outcome ≠ .ok ⟨String.ofList message, md⟩ := by
  intro hdecode
  rcases splitsFirst_or_not_splits s.toList with ⟨m', qs, hfirst⟩ | hnone
  · have hmessage := congrArg Decoded.message (hfirst.decoded hdecode).2
    have hlength := hfirst.2 m ps h
    rw [← String.ofList_inj.1 hmessage] at hlength
    omega
  · exact hnone m ps h

/-- The tag that ends a quotation: the mark that opens its value stands in front of a space. -/
def endingTag : List (String × Scalar) := [("t", .text " x")]

theorem carriable_endingTag : Carriable endingTag where
  distinct := by decide
  writable := by simp [endingTag, Text.isBlank]
  storable := by
    simp only [endingTag, List.mem_singleton, forall_eq]
    exact .text _

/-- **A quotation that is never ended is ended by a tag**, and the block begins further ahead. -/
theorem LeavesQuotation.splits {s message : List Char} (h : LeavesQuotation s message) :
    ∃ m ps, m.length < message.length ∧ Splits (written s (tagPairs endingTag)) m ps := by
  obtain ⟨m, separator, ps, key, body, hlt, hsep, hps, hkey, hbody, rfl⟩ := h
  -- the value goes on to the quotation mark of the tag, and what is left of the tag is a bare key
  let value : List Char := body ++ ' ' :: (opening ++ ['t', '='])
  have hvalue : IsBody value := hbody.append (.of_forall (by simp [opening]))
  let more : List Pair := [⟨key, .quoted value⟩, ⟨['x', '"'], .bare⟩]
  have hwf : ∀ p ∈ ps ++ more, p.WellFormed := by
    refine List.forall_mem_append.2 ⟨hps, ?_⟩
    simp only [more, List.mem_cons, List.not_mem_nil, or_false, forall_eq_or_imp, forall_eq]
    exact ⟨⟨hkey.key_ne_nil, hkey.key, hvalue⟩, ⟨by simp, by simp [Text.isBlank], trivial⟩⟩
  have hmore : inside more = key ++ '=' :: '"' :: body ++ ' ' :: opening ++ "t=\" x\" ".toList := by
    simp [more, value, inside, Pair.text, Token.text]
  have htag : inside (tagPairs endingTag) = "t=\" x\" ".toList := by decide
  refine ⟨m, ps ++ more, hlt, separator, _, hsep, ⟨by simp [more], hwf, rfl⟩, ?_⟩
  rw [written_of_ne_nil (by simp), inside_append, hmore, htag]
  simp

theorem Carriable.isReadable_joined {tags : List (String × Scalar)} (h : Carriable tags) {ps : List Pair}
    (hps : ∀ p ∈ ps, p.token.IsReadable) : ∀ p ∈ ps ++ joint ++ tagPairs tags, p.token.IsReadable := by
  refine List.forall_mem_append.2 ⟨List.forall_mem_append.2 ⟨hps, fun p hp => ?_⟩, fun p hp => ?_⟩
  · exact Token.isReadable_of_read (r := ([], [])) (by rw [joint_bare p hp]; rfl)
  · obtain ⟨values, hvalues⟩ := h.readToken_tagPairs p hp
    exact Token.isReadable_of_read hvalues

/-- **A message that ends in a block and is given tags** is read with the same message in front exactly if no opening
before the block leads into a quotation that the text never ends. Whenever the message is the same, the metadata is
that of the block and the tags, and two bare keys that come from the joint. -/
theorem readAnnotated_of_block (message : Tags.Message) (s : String) (d : Decoded)
    (rendered : message.text = .ok s) (decoded : (decode s).outcome = .ok d) (block : d.metadata ≠ []) :
    ((∀ tags, Carriable tags → tags ≠ [] →
        ∃ md, readAnnotated (inForce tags) message = .ok ⟨d.message, md⟩) ↔
      ¬LeavesQuotation s.toList d.message.toList) ∧
    ∀ tags md, Carriable tags → tags ≠ [] → readAnnotated (inForce tags) message = .ok ⟨d.message, md⟩ →
      JoinedTo md d.metadata tags := by
  obtain ⟨m, ps, hfirst, hread, rfl⟩ := exists_splitsFirst_of_outcome decoded block
  simp only [String.toList_ofList]
  refine ⟨⟨fun h hleaves => ?_, fun h tags carriable ne => ?_⟩, fun tags md carriable ne hmd => ?_⟩
  · -- a tag that ends the quotation moves the block
    have hne : endingTag ≠ [] := by simp [endingTag]
    obtain ⟨md, hmd⟩ := h endingTag carriable_endingTag hne
    obtain ⟨m', qs, hlt, hsplits⟩ := hleaves.splits
    rw [readAnnotated_inForce carriable_endingTag hne rendered] at hmd
    rw [← String.toList_ofList (l := written _ _)] at hsplits
    exact hsplits.message_ne hlt md hmd
  · have hjoined := hfirst.join h carriable.wellFormed_tagPairs
    rw [← String.toList_ofList (l := written _ _)] at hjoined
    rw [readAnnotated_inForce carriable ne rendered,
      outcome_decode_of_isReadable hjoined (carriable.isReadable_joined hread)]
    exact ⟨_, rfl⟩
  · have hjoined := hfirst.1.join carriable.wellFormed_tagPairs
    rw [← String.toList_ofList (l := written _ _)] at hjoined
    rw [readAnnotated_inForce carriable ne rendered] at hmd
    rcases splitsFirst_or_not_splits (String.ofList (written s.toList (tagPairs tags))).toList
      with ⟨m', qs, hfirst'⟩ | hnone
    · obtain ⟨-, hd⟩ := hfirst'.decoded hmd
      obtain ⟨hmessage, rfl⟩ := Decoded.mk.inj hd
      obtain rfl := String.ofList_inj.1 hmessage
      rw [hfirst'.1.unique hjoined]
      exact carriable.joinedTo ps
    · exact absurd hjoined (hnone _ _)

/-- Behind a block of one number, a tag of the same key and a tag that looks like the end of a block. -/
theorem readAnnotated_of_block_number :
    ∃ md, readAnnotated (inForce [("a", .int 2), ("t", .text "\" ]")]) ⟨.text "m [CONTEXT a=1 ]", .none⟩
        = .ok ⟨"m", md⟩ ∧
      JoinedTo md [("a", [.int 1])] [("a", .int 2), ("t", .text "\" ]")] ∧ md.values "a" = [.int 1, .int 2] := by
  have hdecode : (decode "m [CONTEXT a=1 ]").outcome = .ok ⟨"m", [("a", [.int 1])]⟩ :=
    eq_ok_of_toOption (by decide +kernel)
  have hleaves : ¬LeavesQuotation "m [CONTEXT a=1 ]".toList "m".toList := by
    rintro ⟨m, separator, ps, key, body, hlt, hsep, -, -, -, heq⟩
    obtain rfl : m = [] := List.eq_nil_of_length_eq_zero (Nat.lt_one_iff.1 hlt)
    cases hsep <;> cases heq
  have carriable : Carriable [("a", .int 2), ("t", .text "\" ]")] := by
    refine ⟨by decide, by simp [Text.isBlank], ?_⟩
    simp only [List.mem_cons, List.not_mem_nil, or_false, forall_eq_or_imp, forall_eq]
    exact ⟨.int (by decide) (by decide), .text _⟩
  obtain ⟨hiff, hjoined⟩ := readAnnotated_of_block ⟨.text "m [CONTEXT a=1 ]", .none⟩ _ _ rfl hdecode (by simp)
  obtain ⟨md, hmd⟩ := hiff.2 hleaves _ carriable (by simp)
  have hjoinedTo := hjoined _ md carriable (by simp) hmd
  exact ⟨md, hmd, hjoinedTo, hjoinedTo.values "a"⟩

/-- The two bare keys are none of the block and none of the tags. -/
theorem not_readAnnotated_tags_alone :
    (decode "m [CONTEXT a=1 ]").outcome = .ok ⟨"m", [("a", [.int 1])]⟩ ∧ Carriable [("t", .int 2)] ∧
    ∃ md, readAnnotated (inForce [("t", .int 2)]) ⟨.text "m [CONTEXT a=1 ]", .none⟩ = .ok ⟨"m", md⟩ ∧
      ¬∀ key, key ∈ md.keys ↔ key ∈ ["a"] ∨ key ∈ ["t"] := by
  refine ⟨eq_ok_of_toOption (by decide +kernel), ⟨by decide, by simp [Text.isBlank], ?_⟩,
    [("a", [.int 1]), ("]", []), ("[CONTEXT", []), ("t", [.int 2])], eq_ok_of_toOption (by decide +kernel),
    fun h => ?_⟩
  · simp only [List.mem_singleton, forall_eq]
    exact .int (by decide) (by decide)
  · exact absurd ((h "]").1 (by decide)) (by decide)

/-- The message itself is cut short where a tag ends a quotation. -/
example : (decode "x [CONTEXT k=\" [CONTEXT a=1 ]").outcome.toOption
      = some ⟨"x [CONTEXT k=\"", [("a", [.int 1])]⟩ ∧
    (readAnnotated (inForce endingTag) ⟨.text "x [CONTEXT k=\" [CONTEXT a=1 ]", .none⟩).toOption
      = some ⟨"x", [("k", [.text " [CONTEXT a=1 ] [CONTEXT t="]), ("x\"", [])]⟩ := by
  decide +kernel

end LogAssay.Metadata
