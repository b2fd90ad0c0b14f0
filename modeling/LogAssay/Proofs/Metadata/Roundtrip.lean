import LogAssay.Metadata.Encode
import LogAssay.Proofs.Metadata.Decoding
import LogAssay.Proofs.Number.Text

/-!
# Messages read back

Decoding undoes encoding.

## Three stages

* **Values.** The written form of a scalar is a token of the grammar, and reading the token gives the scalar,
  without a report (`readToken_tokenOf`). The readers are tried in a fixed order, so a number has to be told
  from the words for truth values, and a floating-point number from an integer.
* **Pairs.** The written entries are the inside of a block (`writeEntries_value`), and gathering the pairs of
  entries with keys of their own gives the entries (`gather_entries`).
* **The message.** The block that was appended is found, because no earlier one can be opened: an opening ends
  in its only space, so it cannot reach over the space in front of the block (`length_le_of_splits`).
-/

namespace LogAssay

open Decimal

/-! ## Scalars -/

/-- A scalar that a message can carry: an integer has to fit 64 bits, a floating-point number to be finite. -/
inductive Scalar.IsStorable : Scalar → Prop where
  | bool (b : Bool) : IsStorable (.bool b)
  | int {i : Int} (lower : -2 ^ 63 ≤ i) (upper : i < 2 ^ 63) : IsStorable (.int i)
  | float (negative : Bool) {units : Nat} (h : Representable units) :
    IsStorable (.float (.finite negative units h))
  | text (s : String) : IsStorable (.text s)

theorem Scalar.IsStorable.isWritable {s : Scalar} (h : s.IsStorable) : s.isWritable = true := by
  cases h with
  | int lower upper => exact isWritable_of_word lower upper
  | bool | float | text => rfl

namespace Metadata

/-- The token that a scalar is written as. -/
def tokenOf : Scalar → Token
  | .bool b => .plain (if b then "true".toList else "false".toList)
  | .int i => .plain (Decimal.ofInt i)
  | .float x => .plain x.text
  | .text s => .quoted (escape s.toList)

theorem writeValue_scalar (s : Scalar) : '=' :: writeValue (.scalar s) = (tokenOf s).text := by
  cases s <;> rfl

/-- The digits are ten characters in a row. -/
theorem isDigit_iff {c : Char} : c.isDigit = true ↔ 48 ≤ c.toNat ∧ c.toNat ≤ 57 := by
  simp only [Char.isDigit, Bool.and_eq_true, decide_eq_true_eq, ge_iff_le, UInt32.le_iff_toNat_le]
  rfl

theorem isBlank_of_isDigit {c : Char} (h : c.isDigit = true) : Text.isBlank c = false := by
  obtain ⟨hlower, hupper⟩ := isDigit_iff.1 h
  unfold Text.isBlank
  simp only [Bool.or_eq_false_iff, Bool.and_eq_false_iff, decide_eq_false_iff_not, beq_eq_false_iff_ne]
  omega

theorem isBlank_of_isSpellingChar {c : Char} (h : Binary64.IsSpellingChar c) : Text.isBlank c = false := by
  rcases h with h | rfl | rfl | rfl | rfl
  · exact isBlank_of_isDigit h
  all_goals decide

theorem toLower_of_isDigit {c : Char} (h : c.isDigit = true) : c.toLower = c := by
  obtain ⟨_, hupper⟩ := isDigit_iff.1 h
  unfold Char.toLower
  rw [dif_neg]
  intro hc
  have : 65 ≤ c.toNat := UInt32.le_iff_toNat_le.1 hc.1
  omega

/-- What begins with a digit or a sign spells no truth value. -/
theorem lowered_ne {c : Char} (h : c.isDigit = true ∨ c = '-') (r : List Char) :
    Text.lowered (c :: r) ≠ "true".toList ∧ Text.lowered (c :: r) ≠ "false".toList := by
  have hlower : c.toLower = c := by
    rcases h with h | rfl
    · exact toLower_of_isDigit h
    · decide
  have hword : ∀ w : Char, w.isDigit = false → w ≠ '-' → c ≠ w := by
    rintro w hdigit hminus rfl
    rcases h with h | h
    · rw [hdigit] at h
      cases h
    · exact hminus h
  constructor
  · intro heq
    have := (List.cons.inj heq).1
    rw [hlower] at this
    exact hword 't' rfl (by decide) this
  · intro heq
    have := (List.cons.inj heq).1
    rw [hlower] at this
    exact hword 'f' rfl (by decide) this

/-- An integer that fits 64 bits is read. -/
theorem readPlain_ofInt {i : Int} (lower : -2 ^ 63 ≤ i) (upper : i < 2 ^ 63) :
    readPlain (Decimal.ofInt i) = .ok (some (.int i)) := by
  obtain ⟨c, r, hcr, hc, _⟩ := Binary64.exists_cons_ofInt i
  have hwords := lowered_ne hc r
  rw [← hcr] at hwords
  have hsign := Binary64.takeSign_ofInt i
  have hnumeral : isIntegerNumeral (Decimal.ofInt i) = true := by
    rw [isIntegerNumeral, hsign]
    simp only [Bool.and_eq_true, Bool.not_eq_true', List.isEmpty_eq_false_iff]
    exact ⟨ofNat_ne_nil _, List.all_eq_true.2 (allDigits_ofNat _)⟩
  have hlength : (ofNat i.natAbs).length ≤ Decimal.maxDigits :=
    Nat.le_trans (length_ofNat_le (k := 18) (by omega)) (by decide)
  have hvalue : integerOf (Decimal.ofInt i) = i := by
    rw [integerOf, hsign]
    simp only [toNat_ofNat, decide_eq_true_eq]
    split <;> omega
  have hfits : fitsWord i = true := by
    simp only [fitsWord, Bool.and_eq_true, decide_eq_true_eq]
    omega
  rw [readPlain, if_neg hwords.1, if_neg hwords.2, if_pos hnumeral, hsign, hvalue]
  simp only
  rw [if_neg (by omega), if_pos hfits]

/-- A finite floating-point number is read, and not as an integer. -/
theorem readPlain_text (negative : Bool) {units : Nat} (h : Representable units) :
    readPlain (Binary64.finite negative units h).text = .ok (some (.float (.finite negative units h))) := by
  have hread : floatOf? (Binary64.finite negative units h).text = some (.finite negative units h) := by
    refine Binary64.read?_text _ _ (fun c r hc => ?_) negative h
    have hname : ∀ (w : Char) (name : List Char), w.isDigit = false → (c :: r == w :: name) = false := by
      intro w name hw
      rw [beq_eq_false_iff_ne]
      intro heq
      rw [(List.cons.inj heq).1, hw] at hc
      cases hc
    exact ⟨hname 'I' _ rfl, hname 'N' _ rfl⟩
  obtain ⟨body, whole, fraction, exponent, htext, hspells, _⟩ := Binary64.exists_spells_text negative h
  have hsign := Binary64.takeSign_text hspells negative
  have hwords : Text.lowered (Binary64.finite negative units h).text ≠ "true".toList ∧
      Text.lowered (Binary64.finite negative units h).text ≠ "false".toList := by
    rw [htext]
    cases negative with
    | true => exact lowered_ne (.inr rfl) body
    | false =>
      obtain ⟨c, r, rfl, hc⟩ := hspells.head
      exact lowered_ne (.inl hc) r
  have hnumeral : isIntegerNumeral (Binary64.finite negative units h).text = false := by
    obtain ⟨c, hmem, hc⟩ := hspells.exists_not_isDigit
    rw [isIntegerNumeral, htext, hsign, Bool.and_eq_false_iff]
    refine .inr (List.all_eq_false.2 ⟨c, hmem, by simp [hc]⟩)
  rw [readPlain, if_neg hwords.1, if_neg hwords.2, if_neg (by simp [hnumeral]), hread]
  rfl

/-- Escaping leaves no double quote and no backslash bare. -/
theorem isBody_escape : ∀ s : List Char, IsBody (escape s)
  | [] => .nil
  | c :: r => by
    rw [escape_cons, escapeChar]
    cases h : escapeLetter? c with
    | none =>
      have hq : c ≠ '"' := by rintro rfl; cases h
      have hb : c ≠ '\\' := by rintro rfl; cases h
      exact .char hq hb (isBody_escape r)
    | some letter =>
      have hletter : isEscapable letter = true := by
        have := escaped?_of_escapeLetter? h
        unfold escaped? at this
        simp only [isEscapable, Bool.or_eq_true, decide_eq_true_eq]
        grind
      exact .escape hletter (isBody_escape r)

/-- The written form of a storable scalar is a token of the grammar. -/
theorem wellFormed_tokenOf {s : Scalar} (h : s.IsStorable) : (tokenOf s).WellFormed := by
  cases h with
  | bool b =>
    cases b with
    | true => exact ⟨'t', ['r', 'u', 'e'], rfl, by decide, by simp [Text.isBlank]⟩
    | false => exact ⟨'f', ['a', 'l', 's', 'e'], rfl, by decide, by simp [Text.isBlank]⟩
  | int lower upper =>
    obtain ⟨c, r, hcr, hc, hr⟩ := Binary64.exists_cons_ofInt _
    refine ⟨c, r, hcr, ?_, fun x hx => isBlank_of_isDigit (hr x hx)⟩
    rintro rfl
    rcases hc with hc | hc <;> cases hc
  | float negative h =>
    obtain ⟨c, r, hcr, hchars⟩ := Binary64.exists_cons_text negative h
    refine ⟨c, r, hcr, ?_, fun x hx => isBlank_of_isSpellingChar (hchars x (by simp [hx]))⟩
    rintro rfl
    rcases hchars '"' (by simp) with hc | hc | hc | hc | hc <;> cases hc
  | text s => exact isBody_escape s.toList

/-- The written form of a storable scalar is read as the scalar, without a report. -/
theorem readToken_tokenOf {s : Scalar} (h : s.IsStorable) : readToken (tokenOf s) = .ok ([s], []) := by
  cases h with
  | bool b => cases b <;> rfl
  | int lower upper =>
    rw [tokenOf, readToken, readPlain_ofInt lower upper]
    rfl
  | float negative h =>
    rw [tokenOf, readToken, readPlain_text negative h]
    rfl
  | text s =>
    rw [tokenOf, readToken, unescape_escape, unescapeReports, unescape_escape, String.ofList_toList]
    rfl

/-! ## Entries -/

/-- What an entry holds: nothing, one scalar, or a sequence of scalars of either kind. -/
inductive Content where
  | nothing
  | one (s : Scalar)
  | list (scalars : List Scalar)
  | tuple (scalars : List Scalar)

/-- The value that a caller hands over. -/
def Content.value : Content → Value
  | nothing => .nothing
  | one s => .scalar s
  | list scalars => .list (scalars.map .scalar)
  | tuple scalars => .tuple (scalars.map .scalar)

/-- The scalars that the value holds. -/
def Content.scalars : Content → List Scalar
  | nothing => []
  | one s => [s]
  | list scalars => scalars
  | tuple scalars => scalars

/-- The pairs that an entry is written as. -/
def entryPairs (key : String) (scalars : List Scalar) : List Pair :=
  match scalars with
  | [] => [⟨key.toList, .bare⟩]
  | s :: others => (s :: others).map fun s => ⟨key.toList, tokenOf s⟩

theorem spread_value (c : Content) : spread c.value = c.scalars.map .scalar := by
  cases c <;> rfl

theorem writeEntry_value (key : String) (c : Content) :
    writeEntry key.toList c.value = inside (entryPairs key c.scalars) := by
  rw [writeEntry, spread_value]
  cases c.scalars with
  | nil => simp [entryPairs, inside, Pair.text, Token.text]
  | cons s others =>
    simp only [List.map_cons, entryPairs, inside, List.flatMap_cons, List.flatMap_map, Pair.text,
      ← writeValue_scalar, List.append_assoc, List.cons_append]

theorem isKey_iff {key : String} :
    isKey key.toList = true ↔ key ≠ "" ∧ ∀ c ∈ key.toList, Text.isBlank c = false ∧ c ≠ '=' := by
  simp [isKey, isKeyChar]

/-- What holds scalars that can be written can be written. -/
theorem Content.isWritable_value {c : Content} (h : ∀ s ∈ c.scalars, s.isWritable = true) :
    c.value.isWritable = true := by
  cases c with
  | nothing => rfl
  | one s => exact h s List.mem_cons_self
  | list scalars => exact Value.allWritable_iff.2 (List.forall_mem_map.2 h)
  | tuple scalars => exact Value.allWritable_iff.2 (List.forall_mem_map.2 h)

/-- The entries of keys and values that can be written are the inside of a block. -/
theorem writeEntries_value : ∀ {md : List (String × Content)}, (∀ e ∈ md, isKey e.1.toList = true) →
    (∀ e ∈ md, e.2.value.isWritable = true) →
    writeEntries (md.map fun e => (e.1, e.2.value))
      = .ok (inside (md.flatMap fun e => entryPairs e.1 e.2.scalars))
  | [], _, _ => rfl
  | e :: md, hkeys, hvalues => by
    rw [List.map_cons, writeEntries, if_pos (hkeys e (by simp)), if_pos (hvalues e (by simp)),
      writeEntries_value (fun x hx => hkeys x (by simp [hx])) fun x hx => hvalues x (by simp [hx]), writeEntry_value]
    simp [Except.map, inside]

/-- The pairs of an entry are those of the grammar if its tokens are. -/
theorem wellFormed_entryPairs_of_tokens {key : String} {scalars : List Scalar}
    (hkey : isKey key.toList = true) (h : ∀ s ∈ scalars, (tokenOf s).WellFormed) :
    ∀ p ∈ entryPairs key scalars, p.WellFormed := by
  obtain ⟨hne, hchars⟩ := isKey_iff.1 hkey
  have hne' : key.toList ≠ [] := by simpa using hne
  intro p hp
  cases scalars with
  | nil =>
    rw [entryPairs, List.mem_singleton] at hp
    subst hp
    exact ⟨hne', hchars, trivial⟩
  | cons s others =>
    obtain ⟨x, hx, rfl⟩ := List.mem_map.1 hp
    exact ⟨hne', hchars, h x hx⟩

theorem wellFormed_entryPairs {key : String} {scalars : List Scalar} (hkey : isKey key.toList = true)
    (h : ∀ s ∈ scalars, s.IsStorable) : ∀ p ∈ entryPairs key scalars, p.WellFormed :=
  wellFormed_entryPairs_of_tokens hkey fun s hs => wellFormed_tokenOf (h s hs)

/-! ## Gathering entries -/

theorem add_of_notMem {m : Metadata} {key : String} (h : key ∉ m.keys) (more : List Scalar) :
    m.add key more = m ++ [(key, more)] := by
  induction m with
  | nil => rfl
  | cons e others ih =>
    simp only [keys, List.map_cons, List.mem_cons, not_or] at h
    rw [add, if_neg (Ne.symm h.1), ih h.2, List.cons_append]

theorem add_concat {m : Metadata} {key : String} (h : key ∉ m.keys) (vs more : List Scalar) :
    (m ++ [(key, vs)] : Metadata).add key more = m ++ [(key, vs ++ more)] := by
  induction m with
  | nil => simp [add]
  | cons e others ih =>
    simp only [keys, List.map_cons, List.mem_cons, not_or] at h
    rw [List.cons_append, add, if_neg (Ne.symm h.1), ih h.2, List.cons_append]

/-- Keys that are not there are not there behind one more entry of another key. -/
theorem notMem_keys_concat {α : Type} {entries : List (String × α)} {m : Metadata} {key : String}
    (hkey : key ∉ entries.map (·.1)) (fresh : ∀ e ∈ entries, e.1 ∉ m.keys) (vs : List Scalar) :
    ∀ e ∈ entries, e.1 ∉ keys (m ++ [(key, vs)]) := by
  intro e he hmem
  rw [keys, List.map_append, List.mem_append, List.map_singleton, List.mem_singleton] at hmem
  rcases hmem with hmem | hmem
  · exact fresh e he hmem
  · have hsame : e.1 = key := hmem
    exact hkey (hsame ▸ List.mem_map_of_mem he)

theorem gather_cons (m : Metadata) (key : String) (token : Token) (ps : List Pair) :
    gather m (⟨key.toList, token⟩ :: ps) = gather (m.add key token.values) ps := by
  rw [gather, List.foldl_cons, Pair.name, String.ofList_toList, ← gather]

theorem values_tokenOf {s : Scalar} (h : s.IsStorable) : (tokenOf s).values = [s] := by
  rw [Token.values, readToken_tokenOf h]

/-- Further pairs of the last key add to it what they are read as. -/
theorem gather_tokens {read : Scalar → Scalar} {m : Metadata} {key : String} (hkey : key ∉ m.keys) :
    ∀ {more vs : List Scalar}, (∀ s ∈ more, (tokenOf s).values = [read s]) →
      gather (m ++ [(key, vs)]) (more.map fun s => ⟨key.toList, tokenOf s⟩)
        = m ++ [(key, vs ++ more.map read)]
  | [], vs, _ => by simp [gather]
  | s :: more, vs, h => by
    rw [List.map_cons, gather_cons, h s (by simp), add_concat hkey,
      gather_tokens hkey fun x hx => h x (by simp [hx]), List.append_assoc, List.singleton_append,
      List.map_cons]

/-- The pairs of an entry with a new key give the key and what its scalars are read as. -/
theorem gather_entryPairs {read : Scalar → Scalar} {m : Metadata} {key : String} {scalars : List Scalar}
    (hkey : key ∉ m.keys) (h : ∀ s ∈ scalars, (tokenOf s).values = [read s]) :
    gather m (entryPairs key scalars) = m ++ [(key, scalars.map read)] := by
  cases scalars with
  | nil =>
    rw [entryPairs, gather_cons, add_of_notMem hkey]
    rfl
  | cons s others =>
    rw [entryPairs, List.map_cons, gather_cons, h s (by simp), add_of_notMem hkey,
      gather_tokens hkey fun x hx => h x (by simp [hx]), List.singleton_append, List.map_cons]

/-- The pairs of entries with keys of their own give the keys in order and what their scalars are read as. -/
theorem gather_entries_of_values (read : Scalar → Scalar) : ∀ {md : List (String × Content)} {m : Metadata},
    (md.map (·.1)).Nodup → (∀ e ∈ md, e.1 ∉ m.keys) →
    (∀ e ∈ md, ∀ s ∈ e.2.scalars, (tokenOf s).values = [read s]) →
    gather m (md.flatMap fun e => entryPairs e.1 e.2.scalars)
      = m ++ md.map fun e => (e.1, e.2.scalars.map read)
  | [], m, _, _, _ => by simp [gather]
  | e :: md, m, hdistinct, hnew, h => by
    rw [List.map_cons, List.nodup_cons] at hdistinct
    have hrest := notMem_keys_concat hdistinct.1 (fun x hx => hnew x (by simp [hx])) (e.2.scalars.map read)
    have hsplit : gather m ((e :: md).flatMap fun e => entryPairs e.1 e.2.scalars)
        = gather (gather m (entryPairs e.1 e.2.scalars))
          (md.flatMap fun e => entryPairs e.1 e.2.scalars) := by
      simp [gather]
    rw [hsplit, gather_entryPairs (hnew e (by simp)) (h e (by simp)),
      gather_entries_of_values read hdistinct.2 hrest fun x hx => h x (by simp [hx]), List.append_assoc]
    rfl

/-- **The pairs of entries with keys of their own give the entries in order.** -/
theorem gather_entries {md : List (String × Content)} {m : Metadata} (distinct : (md.map (·.1)).Nodup)
    (fresh : ∀ e ∈ md, e.1 ∉ m.keys) (storable : ∀ e ∈ md, ∀ s ∈ e.2.scalars, s.IsStorable) :
    gather m (md.flatMap fun e => entryPairs e.1 e.2.scalars)
      = m ++ md.map fun e => (e.1, e.2.scalars) := by
  rw [gather_entries_of_values id distinct fresh fun e he s hs => values_tokenOf (storable e he s hs)]
  simp

/-- Tokens that are read without a report are gathered without a report. -/
theorem readPairs_of_silent : ∀ {ps : List Pair} {m : Metadata},
    (∀ p ∈ ps, ∃ values, readToken p.token = .ok (values, [])) → readPairs m ps = ⟨[], .ok (gather m ps)⟩
  | [], _, _ => rfl
  | p :: ps, m, h => by
    obtain ⟨values, hread⟩ := h p (by simp)
    have hvalues : p.token.values = values := by rw [Token.values, hread]
    rw [readPairs, hread]
    simp only
    rw [readPairs_of_silent fun q hq => h q (by simp [hq])]
    simp [gather, Pair.name, hvalues]

theorem readToken_entryPairs {key : String} {scalars : List Scalar} (h : ∀ s ∈ scalars, s.IsStorable) :
    ∀ p ∈ entryPairs key scalars, ∃ values, readToken p.token = .ok (values, []) := by
  intro p hp
  cases scalars with
  | nil =>
    rw [entryPairs, List.mem_singleton] at hp
    subst hp
    exact ⟨[], rfl⟩
  | cons s others =>
    obtain ⟨x, hx, rfl⟩ := List.mem_map.1 hp
    exact ⟨[x], readToken_tokenOf (h x hx)⟩

/-! ## The message -/

/-- An opening stands in the text where a block may begin: at its start or behind a separator. -/
def HasOpening (s : List Char) : Prop :=
  ∃ before rest, s = before ++ opening ++ rest ∧ ∀ c ∈ before.getLast?, isSeparator c = true

theorem hasOpening_iff {s : List Char} : HasOpening s ↔
    ∃ n ≤ s.length, opening <+: s.drop n ∧ (s.take n).getLast?.all isSeparator = true := by
  simp only [Option.all_eq_true]
  constructor
  · rintro ⟨before, rest, rfl, hlast⟩
    refine ⟨before.length, by simp, ?_, ?_⟩
    · rw [List.append_assoc, List.drop_left]
      exact List.prefix_append opening rest
    · rw [List.append_assoc, List.take_left]
      exact hlast
  · rintro ⟨n, _, ⟨rest, hrest⟩, hlast⟩
    refine ⟨s.take n, rest, ?_, hlast⟩
    rw [List.append_assoc, hrest, List.take_append_drop]

instance : DecidablePred HasOpening := fun _ => decidable_of_iff' _ hasOpening_iff

/-- Two texts that go on with a character the second text does not hold: the second text, with that character,
does not reach beyond the first. -/
theorem exists_append_of_notMem {c : Char} : ∀ {word t r b : List Char}, c ∉ word →
    t ++ c :: b = word ++ c :: r → ∃ rest, t ++ [c] = word ++ c :: rest
  | [], [], _, _, _, _ => ⟨[], rfl⟩
  | [], x :: t, _, _, _, h => by
    cases h
    exact ⟨t ++ [c], rfl⟩
  | w :: word, [], _, _, hc, h => by
    cases h
    exact absurd (List.mem_cons_self) hc
  | w :: word, x :: t, _, _, hc, h => by
    obtain ⟨rfl, htail⟩ := List.cons.inj h
    obtain ⟨rest, hrest⟩ := exists_append_of_notMem (fun hmem => hc (List.mem_cons_of_mem _ hmem)) htail
    exact ⟨rest, by rw [List.cons_append, hrest]; rfl⟩

/-- Behind a message without an opening, no block begins before the space that follows the message. -/
theorem length_le_of_splits {message block m : List Char} {ps : List Pair}
    (unopened : ¬HasOpening (message ++ [' '])) (h : Splits (message ++ ' ' :: block) m ps) :
    message.length ≤ m.length := by
  by_contra hlt
  -- the opening of the earlier block and what stands before it
  obtain ⟨before, rest, heq, hlast, hlength⟩ : ∃ before rest,
      message ++ ' ' :: block = before ++ opening ++ rest ∧
      (∀ c ∈ before.getLast?, isSeparator c = true) ∧ before.length ≤ message.length := by
    rcases splits_iff.1 h with ⟨_, hblock⟩ | ⟨c, b, hc, hblock, heq⟩
    · refine ⟨[], inside ps ++ [']'], ?_, by simp, Nat.zero_le _⟩
      rw [hblock.text, List.nil_append, List.append_assoc]
    · refine ⟨m ++ [c], inside ps ++ [']'], ?_, ?_, ?_⟩
      · rw [heq, hblock.text]
        simp
      · intro x hx
        rw [List.getLast?_concat] at hx
        cases hx
        exact hc
      · rw [List.length_append, List.length_singleton]
        omega
  -- the opening begins within the message
  obtain ⟨t, rfl⟩ : ∃ t, message = before ++ t := by
    rw [List.append_assoc] at heq
    obtain ⟨t, ht, _⟩ | ⟨t, ht, _⟩ := List.append_eq_append_iff.1 heq
    · have : t = [] := by
        have := congrArg List.length ht
        rw [List.length_append] at this
        exact List.eq_nil_of_length_eq_zero (by omega)
      exact ⟨[], by rw [ht, this]; simp⟩
    · exact ⟨t, ht⟩
  -- no space stands inside the word of the opening, so the space behind the message is not before its end
  have hword : opening = ['[', 'C', 'O', 'N', 'T', 'E', 'X', 'T'] ++ [' '] := rfl
  rw [List.append_assoc, List.append_assoc, hword, List.append_assoc] at heq
  obtain ⟨r, hr⟩ := exists_append_of_notMem (by decide) (List.append_cancel_left heq)
  refine unopened ⟨before, r, ?_, hlast⟩
  rw [List.append_assoc, hr, hword]
  simp

/-- **Decoding undoes encoding**: a message that holds no opening, with entries whose keys can be written and
whose scalars can be carried, reads back as it was, without a report. -/
theorem decode_encode (message : String) (md : List (String × Content)) (ne : md ≠ [])
    (distinct : (md.map (·.1)).Nodup)
    (writable : ∀ e ∈ md, e.1 ≠ "" ∧ ∀ c ∈ e.1.toList, Text.isBlank c = false ∧ c ≠ '=')
    (storable : ∀ e ∈ md, ∀ s ∈ e.2.scalars, s.IsStorable)
    (unopened : ¬HasOpening (message.toList ++ [' '])) :
    ∃ text, encode message (md.map fun e => (e.1, e.2.value)) = .ok text ∧
      decode text = ⟨[], .ok ⟨message, md.map fun e => (e.1, e.2.scalars)⟩⟩ := by
  have hkeys : ∀ e ∈ md, isKey e.1.toList = true := fun e he => isKey_iff.2 (writable e he)
  generalize hps : (md.flatMap fun e => entryPairs e.1 e.2.scalars) = ps
  have hvalues : ∀ e ∈ md, e.2.value.isWritable = true := fun e he =>
    Content.isWritable_value fun s hs => (storable e he s hs).isWritable
  have hwritten := writeEntries_value hkeys hvalues
  have hgather := gather_entries distinct (m := []) (by simp [keys]) storable
  rw [hps] at hwritten hgather
  have hpairs : ∀ p ∈ ps, p.WellFormed ∧ ∃ values, readToken p.token = .ok (values, []) := by
    intro p hp
    rw [← hps] at hp
    obtain ⟨e, he, hp⟩ := List.mem_flatMap.1 hp
    exact ⟨wellFormed_entryPairs (hkeys e he) (storable e he) p hp,
      readToken_entryPairs (storable e he) p hp⟩
  have hne : ps ≠ [] := by
    rintro rfl
    rw [gather, List.foldl_nil, List.nil_append] at hgather
    exact ne (List.map_eq_nil_iff.1 hgather.symm)
  have hblock : IsBlock (opening ++ inside ps ++ [']']) ps := ⟨hne, fun p hp => (hpairs p hp).1, rfl⟩
  refine ⟨String.ofList (message.toList ++ (if message = "" then [] else [' ']) ++ opening ++ inside ps
    ++ [']']), ?_, ?_⟩
  · rw [encode, hwritten, if_neg (by simpa using ne)]
    rfl
  · have hsplit : split? (message.toList ++ (if message = "" then [] else [' ']) ++ opening ++ inside ps
        ++ [']']) = some (message.toList, inside ps) := by
      refine split?_eq_some_iff.2 ⟨ps, ?_, rfl⟩
      have hassoc : message.toList ++ (if message = "" then [] else [' ']) ++ opening ++ inside ps ++ [']']
          = message.toList ++ (if message = "" then [] else [' '])
            ++ (opening ++ inside ps ++ [']']) := by simp
      rw [hassoc]
      by_cases hempty : message = ""
      · subst hempty
        exact ⟨⟨[], _, .start, hblock, rfl⟩, fun m _ _ => Nat.zero_le _⟩
      · rw [if_neg hempty]
        refine ⟨⟨[' '], _, .space _, hblock, rfl⟩, fun m qs h => ?_⟩
        rw [List.append_assoc, List.singleton_append] at h
        exact length_le_of_splits unopened h
    rw [decode, String.toList_ofList, hsplit]
    simp only
    rw [scan_inside fun p hp => (hpairs p hp).1, readPairs_of_silent fun p hp => (hpairs p hp).2, hgather,
      String.ofList_toList]
    rfl

/-- The message, a key and a text may look like blocks themselves. -/
theorem decode_encode_lookalikes :
    ∃ text, encode "x[CONTEXT y=1 ]" [("k", .list [.int (-9223372036854775808), .text "\"]\\\n[CONTEXT q=1 ]",
        .float (.zero true), .bool true]), ("[CONTEXT", .nothing)] = .ok text ∧
      decode text = ⟨[], .ok ⟨"x[CONTEXT y=1 ]", [("k", [.int (-9223372036854775808),
        .text "\"]\\\n[CONTEXT q=1 ]", .float (.zero true), .bool true]), ("[CONTEXT", [])]⟩⟩ := by
  refine decode_encode "x[CONTEXT y=1 ]" [("k", .list [.int (-9223372036854775808),
    .text "\"]\\\n[CONTEXT q=1 ]", .float (.zero true), .bool true]), ("[CONTEXT", .nothing)]
    (by simp) (by simp) ?_ ?_ (by decide)
  · simp [Text.isBlank]
  · simp only [List.mem_cons, List.not_mem_nil, or_false, forall_eq_or_imp, forall_eq, Content.scalars]
    exact ⟨⟨.int (by decide) (by decide), .text _, .float true _, .bool true⟩, by simp⟩

end Metadata

end LogAssay
