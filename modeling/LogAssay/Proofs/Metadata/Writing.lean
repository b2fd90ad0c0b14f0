import LogAssay.Proofs.Metadata.Failing
import LogAssay.Proofs.Metadata.Roundtrip
import LogAssay.Tags

/-!
# Messages with a block behind them

What encoding writes is the message and behind it a block of the grammar, whatever the entries hold. If the
message opens no block, this is the block that is found, and its pairs are read. The tags that a message is
given are written in this way too.
-/

namespace LogAssay

/-- A result whose value can be compared is found by computing it. -/
theorem eq_ok_of_toOption {α : Type} {x : Except Fault α} {a : α} (h : x.toOption = some a) : x = .ok a := by
  cases x with
  | error fault => cases h
  | ok found => rw [Option.some.inj h]

namespace Metadata

/-- A message and behind it a block of some pairs. -/
def written (message : List Char) (ps : List Pair) : List Char :=
  message ++ (if message = [] then [] else [' ']) ++ (opening ++ inside ps ++ [']'])

theorem written_of_ne_nil {message : List Char} (h : message ≠ []) (ps : List Pair) :
    written message ps = message ++ ' ' :: (opening ++ inside ps ++ [']']) := by
  rw [written, if_neg h, List.append_assoc, List.singleton_append]

/-- The pairs that entries are written as. -/
def entriesPairs (md : List (String × Content)) : List Pair :=
  md.flatMap fun e => entryPairs e.1 e.2.scalars

/-- **Entries whose keys and values can be written are written as a block behind the message.** -/
theorem encode_entries (message : String) {md : List (String × Content)} (ne : md ≠ [])
    (hkeys : ∀ e ∈ md, isKey e.1.toList = true) (hvalues : ∀ e ∈ md, e.2.value.isWritable = true) :
    encode message (md.map fun e => (e.1, e.2.value))
      = .ok (String.ofList (written message.toList (entriesPairs md))) := by
  have hempty : message = "" ↔ message.toList = [] := by simp
  rw [encode, if_neg (by simpa using ne), writeEntries_value hkeys hvalues, written, entriesPairs]
  simp only [Except.map, hempty, List.append_assoc]

theorem entriesPairs_ne_nil {md : List (String × Content)} (ne : md ≠ []) : entriesPairs md ≠ [] := by
  obtain ⟨e, others, rfl⟩ := List.exists_cons_of_ne_nil ne
  rw [entriesPairs, List.flatMap_cons]
  cases h : e.2.scalars <;> simp [entryPairs]

/-- The pairs of entries are those of the grammar if their tokens are. -/
theorem wellFormed_entriesPairs {md : List (String × Content)} (hkeys : ∀ e ∈ md, isKey e.1.toList = true)
    (h : ∀ e ∈ md, ∀ s ∈ e.2.scalars, (tokenOf s).WellFormed) : ∀ p ∈ entriesPairs md, p.WellFormed := by
  intro p hp
  obtain ⟨e, he, hp⟩ := List.mem_flatMap.1 hp
  exact wellFormed_entryPairs_of_tokens (hkeys e he) (h e he) p hp

/-- The tokens of entries are bare or those of their scalars. -/
theorem token_of_mem_entriesPairs {md : List (String × Content)} {p : Pair} (hp : p ∈ entriesPairs md) :
    p.token = .bare ∨ ∃ e ∈ md, ∃ s ∈ e.2.scalars, p.token = tokenOf s := by
  obtain ⟨e, he, hp⟩ := List.mem_flatMap.1 hp
  cases hscalars : e.2.scalars with
  | nil =>
    rw [hscalars, entryPairs, List.mem_singleton] at hp
    exact .inl (by rw [hp])
  | cons s others =>
    rw [hscalars] at hp
    obtain ⟨x, hx, rfl⟩ := List.mem_map.1 hp
    exact .inr ⟨e, he, x, hscalars ▸ hx, rfl⟩

theorem splits_written {message : List Char} {ps : List Pair} (ne : ps ≠ []) (h : ∀ p ∈ ps, p.WellFormed) :
    Splits (written message ps) message ps := by
  unfold written
  split
  · next hempty => exact ⟨[], _, hempty ▸ .start, ⟨ne, h, rfl⟩, rfl⟩
  · exact ⟨[' '], _, .space _, ⟨ne, h, rfl⟩, rfl⟩

/-- **The block behind a message that opens none is the one that is found.** -/
theorem splitsFirst_written {message : List Char} {ps : List Pair} (ne : ps ≠ [])
    (h : ∀ p ∈ ps, p.WellFormed) (unopened : ¬HasOpening (message ++ [' '])) :
    SplitsFirst (written message ps) message ps := by
  refine ⟨splits_written ne h, fun m qs hsplits => ?_⟩
  by_cases hempty : message = []
  · rw [hempty]
    exact Nat.zero_le _
  · rw [written_of_ne_nil hempty] at hsplits
    exact length_le_of_splits unopened hsplits

/-- A text with a block has an opening. -/
theorem Splits.hasOpening {s m : List Char} {ps : List Pair} (h : Splits s m ps) : HasOpening (s ++ [' ']) := by
  obtain ⟨separator, block, hsep, hblock, rfl⟩ := h
  refine ⟨m ++ separator, inside ps ++ [']'] ++ [' '], by simp [hblock.text], fun c hc => ?_⟩
  cases hsep with
  | space | newline =>
    rw [List.getLast?_concat] at hc
    cases hc
    decide
  | start => cases hc

/-- A message that opens no block decodes to itself. -/
theorem decode_of_unopened {s : String} (unopened : ¬HasOpening (s.toList ++ [' '])) :
    decode s = ⟨[], .ok ⟨s, []⟩⟩ :=
  decode_of_not_splits fun _ _ h => unopened h.hasOpening

/-! ## Tags -/

/-- Tags that a message can carry: each key stands once and can be written, and each value can be carried. -/
structure Carriable (tags : List (String × Scalar)) : Prop where
  distinct : (tags.map (·.1)).Nodup
  writable : ∀ t ∈ tags, t.1 ≠ "" ∧ ∀ c ∈ t.1.toList, Text.isBlank c = false ∧ c ≠ '='
  storable : ∀ t ∈ tags, t.2.IsStorable

/-- The pairs that tags are written as. -/
def tagPairs (tags : List (String × Scalar)) : List Pair := tags.map fun t => ⟨t.1.toList, tokenOf t.2⟩

/-- Tags are entries of one scalar each. -/
theorem tagPairs_eq (tags : List (String × Scalar)) :
    tagPairs tags = entriesPairs (tags.map fun t => (t.1, .one t.2)) := by
  simp [tagPairs, entriesPairs, List.flatMap_map, Content.scalars, entryPairs, ← List.map_eq_flatMap]

/-- The tags as they are in force. -/
def inForce (tags : List (String × Scalar)) : Tags := tags.map fun t => (t.1, .scalar t.2)

theorem tagPairs_ne_nil {tags : List (String × Scalar)} (ne : tags ≠ []) : tagPairs tags ≠ [] := by
  simpa [tagPairs] using ne

namespace Carriable

variable {tags : List (String × Scalar)} (h : Carriable tags)
include h

theorem wellFormed_tagPairs : ∀ p ∈ tagPairs tags, p.WellFormed := by
  intro p hp
  obtain ⟨t, ht, rfl⟩ := List.mem_map.1 hp
  obtain ⟨hne, hchars⟩ := h.writable t ht
  exact ⟨by simpa using hne, hchars, wellFormed_tokenOf (h.storable t ht)⟩

/-- Every tag is read as it was, without a report. -/
theorem readToken_tagPairs : ∀ p ∈ tagPairs tags, ∃ values, readToken p.token = .ok (values, []) := by
  intro p hp
  obtain ⟨t, ht, rfl⟩ := List.mem_map.1 hp
  exact ⟨[t.2], readToken_tokenOf (h.storable t ht)⟩

/-- Distinct tags are gathered as they were, behind metadata that has none of their keys. -/
theorem gather_tagPairs {m : Metadata} (fresh : ∀ t ∈ tags, t.1 ∉ m.keys) :
    gather m (tagPairs tags) = m ++ tags.map fun t => (t.1, [t.2]) := by
  rw [tagPairs_eq, entriesPairs, gather_entries]
  · simp [Content.scalars]
  · simpa [Function.comp_def] using h.distinct
  · exact List.forall_mem_map.2 fresh
  · exact List.forall_mem_map.2 fun t ht => List.forall_mem_singleton.2 (h.storable t ht)

/-- **Tags are written as a block behind the message.** -/
theorem encode (ne : tags ≠ []) (message : String) :
    Metadata.encode message (inForce tags)
      = .ok (String.ofList (written message.toList (tagPairs tags))) := by
  have hkeys : ∀ e ∈ tags.map fun t => (t.1, Content.one t.2), isKey e.1.toList = true :=
    List.forall_mem_map.2 fun t ht => isKey_iff.2 (h.writable t ht)
  have hvalues : ∀ e ∈ tags.map fun t => (t.1, Content.one t.2), e.2.value.isWritable = true :=
    List.forall_mem_map.2 fun t ht => (h.storable t ht).isWritable
  have hencode := encode_entries message (by simpa using ne) hkeys hvalues
  rw [← tagPairs_eq, List.map_map] at hencode
  exact hencode

/-- A message that is given tags holds its text, the block of the tags behind it, and no arguments. -/
theorem annotate (ne : tags ≠ []) {m : Tags.Message} {text : String} (rendered : m.text = .ok text) :
    Tags.annotate (inForce tags) m
      = .ok ⟨.text (String.ofList (written text.toList (tagPairs tags))), .none⟩ := by
  have hsome : (inForce tags).isEmpty = false := by simpa [inForce] using ne
  rw [Tags.annotate, hsome, rendered]
  show (Metadata.encode text (inForce tags) >>= _) = _
  rw [h.encode ne]
  rfl

end Carriable

end Metadata

end LogAssay
