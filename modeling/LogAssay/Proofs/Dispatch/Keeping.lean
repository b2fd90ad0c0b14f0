import LogAssay.Proofs.Agreement.Stamping
import LogAssay.Proofs.Dispatch.Converting

/-!
# What a converted record keeps

A dispatched record has metadata in two places: in the block of its message, and among the pairs of its further data.
The captured record has both. What was decoded stands first, with its keys in their order, and each pair under a text
adds its value behind those of its key, or a new key at the end. Pairs under anything else are left out. Handlers go
by the severity of the dispatched record, which the captured one has as well, and by the test ids among all the
metadata.

## Main statements

* `hasDistinctKeys_of_ofEntries`: the keys of a mapping are distinct.
* `IsJoined.of_textEntries`: metadata with the pairs of a mapping behind it.
* `handOver_of_convert`: which handlers capture a record that is converted.
* `convert_keeps_all`: what a converted record has, and who gets it.
-/

namespace LogAssay

namespace Value

theorem text_eq_text (s t : String) : (Value.text s).eq (.text t) = (s == t) := by
  simp [eq, Scalar.eq]

end Value

/-- Every decoded key stands once. -/
theorem Metadata.nodup_keys_of_decode {s : String} {d : Decoded} (h : (decode s).outcome = .ok d) :
    d.metadata.keys.Nodup := by
  by_cases hblock : d.metadata = []
  · rw [hblock]
    exact List.nodup_nil
  · obtain ⟨m, ps, -, -, rfl⟩ := exists_splitsFirst_of_outcome h hblock
    exact nodup_keys_gather List.nodup_nil

namespace Dispatch

variable {record metadata pairs : Fields} {message : String} {now : Timestamp} {r : Record}

/-! ## Pairs -/

/-- No two keys are equal. -/
def HasDistinctKeys (pairs : Fields) : Prop := pairs.Pairwise fun a b => a.1.eq b.1 = false

/-- An inserted entry adds its own key at most. -/
theorem key_of_mem_insert {entry e : Value × Value} (h : e ∈ Value.ofEntries.insert pairs entry) :
    e.1 = entry.1 ∨ ∃ old ∈ pairs, e.1 = old.1 := by
  induction pairs with
  | nil => exact .inl (congrArg Prod.fst (List.mem_singleton.1 h))
  | cons first others ih =>
    obtain ⟨k, v⟩ := first
    unfold Value.ofEntries.insert at h
    split at h
    · rcases List.mem_cons.1 h with rfl | h
      · exact .inr ⟨(k, v), by simp, rfl⟩
      · exact .inr ⟨e, by simp [h], rfl⟩
    · rcases List.mem_cons.1 h with rfl | h
      · exact .inr ⟨(k, v), by simp, rfl⟩
      · rcases ih h with heq | ⟨old, hold, heq⟩
        · exact .inl heq
        · exact .inr ⟨old, by simp [hold], heq⟩

theorem HasDistinctKeys.insert (h : HasDistinctKeys pairs) (entry : Value × Value) :
    HasDistinctKeys (Value.ofEntries.insert pairs entry) := by
  induction pairs with
  | nil => exact List.pairwise_singleton ..
  | cons first others ih =>
    obtain ⟨k, v⟩ := first
    obtain ⟨hfirst, hothers⟩ := List.pairwise_cons.1 h
    unfold Value.ofEntries.insert
    split
    · exact List.pairwise_cons.2 ⟨hfirst, hothers⟩
    · next hne =>
      refine List.pairwise_cons.2 ⟨fun e he => ?_, ih hothers⟩
      rcases key_of_mem_insert he with heq | ⟨old, hold, heq⟩
      · rw [heq]
        exact Bool.eq_false_iff.2 hne
      · rw [heq]
        exact hfirst old hold

/-- **The keys of a mapping are distinct**, however it was made of entries. -/
theorem hasDistinctKeys_of_ofEntries {entries : Fields} (h : Value.ofEntries entries = .mapping pairs) :
    HasDistinctKeys pairs := by
  have hall : ∀ (entries : Fields) {pairs : Fields}, HasDistinctKeys pairs →
      HasDistinctKeys (entries.foldl Value.ofEntries.insert pairs) := by
    intro entries
    induction entries with
    | nil => exact fun h => h
    | cons entry others ih => exact fun h => ih (h.insert entry)
  rw [← Value.mapping.inj h]
  exact hall entries List.Pairwise.nil

theorem find?_eq_lookup (pairs : Fields) (key : String) : Value.find? pairs key = (textEntries pairs).lookup key := by
  induction pairs with
  | nil => rfl
  | cons entry others ih =>
    obtain ⟨k, v⟩ := entry
    rcases k.text_or_ne_text with ⟨s, rfl⟩ | ⟨hne, hnot⟩
    · rw [Value.find?_cons_text, textEntries_text, List.lookup_cons, ← ih]
      by_cases hs : s = key
      · rw [if_pos hs, beq_iff_eq.2 hs.symm]
      · rw [if_neg hs, beq_eq_false_iff_ne.2 (Ne.symm hs)]
    · rw [textEntries_of_ne hne, ← ih]
      unfold Value.find?
      rw [List.find?_cons, hnot]

/-- A text that is a key of a mapping is the key of one entry. -/
theorem HasDistinctKeys.nodup (h : HasDistinctKeys pairs) : ((textEntries pairs).map (·.1)).Nodup := by
  induction pairs with
  | nil => exact List.nodup_nil
  | cons entry others ih =>
    obtain ⟨k, v⟩ := entry
    obtain ⟨hfirst, hothers⟩ := List.pairwise_cons.1 h
    rcases k.text_or_ne_text with ⟨s, rfl⟩ | ⟨hne, -⟩
    · rw [textEntries_text, List.map_cons, List.nodup_cons]
      refine ⟨fun hmem => ?_, ih hothers⟩
      obtain ⟨e, he, heq⟩ := List.mem_map.1 hmem
      have hdistinct := hfirst _ (mem_textEntries.1 he)
      rw [Value.text_eq_text, beq_eq_false_iff_ne] at hdistinct
      exact hdistinct heq.symm
    · rw [textEntries_of_ne hne]
      exact ih hothers

/-! ## Joined metadata -/

/-- Metadata is some other metadata with the pairs of a mapping behind it: its own keys come first, then the new texts
in the order of the pairs, and the value of a pair is the last one of its key. -/
structure IsJoined (m : Metadata) (pairs : Fields) (joined : Metadata) : Prop where
  keys : joined.keys = m.keys ++ ((textEntries pairs).map (·.1)).filter (· ∉ m.keys)
  values : ∀ key, joined.values key = m.values key ++ ((Value.find? pairs key).map Value.widened).toList

/-- Adding entries one after the other, each under a key of its own. -/
theorem isJoined_addEntries {entries : List (String × Value)} (h : (entries.map (·.1)).Nodup) (m : Metadata) :
    (addEntries m entries).keys = m.keys ++ (entries.map (·.1)).filter (· ∉ m.keys) ∧
    ∀ key, (addEntries m entries).values key
      = m.values key ++ ((entries.lookup key).map Value.widened).toList := by
  induction entries generalizing m with
  | nil => exact ⟨(List.append_nil _).symm, fun key => (List.append_nil _).symm⟩
  | cons e others ih =>
    obtain ⟨k, v⟩ := e
    rw [List.map_cons, List.nodup_cons] at h
    obtain ⟨hkeys, hvalues⟩ := ih h.2 (m.add k [v.widened])
    rw [addEntries_cons]
    refine ⟨?_, fun key => ?_⟩
    · rw [hkeys, Metadata.keys_add, List.map_cons]
      by_cases hk : k ∈ m.keys
      · rw [if_pos hk, List.filter_cons_of_neg (by simpa using hk)]
      · -- the new key does not come again, so that the others are new as before
        have hsame : (others.map (·.1)).filter (· ∉ m.keys ++ [k]) = (others.map (·.1)).filter (· ∉ m.keys) :=
          List.filter_congr fun name hname => by
            have hne : name ≠ k := fun heq => h.1 (heq ▸ hname)
            simp [hne]
        rw [if_neg hk, hsame, List.filter_cons_of_pos (by simpa using hk), List.append_assoc, List.singleton_append]
    · rw [hvalues, Metadata.values_add, List.append_assoc, List.lookup_cons]
      by_cases hk : key = k
      · have hnone : others.lookup key = none :=
          List.lookup_eq_none_iff.2 fun e he => by
            have hne : key ≠ e.1 := fun heq => h.1 (hk.symm.trans heq ▸ List.mem_map.2 ⟨e, he, rfl⟩)
            simpa using hne
        rw [if_pos hk, beq_iff_eq.2 hk, hnone]
        rfl
      · rw [if_neg hk, beq_eq_false_iff_ne.2 hk, List.nil_append]

/-- **The pairs of a mapping stand behind what was decoded.** -/
theorem IsJoined.of_textEntries (h : HasDistinctKeys pairs) (m : Metadata) :
    IsJoined m pairs (addEntries m (textEntries pairs)) := by
  obtain ⟨hkeys, hvalues⟩ := isJoined_addEntries h.nodup m
  refine ⟨hkeys, fun key => ?_⟩
  rw [find?_eq_lookup, ← hvalues]

theorem nodup_keys_addEntries (entries : List (String × Value)) : ∀ {m : Metadata}, m.keys.Nodup →
    (addEntries m entries).keys.Nodup := by
  induction entries with
  | nil => exact fun h => h
  | cons e others ih => exact fun h => ih (Metadata.nodup_keys_add h e.1 [e.2.widened])

/-! ## Handlers -/

/-- What a handler captures of a record that is converted. -/
theorem capture_of_convert (hr : (convert now record).outcome = .ok r) (gate : Gate) :
    (gate.capture now record).outcome
      = .ok (if gate.least ≤ severity record ∧ TestId.accepts r.metadata gate.testId then some r else none) := by
  rw [gate.capture_eq]
  by_cases hreached : gate.least ≤ severity record
  · simp only [hreached, true_and, Reported.andThen, hr]
    rfl
  · simp only [hreached, false_and]
    rfl

/-- **Handlers that a converted record reaches** capture it one after the other. -/
theorem handOver_of_convert (hr : (convert now record).outcome = .ok r) (handlers : List Handler) :
    (Hub.handOver now record handlers).failure = none ∧
    (Hub.handOver now record handlers).captured =
      (handlers.filter fun h => h.least ≤ severity record ∧ TestId.accepts r.metadata h.testId).map
        fun h => (h.collector, r) := by
  induction handlers with
  | nil => exact ⟨rfl, rfl⟩
  | cons h others ih =>
    unfold Hub.handOver
    simp only [capture_of_convert hr h.toGate, ih.1, ih.2, true_and]
    by_cases hpasses : h.least ≤ severity record ∧ TestId.accepts r.metadata h.testId = true
    · rw [if_pos hpasses, List.filter_cons_of_pos (by simpa using hpasses)]
      rfl
    · rw [if_neg hpasses, List.filter_cons_of_neg (by simpa using hpasses)]
      rfl

/-! ## Conversion -/

/-- A record that is converted has a mapping for its further data, if it has any. -/
theorem exists_parts_of_convert (hmessage : (Value.find? record "message").getD (.text "") = .text message)
    (hr : (convert now record).outcome = .ok r) : ∃ metadata, Parts record message metadata := by
  unfold convert at hr
  rw [hmessage] at hr
  obtain ⟨decoded, -, hr⟩ := exists_ok_of_bind hr
  obtain ⟨metadata, hmetadata, -⟩ := exists_ok_of_bind hr
  refine ⟨metadata, hmessage, ?_⟩
  unfold fieldsOf at hmetadata
  split at hmetadata
  · next entries heq => rw [heq, Except.ok.inj hmetadata]
  · cases hmetadata

theorem Parts.metadata_unique {other : Fields} (h : Parts record message metadata) (h' : Parts record message other) :
    metadata = other :=
  Value.mapping.inj (h.metadata_eq.symm.trans h'.metadata_eq)

/-- **A converted record keeps everything.** Whenever a record with a text for its message is converted, its further
data are a mapping, its message is the decoded one, and its severity that of the dispatched record. Every key stands
once in its metadata: the decoded keys in their order, then the texts among the keys of the pairs that are new, in
theirs; and the values of a key are the decoded ones and behind them the value of its pair, if there is one, as a
scalar. A handler captures the record exactly if its severity is not below what the handler captures and the handler's
test accepts all the metadata, and no handler fails. -/
theorem convert_keeps_all (hmessage : (Value.find? record "message").getD (.text "") = .text message)
    (hdistinct : ∀ metadata, Parts record message metadata → HasDistinctKeys (pairsOf metadata))
    (hr : (convert now record).outcome = .ok r) : ∃ metadata decoded,
      Parts record message metadata ∧ (Metadata.decode message).outcome = .ok decoded ∧
      r.message = decoded.message ∧ r.severity = severity record ∧
      r.metadata.keys.Nodup ∧ IsJoined decoded.metadata (pairsOf metadata) r.metadata ∧
      ∀ handlers, (Hub.handOver now record handlers).failure = none ∧
        (Hub.handOver now record handlers).captured =
          (handlers.filter fun h => h.least ≤ severity record ∧ TestId.accepts r.metadata h.testId).map
            fun h => (h.collector, r) := by
  obtain ⟨metadata, hparts⟩ := exists_parts_of_convert hmessage hr
  obtain ⟨decoded, t, v, hdecoded, -, -, -, -, rfl⟩ := hparts.convert_ok_iff.1 hr
  exact ⟨metadata, decoded, hparts, hdecoded, rfl, rfl,
    nodup_keys_addEntries _ (Metadata.nodup_keys_of_decode hdecoded), .of_textEntries (hdistinct metadata hparts) _,
    handOver_of_convert hr⟩

/-- Pairs under a text, a number, and another text. -/
def mixedPairs : Fields := [(.text "a", .list [.int 1]), (.int 5, .text "x"), (.text "c", .nothing)]

/-- A record whose message has one of the keys of its pairs. -/
def colliding : Fields :=
  (.text "message", .text "hi [CONTEXT a=1 b ]") :: bare [(.text "key_values", .mapping mixedPairs)]

theorem convert_keeps_all_colliding : HasDistinctKeys mixedPairs ∧ ∃ r, (convert ⟨0⟩ colliding).outcome = .ok r ∧
    r.message = "hi" ∧ r.metadata.keys = ["a", "b", "c"] ∧ r.metadata.values "a" = [.int 1, .text "[1]"] ∧
    r.metadata.values "b" = [] ∧ r.metadata.values "c" = [.text "None"] := by
  have hparts : Parts colliding "hi [CONTEXT a=1 b ]" [(.text "key_values", .mapping mixedPairs)] :=
    ⟨by simp [colliding], by simp [colliding, bare]⟩
  have hpairs : pairsOf [(.text "key_values", .mapping mixedPairs)] = mixedPairs := by simp [pairsOf]
  have hmapping : Value.ofEntries mixedPairs = .mapping mixedPairs := by
    simp [mixedPairs, Value.ofEntries, Value.ofEntries.insert, Value.eq, Scalar.eq, Scalar.quantity?]
  have hdistinct := hasDistinctKeys_of_ofEntries hmapping
  have hdecode : (Metadata.decode "hi [CONTEXT a=1 b ]").outcome = .ok ⟨"hi", [("a", [.int 1]), ("b", [])]⟩ :=
    eq_ok_of_toOption (by decide +kernel)
  have hwidened : ∀ key v, (Value.text key, v) ∈ mixedPairs → v.isWidened = true := by
    intro key v hv
    have hone : key = "a" ∧ v = .list [.int 1] ∨ key = "c" ∧ v = .nothing := by simpa [mixedPairs] using hv
    rcases hone with ⟨-, rfl⟩ | ⟨-, rfl⟩
    all_goals decide +kernel
  have hconverts : ∃ r, (convert ⟨0⟩ colliding).outcome = .ok r :=
    hparts.exists_convert_ok_iff.2 ⟨⟨_, hdecode⟩, by simp [colliding, bare], ⟨⟨0⟩, by simp [time]⟩,
      ⟨.nothing, by simp [thread]⟩, hpairs.symm ▸ hwidened⟩
  obtain ⟨r, hr⟩ := hconverts
  obtain ⟨metadata, decoded, hparts', hdecode', hmessage, -, -, hjoined, -⟩ := convert_keeps_all hparts.message_eq
    (fun metadata h => by rwa [← hparts.metadata_unique h, hpairs]) hr
  obtain rfl := hparts.metadata_unique hparts'
  obtain rfl := Except.ok.inj (hdecode.symm.trans hdecode')
  rw [hpairs] at hjoined
  refine ⟨hdistinct, r, hr, hmessage, hjoined.keys, ?_, ?_, ?_⟩
  all_goals
    rw [hjoined.values, find?_eq_lookup]
    decide +kernel

end Dispatch

end LogAssay
