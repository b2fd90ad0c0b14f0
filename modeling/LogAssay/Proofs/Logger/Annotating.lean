import LogAssay.Logger.Tree
import LogAssay.Proofs.Metadata.Writing

/-!
# Tags by text and by context

A tag reaches a captured record in one of two ways. In the text, it is written into a block, read again, and then
recognised among the tags in force as one that the record has already. By the context alone, it is stamped on
metadata that does not have it yet. A message that opens no block gives the same record in both ways.

## Main statements

* `stamp_of_fresh` and `stamp_of_holds`: what stamping adds, and when it adds nothing.
* `captured_annotated`: an event is captured alike whether or not its message was given the tags before.
-/

namespace LogAssay

/-! ## Agreement -/

/-- A number less itself is zero. -/
theorem Binary64.sub_self (negative : Bool) {units : Nat} (h : Representable units) :
    (finite negative units h).sub (finite negative units h) = zero false := by
  have hzero := ofUnits_mul_self (u := 0) false ⟨⟨0, 0, by decide, by simp⟩, limit_pos⟩ Nat.one_pos
  rw [Nat.zero_mul] at hzero
  simp only [sub, Int.sub_self, if_pos, Bool.and_not_self, Int.natAbs_zero, hzero, zero]

theorem Value.agrees_float (x y : Binary64) :
    (Value.float x).agrees (.float y) = .ok ((Quantity.float (x.sub y).abs).lt (.float tolerance)) := rfl

/-- **A scalar that can be carried agrees with itself.** -/
theorem Scalar.IsStorable.agrees_self {s : Scalar} (h : s.IsStorable) :
    (Value.scalar s).agrees (.scalar s) = .ok true := by
  cases h with
  | bool b => simp [Value.agrees]
  | int lower upper => simp [Value.agrees, Value.number?, Quantity.eq, Quantity.place?]
  | text s => rw [Value.agrees_text, decide_eq_true rfl]
  | float negative h =>
    have hnear : (Quantity.float (Binary64.zero false).abs).lt (.float Value.tolerance) = true := by
      decide +kernel
    rw [Value.agrees_float, Binary64.sub_self, hnear]

/-! ## Stamping -/

namespace Metadata

/-- A key that is not there has no values. -/
theorem values_of_notMem {m : Metadata} {key : String} (h : key ∉ m.keys) : m.values key = [] := by
  have hnone : m.lookup key = none := List.lookup_eq_none_iff.2 fun e he => by
    have : e.1 ≠ key := fun heq => h (heq ▸ List.mem_map_of_mem he)
    simpa using Ne.symm this
  rw [values, values?, hnone]
  rfl

/-- A key that stands once has the values of its entry. -/
theorem values_of_mem {m : Metadata} (distinct : m.keys.Nodup) {key : String} {vs : List Scalar}
    (h : (key, vs) ∈ m) : m.values key = vs := by
  induction m with
  | nil => cases h
  | cons e others ih =>
    rw [keys, List.map_cons, List.nodup_cons] at distinct
    rcases List.mem_cons.1 h with rfl | h
    · simp [values, values?]
    · have hne : key ≠ e.1 := fun heq => distinct.1 (heq ▸ List.mem_map_of_mem h)
      rw [← ih distinct.2 h, values, values?, List.lookup_cons, beq_false_of_ne hne]
      rfl

end Metadata

namespace Tags

open Metadata (inForce Carriable)

theorem stampOne_of_notMem {m : Metadata} {key : String} (h : key ∉ m.keys) (s : Scalar) :
    stampOne m key (.scalar s) = .ok (m ++ [(key, [s])]) := by
  rw [stampOne, Metadata.values_of_notMem h]
  show Except.ok (m.add key [s]) = _
  rw [Metadata.add_of_notMem h]

theorem stampOne_of_holds {m : Metadata} {key : String} {s : Scalar} (storable : s.IsStorable)
    (h : m.values key = [s]) : stampOne m key (.scalar s) = .ok m := by
  rw [stampOne, h, Scalar.anyAgrees, storable.agrees_self]
  rfl

theorem stamp_inForce_cons {t : String × Scalar} {m m' : Metadata} (tags : List (String × Scalar))
    (h : stampOne m t.1 (.scalar t.2) = .ok m') :
    stamp m (inForce (t :: tags)) = stamp m' (inForce tags) := by
  show (stampOne m t.1 (.scalar t.2) >>= fun m => stamp m (inForce tags)) = _
  rw [h]
  rfl

/-- Distinct tags whose keys are not there come behind what is there. -/
theorem stamp_of_fresh : ∀ {tags : List (String × Scalar)} {m : Metadata}, (tags.map (·.1)).Nodup →
    (∀ t ∈ tags, t.1 ∉ m.keys) → stamp m (inForce tags) = .ok (m ++ tags.map fun t => (t.1, [t.2]))
  | [], m, _, _ => by
    rw [List.map_nil, List.append_nil]
    rfl
  | t :: tags, m, distinct, fresh => by
    rw [List.map_cons, List.nodup_cons] at distinct
    have hrest := Metadata.notMem_keys_concat distinct.1 (fun u hu => fresh u (by simp [hu])) [t.2]
    rw [stamp_inForce_cons tags (stampOne_of_notMem (fresh t (by simp)) t.2), stamp_of_fresh distinct.2 hrest,
      List.append_assoc, List.singleton_append, List.map_cons]

/-- Nothing comes to metadata that holds the tags already. -/
theorem stamp_of_holds : ∀ {tags : List (String × Scalar)} {m : Metadata}, (∀ t ∈ tags, t.2.IsStorable) →
    (∀ t ∈ tags, m.values t.1 = [t.2]) → stamp m (inForce tags) = .ok m
  | [], _, _, _ => rfl
  | t :: tags, m, storable, holds => by
    rw [stamp_inForce_cons tags (stampOne_of_holds (storable t (by simp)) (holds t (by simp))),
      stamp_of_holds (fun u hu => storable u (by simp [hu])) fun u hu => holds u (by simp [hu])]

/-- **Stamping tags comes to the same whether the metadata is empty or holds them already.** -/
theorem stamp_inForce {tags : List (String × Scalar)} (h : Carriable tags) :
    stamp [] (inForce tags) = .ok (tags.map fun t => (t.1, [t.2])) ∧
      stamp (tags.map fun t => (t.1, [t.2])) (inForce tags) = .ok (tags.map fun t => (t.1, [t.2])) := by
  refine ⟨stamp_of_fresh h.distinct (by simp [Metadata.keys]), stamp_of_holds h.storable fun t ht => ?_⟩
  refine Metadata.values_of_mem ?_ (List.mem_map_of_mem ht)
  simpa [Metadata.keys, Function.comp_def] using h.distinct

end Tags

/-! ## Messages -/

namespace Metadata

/-- **A message that opens no block, given tags, decodes to itself and to the tags**, without a report. -/
theorem Carriable.decode {tags : List (String × Scalar)} (h : Carriable tags) (ne : tags ≠ [])
    {text : String} (unopened : ¬HasOpening (text.toList ++ [' '])) :
    Metadata.decode (String.ofList (written text.toList (tagPairs tags)))
      = ⟨[], .ok ⟨text, tags.map fun t => (t.1, [t.2])⟩⟩ := by
  have hfirst := splitsFirst_written (tagPairs_ne_nil ne) h.wellFormed_tagPairs unopened
  rw [← String.toList_ofList (l := written _ _)] at hfirst
  rw [decode_of_splitsFirst hfirst, readPairs_of_silent h.readToken_tagPairs,
    h.gather_tagPairs (by simp [keys]), String.ofList_toList]
  rfl

end Metadata

/-! ## Events -/

namespace Event

/-- The event with another message. -/
def withMessage (e : Event) (message : Tags.Message) : Event := { e with message := message }

/-- An event whose message reads without a report is completed by what was read. -/
theorem convert_of_silent {e : Event} {text : String} {d : Metadata.Decoded}
    (rendered : e.message.text = .ok text) (h : Metadata.decode text = ⟨[], .ok d⟩) (tags : Tags) :
    e.convert tags = ⟨[], e.complete tags d⟩ := by
  rw [convert, rendered]
  show (Metadata.decode text).andThen _ = _
  rw [h]
  rfl

/-- Of the metadata that was read, only what stamping makes of it goes into a record. -/
theorem complete_congr {tags : Tags} {text : String} {m m' : Metadata}
    (h : Tags.stamp m tags = Tags.stamp m' tags) (e : Event) :
    e.complete tags ⟨text, m⟩ = e.complete tags ⟨text, m'⟩ := by
  rw [complete, complete, h]

/-- An event whose time is on the clock is completed, with the message that was read and the stamped metadata. -/
theorem exists_complete {tags : Tags} (text : String) {m stamped : Metadata} {e : Event} {time : Timestamp}
    (clock : Timestamp.ofSeconds e.created = .ok time) (h : Tags.stamp m tags = .ok stamped) :
    ∃ r, e.complete tags ⟨text, m⟩ = .ok r ∧ r.message = text ∧ r.metadata = stamped := by
  rw [complete, clock, h]
  exact ⟨_, rfl, rfl, rfl⟩

end Event

namespace LoggerTree

variable {tags : Tags} {e : Event} {message : Tags.Message}

/-- Handlers see of a message what it converts to, and no more. -/
theorem receive_of_convert (h : (e.withMessage message).convert tags = e.convert tags) (latches : Site.Latches)
    (handler : Handler) : receive tags (e.withMessage message) latches handler = receive tags e latches handler := by
  rw [receive, h]
  rfl

theorem receiveAll_of_convert (h : (e.withMessage message).convert tags = e.convert tags) :
    ∀ (handlers : List Handler) (latches : Site.Latches),
      receiveAll tags (e.withMessage message) latches handlers = receiveAll tags e latches handlers
  | [], _ => rfl
  | handler :: others, latches => by
    rw [receiveAll, receive_of_convert h, receiveAll_of_convert h others]
    rfl

theorem log_of_convert (h : (e.withMessage message).convert tags = e.convert tags) (t : LoggerTree)
    (latches : Site.Latches) (name : String) :
    t.log tags latches name (e.withMessage message) = t.log tags latches name e := by
  show (if t.isOpen name e.level then receiveAll tags (e.withMessage message) latches (t.takers name e.level)
    else _) = _
  rw [receiveAll_of_convert h]
  rfl

end LoggerTree

open Metadata (inForce Carriable HasOpening)

/-- **An event is captured alike whether or not its message was given the tags before**, if the message opens no
block: in every tree the same goes to every handler, and if the time of the event is on the clock, it is a record
with the message and with every tag alone under its key. The message that was given the tags reads as it was
written, whatever percent signs it holds. -/
theorem captured_annotated (tags : List (String × Scalar)) (carriable : Carriable tags) (e : Event)
    (text : String) (rendered : e.message.text = .ok text) (unopened : ¬HasOpening (text.toList ++ [' '])) :
    ∃ message annotated, Tags.annotate (inForce tags) e.message = .ok message ∧
      Metadata.encode text (inForce tags) = .ok annotated ∧ message.text = .ok annotated ∧
      (∀ (t : LoggerTree) (latches : Site.Latches) (name : String),
        t.log (inForce tags) latches name (e.withMessage message) = t.log (inForce tags) latches name e) ∧
      (∀ (latches : Site.Latches) (handler : Handler),
        LoggerTree.receive (inForce tags) (e.withMessage message) latches handler
          = LoggerTree.receive (inForce tags) e latches handler) ∧
      ∀ time, Timestamp.ofSeconds e.created = .ok time →
        ∃ r, ((e.withMessage message).convert (inForce tags)).outcome = .ok r ∧
          (e.convert (inForce tags)).outcome = .ok r ∧ r.message = text ∧
          r.metadata = tags.map fun t => (t.1, [t.2]) := by
  obtain ⟨hempty, hheld⟩ := Tags.stamp_inForce carriable
  have hplain := Event.convert_of_silent rendered (Metadata.decode_of_unopened unopened) (inForce tags)
  -- the message that was given the tags, and what the event with it converts to
  obtain ⟨message, annotated, hannotate, hencode, htext, hconvert⟩ : ∃ message annotated,
      Tags.annotate (inForce tags) e.message = .ok message ∧
      Metadata.encode text (inForce tags) = .ok annotated ∧ message.text = .ok annotated ∧
      (e.withMessage message).convert (inForce tags) = e.convert (inForce tags) := by
    by_cases ne : tags = []
    · subst ne
      exact ⟨e.message, text, rfl, rfl, rendered, rfl⟩
    · refine ⟨_, _, carriable.annotate ne rendered, carriable.encode ne text, rfl, ?_⟩
      rw [Event.convert_of_silent (e := e.withMessage _) rfl (carriable.decode ne unopened), hplain]
      exact congrArg _ (e.complete_congr (hheld.trans hempty.symm))
  refine ⟨message, annotated, hannotate, hencode, htext, LoggerTree.log_of_convert hconvert,
    LoggerTree.receive_of_convert hconvert, fun time clock => ?_⟩
  obtain ⟨r, hr, hmessage, hmetadata⟩ := Event.exists_complete text clock hempty
  have houtcome : (e.convert (inForce tags)).outcome = .ok r := by rw [hplain, hr]
  exact ⟨r, by rw [hconvert, houtcome], houtcome, hmessage, hmetadata⟩

/-- Percent signs, quotation marks, a negative zero, and what would open a block at the start of a word. -/
theorem captured_annotated_percent : ∃ (e : Event) (message : Tags.Message) (r : Record),
    e.message = ⟨.text "50%% of %s", .listed [.text "x[CONTEXT"]⟩ ∧
    Tags.annotate (inForce [("%d", .text "100%s \" ]"), ("n", .float (.zero true))]) e.message = .ok message ∧
    message.text = .ok "50% of x[CONTEXT [CONTEXT %d=\"100%s \\\" ]\" n=-0.0 ]" ∧
    ((e.withMessage message).convert (inForce [("%d", .text "100%s \" ]"), ("n", .float (.zero true))])).outcome
      = .ok r ∧
    (e.convert (inForce [("%d", .text "100%s \" ]"), ("n", .float (.zero true))])).outcome = .ok r ∧
    r.message = "50% of x[CONTEXT" ∧
    r.metadata = [("%d", [.text "100%s \" ]"]), ("n", [.float (.zero true)])] := by
  have carriable : Carriable [("%d", .text "100%s \" ]"), ("n", .float (.zero true))] := by
    refine ⟨by decide, ?_, ?_⟩
    · simp [Text.isBlank]
    · simp only [List.mem_cons, List.not_mem_nil, or_false, forall_eq_or_imp, forall_eq]
      exact ⟨.text _, .float true _⟩
  have hencode : Metadata.encode "50% of x[CONTEXT"
      (inForce [("%d", .text "100%s \" ]"), ("n", .float (.zero true))])
        = .ok "50% of x[CONTEXT [CONTEXT %d=\"100%s \\\" ]\" n=-0.0 ]" := eq_ok_of_toOption (by decide +kernel)
  obtain ⟨message, annotated, hannotate, hannotated, htext, -, -, hrecord⟩ := captured_annotated _ carriable
    { level := 20, message := ⟨.text "50%% of %s", .listed [.text "x[CONTEXT"]⟩, module := none,
      qualifiedName := none, created := .zero false, thread := .nothing }
    "50% of x[CONTEXT" (eq_ok_of_toOption (by decide +kernel)) (by decide)
  obtain ⟨r, hr⟩ := hrecord _ rfl
  rw [hencode] at hannotated
  rw [← Except.ok.inj hannotated] at htext
  exact ⟨_, message, r, rfl, hannotate, htext, hr⟩

end LogAssay
