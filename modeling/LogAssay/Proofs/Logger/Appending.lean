import LogAssay.Proofs.Capture.Scopes
import LogAssay.Proofs.Metadata.Writing

/-!
# Tags appended to messages

The tags in force are appended to a message as a block, whoever has set them and whatever their values are, unless one
of their keys or values cannot be written. Setting a tag does not ask for that: a scope takes tags with any keys. So a
message is only refused when it is given the tags, and then each one is, until the scope is left.

## Main statements

* `Metadata.writeEntries_eq`: entries are written unless one cannot be, and the first of these is told.
* `Tags.mem_keys_foldl_within`: the keys in force are those that the scopes set.
* `Tags.annotated_iff`: which messages are given the tags in force, and how they begin.
-/

namespace LogAssay

/-! ## Entries -/

namespace Metadata

/-- What prevents an entry from being written: its key, or else its value. -/
def refusal? (e : String × Value) : Option Fault :=
  if isKey e.1.toList then if e.2.isWritable then none else some .unwritable else some (.metadataKey e.1)

theorem refusal?_eq_none_iff {e : String × Value} :
    refusal? e = none ↔ isKey e.1.toList = true ∧ e.2.isWritable = true := by
  unfold refusal?
  split_ifs with hkey hvalue <;> simp [*]

/-- What prevents the first entry that cannot be written from being it. -/
def firstRefusal? (entries : List (String × Value)) : Option Fault := entries.findSome? refusal?

theorem firstRefusal?_eq_none_iff {entries : List (String × Value)} :
    firstRefusal? entries = none ↔
      (∀ key ∈ entries.map (·.1), isKey key.toList = true) ∧ ∀ e ∈ entries, e.2.isWritable = true := by
  simp only [firstRefusal?, List.findSome?_eq_none_iff, refusal?_eq_none_iff, List.forall_mem_map, forall_and]

theorem writeEntries_cons (e : String × Value) (others : List (String × Value)) :
    writeEntries (e :: others) = match refusal? e with
      | some fault => .error fault
      | none => (writeEntries others).map (writeEntry e.1.toList e.2 ++ ·) := by
  rw [writeEntries, refusal?]
  split_ifs <;> rfl

/-- **Entries are written** up to the first one that cannot be. -/
theorem writeEntries_eq (entries : List (String × Value)) :
    writeEntries entries = match firstRefusal? entries with
      | some fault => .error fault
      | none => .ok (entries.flatMap fun e => writeEntry e.1.toList e.2) := by
  induction entries with
  | nil => rfl
  | cons e others ih =>
    rw [writeEntries_cons, ih]
    unfold firstRefusal?
    rw [List.findSome?_cons]
    cases refusal? e with
    | some fault => rfl
    | none =>
      simp only
      cases others.findSome? refusal? with
      | some fault => rfl
      | none => rfl

end Metadata

namespace Tags

/-! ## Keys in force -/

theorem mem_keys_put (tags : Tags) (key : String) (value : Value) (other : String) :
    other ∈ (tags.put key value).map (·.1) ↔ other ∈ tags.map (·.1) ∨ other = key := by
  rw [keys_put]
  split
  · next h => exact ⟨.inl, fun hor => hor.elim id fun heq => heq ▸ h⟩
  · rw [List.mem_append, List.mem_singleton]

theorem mem_keys_within (key : String) : ∀ (inner outer : Tags),
    key ∈ (outer.within inner).map (·.1) ↔ key ∈ outer.map (·.1) ∨ key ∈ inner.map (·.1)
  | [], outer => by simp [within]
  | (k, v) :: inner, outer => by
    have hrest := mem_keys_within key inner (outer.put k v)
    rw [mem_keys_put] at hrest
    rw [List.map_cons, List.mem_cons, ← or_assoc]
    exact hrest

/-- **The keys in force** are those that the scopes set. -/
theorem mem_keys_foldl_within (key : String) : ∀ (scopes : List Tags) (outer : Tags),
    key ∈ (scopes.foldl within outer).map (·.1) ↔
      key ∈ outer.map (·.1) ∨ ∃ scope ∈ scopes, key ∈ scope.map (·.1)
  | [], outer => by simp
  | scope :: scopes, outer => by
    rw [List.foldl_cons, mem_keys_foldl_within key scopes, mem_keys_within, or_assoc]
    simp only [List.mem_cons, exists_eq_or_imp]

theorem forall_keys_foldl_within {P : String → Prop} {scopes : List Tags} :
    (∀ key ∈ (scopes.foldl within []).map (·.1), P key) ↔ ∀ scope ∈ scopes, ∀ t ∈ scope, P t.1 := by
  simp only [mem_keys_foldl_within, List.map_nil, List.not_mem_nil, false_or]
  constructor
  · intro h scope hscope t ht
    exact h t.1 ⟨scope, hscope, List.mem_map_of_mem ht⟩
  · rintro h key ⟨scope, hscope, hkey⟩
    obtain ⟨t, ht, rfl⟩ := List.mem_map.1 hkey
    exact h scope hscope t ht

/-! ## Messages -/

/-- What stands behind a message that was given some tags. -/
def block (text : String) (tags : Tags) : String :=
  String.ofList ((if text = "" then [] else [' ']) ++ Metadata.opening ++
    tags.flatMap (fun t => Metadata.writeEntry t.1.toList t.2) ++ [']'])

/-- **What appending tags to a message comes to**, if the message can be rendered. -/
theorem annotate_eq {tags : Tags} (ne : tags ≠ []) {m : Message} {text : String} (rendered : m.text = .ok text) :
    annotate tags m = match Metadata.firstRefusal? tags with
      | some fault => .error fault
      | none => .ok { template := .text (text ++ block text tags) } := by
  have hsome : ¬tags.isEmpty = true := by simpa using ne
  unfold annotate
  rw [if_neg hsome, rendered]
  show (Metadata.encode text tags >>= fun annotated => Except.ok (⟨.text annotated, .none⟩ : Message)) = _
  unfold Metadata.encode
  rw [if_neg hsome, Metadata.writeEntries_eq]
  cases Metadata.firstRefusal? tags with
  | some fault => rfl
  | none =>
    have htext : String.ofList (text.toList ++ (if text = "" then [] else [' ']) ++ Metadata.opening ++
        tags.flatMap (fun t => Metadata.writeEntry t.1.toList t.2) ++ [']']) = text ++ block text tags := by
      simp [block, String.ofList_append]
    rw [← htext]
    rfl

/-- **Which messages are given the tags in force.** Whatever scopes are open, a message that can be rendered is given
their tags iff each key that they set can be written, and each value in force too, which may be of any kind. Without
tags the message is left alone, and with tags its text is the one that it had and a block behind it, in which nothing
is filled in again. If some tag cannot be written, every such message is refused, and told is what prevents the first
of these. -/
theorem annotated_iff (scopes : List Tags) {m : Message} {text : String} (rendered : m.text = .ok text) :
    ((∃ annotated, annotate (scopes.foldl within []) m = .ok annotated) ↔
      (∀ scope ∈ scopes, ∀ t ∈ scope, Metadata.isKey t.1.toList = true) ∧
        ∀ t ∈ scopes.foldl within [], t.2.isWritable = true) ∧
    (scopes.foldl within [] = [] → annotate (scopes.foldl within []) m = .ok m) ∧
    (∀ annotated, scopes.foldl within [] ≠ [] → annotate (scopes.foldl within []) m = .ok annotated →
      annotated.text = .ok (text ++ block text (scopes.foldl within []))) ∧
    ∀ fault, Metadata.firstRefusal? (scopes.foldl within []) = some fault →
      annotate (scopes.foldl within []) m = .error fault := by
  have hempty : scopes.foldl within [] = [] → annotate (scopes.foldl within []) m = .ok m := by
    intro hnone
    rw [hnone]
    rfl
  rw [← forall_keys_foldl_within (P := fun key => Metadata.isKey key.toList = true),
    ← Metadata.firstRefusal?_eq_none_iff]
  by_cases ne : scopes.foldl within [] = []
  · rw [hempty ne, ne]
    exact ⟨iff_of_true ⟨m, rfl⟩ rfl, fun _ => rfl, fun _ hne => absurd rfl hne, fun fault => nofun⟩
  · rw [annotate_eq ne rendered]
    cases Metadata.firstRefusal? (scopes.foldl within []) with
    | some fault =>
      exact ⟨iff_of_false (by simp) (by simp), fun hnone => absurd hnone ne, fun annotated _ => nofun,
        fun other hother => by rw [Option.some.inj hother]⟩
    | none =>
      refine ⟨iff_of_true ⟨_, rfl⟩ rfl, fun hnone => absurd hnone ne, fun annotated _ h => ?_, fun fault => nofun⟩
      rw [← Except.ok.inj h]
      rfl

/-- A tag that would be filled in, behind a message that was. -/
theorem annotated_iff_percent : ∃ annotated,
    annotate ([[("n", .int 1)], [("p", .text "%s"), ("n", .bool true)]].foldl within [])
      ⟨.text "%d of", .listed [.int 3]⟩ = .ok annotated ∧
    annotated.text = .ok "3 of [CONTEXT n=true p=\"%s\" ]" := by
  have rendered : Message.text ⟨.text "%d of", .listed [.int 3]⟩ = .ok "3 of" := eq_ok_of_toOption (by decide +kernel)
  obtain ⟨hiff, -, htext, -⟩ := annotated_iff [[("n", .int 1)], [("p", .text "%s"), ("n", .bool true)]] rendered
  obtain ⟨annotated, hannotate⟩ := hiff.2 ⟨by decide, by decide +kernel⟩
  refine ⟨annotated, hannotate, (htext annotated (by decide) hannotate).trans (congrArg _ ?_)⟩
  decide +kernel

/-- A scope takes a tag whose key has a blank in it, and a message that is given the tag is refused. -/
theorem not_annotated_blank : Message.text ⟨.text "m", .none⟩ = .ok "m" ∧
    annotate ([[("request id", .int 1)]].foldl within []) ⟨.text "m", .none⟩ = .error (.metadataKey "request id") :=
  ⟨rfl, rfl⟩

end Tags

end LogAssay
