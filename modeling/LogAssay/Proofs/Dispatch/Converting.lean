import LogAssay.Dispatch.Hub
import LogAssay.Proofs.Dispatch.Threads
import LogAssay.Proofs.Metadata.Failing
import LogAssay.Proofs.Metadata.Writing
import LogAssay.Proofs.Threshold.Gates
import LogAssay.Proofs.Timestamp.Calendar

/-!
# Which records are converted

A dispatched record is converted part by part, and each part by itself. Five parts may fail: a message whose block has
a numeral of too many digits, a timestamp that lies outside the calendar or is none, a thread that is given as a text
which shows digits and is no numeral, and a level or the value of a pair that is to be written and holds an integer of
too many digits. A handler that lets such a record through fails, and with it the call that dispatched the record.

## Main statements

* `convert_ok_iff`: the parts that a converted record is made of.
* `handOver_ok_iff`: when handlers take a record over without a failure.
* `converts_iff`: exactly which records of the schema are converted, and to which thread.
-/

namespace LogAssay

/-- A text decodes iff its block has no numeral of too many digits. -/
theorem Metadata.outcome_decode_ok_iff (s : String) : (∃ d, (decode s).outcome = .ok d) ↔
    ∀ m ps, SplitsFirst s.toList m ps → ∀ p ∈ ps, p.token.IsReadable := by
  constructor
  · rintro ⟨d, hd⟩ m ps hfirst
    exact (hfirst.decoded hd).1
  · intro hreadable
    rcases splitsFirst_or_not_splits s.toList with ⟨m, ps, hfirst⟩ | hnone
    · exact ⟨_, outcome_decode_of_isReadable hfirst (hreadable m ps hfirst)⟩
    · exact ⟨_, congrArg Reported.outcome (decode_of_not_splits hnone)⟩

/-- A value is a text, or it is equal to none. -/
theorem Value.text_or_ne_text (v : Value) :
    (∃ s, v = .text s) ∨ (∀ s, v ≠ .text s) ∧ ∀ s, v.eq (.text s) = false := by
  cases v with
  | scalar s =>
    cases s with
    | text s => exact .inl ⟨s, rfl⟩
    | bool | int | float => exact .inr ⟨by simp, by simp [eq, Scalar.eq, Scalar.quantity?]⟩
  | nothing | list | tuple | mapping | bytes | severity | date => exact .inr ⟨by simp, by simp [eq]⟩

@[simp] theorem Value.find?_nil (key : String) : Value.find? [] key = none := rfl

@[simp] theorem Value.find?_cons_text (k : String) (v : Value) (entries : List (Value × Value)) (key : String) :
    Value.find? ((.text k, v) :: entries) key = if k = key then some v else Value.find? entries key := by
  have heq : (Value.text k).eq (.text key) = (k == key) := by simp [Value.eq, Scalar.eq]
  unfold Value.find?
  rw [List.find?_cons, heq]
  by_cases hk : k = key
  · rw [if_pos hk, beq_iff_eq.2 hk]
    rfl
  · rw [if_neg hk, beq_eq_false_iff_ne.2 hk]

namespace Dispatch

variable {record metadata pairs : Fields} {message : String} {now : Timestamp} {r : Record}

/-! ## Pairs -/

/-- The entries under texts. -/
def textEntries (pairs : Fields) : List (String × Value) :=
  pairs.filterMap fun (key, value) => match key with
    | .scalar (.text key) => some (key, value)
    | _ => none

@[simp] theorem textEntries_text (key : String) (v : Value) (pairs : Fields) :
    textEntries ((.text key, v) :: pairs) = (key, v) :: textEntries pairs := rfl

theorem textEntries_of_ne {k : Value} (h : ∀ s, k ≠ .text s) (v : Value) (pairs : Fields) :
    textEntries ((k, v) :: pairs) = textEntries pairs := by
  unfold textEntries
  refine List.filterMap_cons_none ?_
  simp only

theorem mem_textEntries {e : String × Value} : e ∈ textEntries pairs ↔ (.text e.1, e.2) ∈ pairs := by
  constructor
  · intro h
    obtain ⟨⟨k, v⟩, hmem, he⟩ := List.mem_filterMap.1 h
    rcases k.text_or_ne_text with ⟨s, rfl⟩ | ⟨hne, -⟩
    · rwa [← Option.some.inj he]
    · simp only at he
      cases he
  · exact fun h => List.mem_filterMap.2 ⟨_, h, rfl⟩

/-- Metadata with some entries behind it, each with the scalar that stands for its value. -/
def addEntries (m : Metadata) (entries : List (String × Value)) : Metadata :=
  entries.foldl (fun m e => m.add e.1 [e.2.widened]) m

theorem addEntries_cons (m : Metadata) (e : String × Value) (entries : List (String × Value)) :
    addEntries m (e :: entries) = addEntries (m.add e.1 [e.2.widened]) entries := rfl

/-- **Which pairs are merged**: those under texts, if a scalar can stand for each of their values. -/
theorem withPairs_ok_iff {m joined : Metadata} : withPairs m pairs = .ok joined ↔
    (∀ key v, (.text key, v) ∈ pairs → v.isWidened = true) ∧ joined = addEntries m (textEntries pairs) := by
  induction pairs generalizing m with
  | nil => exact ⟨fun h => ⟨nofun, (Except.ok.inj h).symm⟩, fun h => congrArg Except.ok h.2.symm⟩
  | cons pair others ih =>
    obtain ⟨k, v⟩ := pair
    rcases k.text_or_ne_text with ⟨key, rfl⟩ | ⟨hne, -⟩
    · have hstep : withPairs m ((.text key, v) :: others)
          = v.widen.map (fun s => m.add key [s]) >>= (withPairs · others) := List.foldlM_cons
      rw [hstep, textEntries_text, addEntries_cons]
      by_cases hv : v.isWidened = true
      · have hall : (∀ k w, (Value.text k, w) ∈ (Value.text key, v) :: others → w.isWidened = true) ↔
            ∀ k w, (Value.text k, w) ∈ others → w.isWidened = true := by
          refine ⟨fun h k w hw => h k w (List.mem_cons_of_mem _ hw), fun h k w hw => ?_⟩
          rcases List.mem_cons.1 hw with heq | hw
          · rwa [(Prod.mk.inj heq).2]
          · exact h k w hw
        rw [Value.widen_of_isWidened hv, hall]
        exact ih
      · rw [Value.widen, if_neg hv]
        exact iff_of_false nofun fun h => hv (h.1 key v List.mem_cons_self)
    · have hstep : withPairs m ((k, v) :: others) = withPairs m others := by
        have hsame : withPair m (k, v) = .ok m := by
          unfold withPair
          split
          · next key heq => exact absurd (Prod.mk.inj heq).1 (hne _)
          · rfl
        unfold withPairs
        rw [List.foldlM_cons, hsame]
        rfl
      have hall : (∀ key w, (Value.text key, w) ∈ (k, v) :: others → w.isWidened = true) ↔
          ∀ key w, (Value.text key, w) ∈ others → w.isWidened = true := by
        refine ⟨fun h key w hw => h key w (List.mem_cons_of_mem _ hw), fun h key w hw => ?_⟩
        rcases List.mem_cons.1 hw with heq | hw
        · exact absurd (Prod.mk.inj heq).1.symm (hne key)
        · exact h key w hw
      rw [hstep, textEntries_of_ne hne, hall]
      exact ih

/-! ## Parts -/

/-- The message of a record and the mapping that holds its further data; what is missing is empty. -/
structure Parts (record : Fields) (message : String) (metadata : Fields) : Prop where
  message_eq : (Value.find? record "message").getD (.text "") = .text message
  metadata_eq : (Value.find? record "metadata").getD (.mapping []) = .mapping metadata

/-- The record that a dispatched one is converted to, with its time and its thread. -/
def assembled (record metadata : Fields) (decoded : Metadata.Decoded) (time : Timestamp) (thread : Value) : Record where
  className := (Record.siteNames none none).1
  methodName := (Record.siteNames none none).2
  levelName := (level record).plain
  severity := severity record
  timestamp := time
  thread := thread
  message := decoded.message
  metadata := addEntries decoded.metadata (textEntries (pairsOf metadata))

theorem Parts.convert_eq (h : Parts record message metadata) (now : Timestamp) :
    convert now record = (Metadata.decode message).andThen fun decoded => complete now record metadata decoded := by
  unfold convert
  rw [h.message_eq, h.metadata_eq]
  rfl

/-- **The parts that a converted record is made of.** -/
theorem Parts.convert_ok_iff (h : Parts record message metadata) : (convert now record).outcome = .ok r ↔
    ∃ decoded t v, (Metadata.decode message).outcome = .ok decoded ∧ (level record).isWritable = true ∧
      time now metadata = .ok t ∧ thread metadata = .ok v ∧
      (∀ key v, (.text key, v) ∈ pairsOf metadata → v.isWidened = true) ∧
      r = assembled record metadata decoded t v := by
  rw [h.convert_eq]
  constructor
  · intro hr
    obtain ⟨decoded, hdecoded, hr⟩ := exists_ok_of_bind hr
    obtain ⟨name, hname, hr⟩ := exists_ok_of_bind hr
    obtain ⟨t, ht, hr⟩ := exists_ok_of_bind hr
    obtain ⟨v, hv, hr⟩ := exists_ok_of_bind hr
    obtain ⟨merged, hmerged, hr⟩ := exists_ok_of_bind hr
    obtain ⟨hlevel, rfl⟩ := Value.write_ok_iff.1 hname
    obtain ⟨hpairs, rfl⟩ := withPairs_ok_iff.1 hmerged
    exact ⟨decoded, t, v, hdecoded, hlevel, ht, hv, hpairs, (Except.ok.inj hr).symm⟩
  · rintro ⟨decoded, t, v, hdecoded, hlevel, ht, hv, hpairs, rfl⟩
    have hcomplete : complete now record metadata decoded = .ok (assembled record metadata decoded t v) := by
      unfold complete
      rw [Value.write_of_isWritable hlevel, ht, hv, withPairs_ok_iff.2 ⟨hpairs, rfl⟩]
      rfl
    unfold Reported.andThen
    rw [hdecoded]
    exact hcomplete

/-- A record is converted iff each of its parts is. -/
theorem Parts.exists_convert_ok_iff (h : Parts record message metadata) : (∃ r, (convert now record).outcome = .ok r) ↔
    (∃ d, (Metadata.decode message).outcome = .ok d) ∧
      (∀ v, Value.find? record "level" = some v → v.isWritable = true) ∧ (∃ t, time now metadata = .ok t) ∧
      (∃ v, thread metadata = .ok v) ∧ ∀ key v, (.text key, v) ∈ pairsOf metadata → v.isWidened = true := by
  have hlevel : (∀ v, Value.find? record "level" = some v → v.isWritable = true) ↔
      (level record).isWritable = true := by
    unfold level
    cases Value.find? record "level" with
    | none => exact iff_of_true nofun rfl
    | some v => simp
  rw [hlevel]
  constructor
  · rintro ⟨r, hr⟩
    obtain ⟨decoded, t, v, hdecoded, hwritable, ht, hv, hpairs, -⟩ := h.convert_ok_iff.1 hr
    exact ⟨⟨decoded, hdecoded⟩, hwritable, ⟨t, ht⟩, ⟨v, hv⟩, hpairs⟩
  · rintro ⟨⟨decoded, hdecoded⟩, hwritable, ⟨t, ht⟩, ⟨v, hv⟩, hpairs⟩
    exact ⟨_, h.convert_ok_iff.2 ⟨decoded, t, v, hdecoded, hwritable, ht, hv, hpairs, rfl⟩⟩

/-! ## The schema -/

/-- A record of the schema: its message is a text, its further data a mapping, its timestamp a floating-point number
and its thread an integer or a text, if they are there. Everything else may be of any kind. -/
structure Schema (record : Fields) (message : String) (metadata : Fields) : Prop
    extends Parts record message metadata where
  timestamp : ∀ v, Value.find? metadata "timestamp" = some v → ∃ x, v = .float x
  thread : ∀ v, Value.find? metadata "thread_id" = some v → (∃ i, v = .int i) ∨ ∃ s, v = .text s

theorem Schema.time_ok_iff (h : Schema record message metadata) : (∃ t, time now metadata = .ok t) ↔
    ∀ x, Value.find? metadata "timestamp" = some (.float x) → Timestamp.IsTime x := by
  unfold time
  cases hfind : Value.find? metadata "timestamp" with
  | none => exact iff_of_true ⟨now, rfl⟩ fun x hx => by cases hx
  | some v =>
    obtain ⟨x, rfl⟩ := h.timestamp v hfind
    simp only [Option.some.injEq, Value.scalar.injEq, Scalar.float.injEq, forall_eq',
      ← Timestamp.exists_ofSeconds_ok_iff]
    cases Timestamp.ofSeconds x with
    | error problem => exact iff_of_false (by rintro ⟨t, ht⟩; cases ht) (by rintro ⟨t, ht⟩; cases ht)
    | ok t => exact iff_of_true ⟨t, rfl⟩ ⟨t, rfl⟩

theorem Schema.thread_ok_iff (h : Schema record message metadata) : (∃ v, Dispatch.thread metadata = .ok v) ↔
    ∀ s, Value.find? metadata "thread_id" = some (.text s) → IsNumeral (inner s) ∨ IsForeign (inner s) := by
  cases hfind : Value.find? metadata "thread_id" with
  | none =>
    unfold Dispatch.thread
    rw [hfind]
    exact iff_of_true ⟨_, rfl⟩ fun s hs => by cases hs
  | some v =>
    rcases h.thread v hfind with ⟨i, rfl⟩ | ⟨s, rfl⟩
    · unfold Dispatch.thread
      rw [hfind]
      exact iff_of_true ⟨.int i, rfl⟩ fun s hs => by cases hs
    · simp only [Option.some.injEq, Value.scalar.injEq, Scalar.text.injEq, forall_eq', ← threadOfText_ok_iff,
        thread_of_text hfind]

/-- The thread of a converted record that is given as a text: the number that it shows, or else the text. -/
theorem Schema.thread_of_convert (h : Schema record message metadata) (hr : (convert now record).outcome = .ok r)
    {s : String} (hs : Value.find? metadata "thread_id" = some (.text s)) :
    IsNumeral (inner s) ∧ r.thread = .int (numberOf (inner s)) ∨ IsForeign (inner s) ∧ r.thread = .text s := by
  obtain ⟨decoded, t, v, -, -, -, hv, -, rfl⟩ := h.convert_ok_iff.1 hr
  have htoken : threadOfText s = .ok v := by rwa [thread_of_text hs] at hv
  rcases threadOfText_ok_iff.1 ⟨v, htoken⟩ with hnumeral | hforeign
  · rw [threadOfText_of_isNumeral hnumeral] at htoken
    exact .inl ⟨hnumeral, (Except.ok.inj htoken).symm⟩
  · rw [threadOfText_of_isForeign hforeign] at htoken
    exact .inr ⟨hforeign, (Except.ok.inj htoken).symm⟩

/-! ## Handlers -/

/-- A gate takes a record over if it lets the record pass by or the record is converted. -/
theorem Gate.capture_ok_iff (gate : Gate) : (∃ captured, (gate.capture now record).outcome = .ok captured) ↔
    (∃ r, (convert now record).outcome = .ok r) ∨ severity record < gate.least := by
  rw [gate.capture_eq]
  by_cases hreached : gate.least ≤ severity record
  · have hnot : ¬severity record < gate.least := Nat.not_lt.2 hreached
    rw [if_pos hreached, or_iff_left hnot]
    constructor
    · rintro ⟨captured, hcaptured⟩
      obtain ⟨r, hr, -⟩ := exists_ok_of_bind hcaptured
      exact ⟨r, hr⟩
    · rintro ⟨r, hr⟩
      unfold Reported.andThen
      rw [hr]
      exact ⟨_, rfl⟩
  · rw [if_neg hreached]
    exact iff_of_true ⟨none, rfl⟩ (.inr (Nat.lt_of_not_le hreached))

/-- **When handlers take a record over**: if it is converted, or none of them is to capture it. -/
theorem handOver_ok_iff (now : Timestamp) (record : Fields) (handlers : List Handler) :
    (Hub.handOver now record handlers).failure = none ↔
      (∃ r, (convert now record).outcome = .ok r) ∨ ∀ h ∈ handlers, severity record < h.least := by
  -- handlers are handed the record one after the other, up to the first one that fails
  induction handlers with
  | nil => exact iff_of_true rfl (.inr fun h hmem => absurd hmem List.not_mem_nil)
  | cons h others ih =>
    rw [List.forall_mem_cons, or_and_left, ← ih, ← h.toGate.capture_ok_iff, Hub.handOver]
    simp only
    cases (h.toGate.capture now record).outcome with
    | error fault =>
      refine iff_of_false (fun hnone => by cases hnone) ?_
      rintro ⟨⟨captured, hcaptured⟩, -⟩
      cases hcaptured
    | ok captured => exact ⟨fun hrest => ⟨⟨captured, rfl⟩, hrest⟩, fun hboth => hboth.2⟩

/-! ## Conversion -/

/-- **Exactly which records are converted.** A record of the schema is converted iff the block of its message has no
numeral of too many digits, its level can be written, its timestamp lies within the calendar, its thread, if it is
given as a text, is a numeral or shows something else than digits, and each pair under a text has a scalar or
something that can be written for its value. A text that is a numeral gives its number and any other one itself. And
handlers take a record over without a failure iff it is converted or lies below what they capture. -/
theorem converts_iff (h : Schema record message metadata) (now : Timestamp) :
    ((∃ r, (convert now record).outcome = .ok r) ↔
      (∀ m ps, Metadata.SplitsFirst message.toList m ps → ∀ p ∈ ps, p.token.IsReadable) ∧
      (∀ v, Value.find? record "level" = some v → v.isWritable = true) ∧
      (∀ x, Value.find? metadata "timestamp" = some (.float x) → Timestamp.IsTime x) ∧
      (∀ s, Value.find? metadata "thread_id" = some (.text s) → IsNumeral (inner s) ∨ IsForeign (inner s)) ∧
      ∀ key v, (.text key, v) ∈ pairsOf metadata → v.isWidened = true) ∧
    (∀ r, (convert now record).outcome = .ok r → ∀ s, Value.find? metadata "thread_id" = some (.text s) →
      IsNumeral (inner s) ∧ r.thread = .int (numberOf (inner s)) ∨ IsForeign (inner s) ∧ r.thread = .text s) ∧
    ∀ handlers, (Hub.handOver now record handlers).failure = none ↔
      (∃ r, (convert now record).outcome = .ok r) ∨ ∀ h ∈ handlers, severity record < h.least := by
  refine ⟨?_, fun r hr s => h.thread_of_convert hr, handOver_ok_iff now record⟩
  rw [h.exists_convert_ok_iff, Metadata.outcome_decode_ok_iff, h.time_ok_iff, h.thread_ok_iff]

/-- A record that has nothing but further data. -/
def bare (metadata : Fields) : Fields := [(.text "metadata", .mapping metadata)]

theorem parts_bare (metadata : Fields) : Parts (bare metadata) "" metadata := ⟨by simp [bare], by simp [bare]⟩

/-- Further data with all parts that may fail, each of them in order. -/
def furtherData : Fields :=
  [(.text "timestamp", .float (.zero false)), (.text "thread_id", .text " ThreadId(07) "),
    (.text "key_values", .mapping [(.text "k", .list [.int 1])])]

def whole : Fields :=
  (.text "message", .text "m [CONTEXT a=1 ]") :: (.text "level", .text "INFO") :: bare furtherData

theorem converts_iff_whole :
    Schema whole "m [CONTEXT a=1 ]" furtherData ∧ ∃ r, (convert ⟨0⟩ whole).outcome = .ok r ∧ r.thread = .int 7 := by
  have hschema : Schema whole "m [CONTEXT a=1 ]" furtherData := {
    message_eq := by simp [whole]
    metadata_eq := by simp [whole, bare]
    timestamp := by simp [furtherData]
    thread := by simp [furtherData] }
  have hinner : inner " ThreadId(07) " = ['0', '7'] := by decide +kernel
  have hnumeral : IsNumeral (inner " ThreadId(07) ") := by
    rw [hinner]
    exact ⟨by decide, List.all_eq_true.1 (by decide), by decide⟩
  have hzero : Timestamp.IsTime (.zero false) := ⟨0, by decide +kernel, by decide⟩
  have hmessage : ∃ d, (Metadata.decode "m [CONTEXT a=1 ]").outcome = .ok d :=
    ⟨⟨"m", [("a", [.int 1])]⟩, eq_ok_of_toOption (by decide +kernel)⟩
  have hpairs : ∀ key v, (Value.text key, v) ∈ pairsOf furtherData → v.isWidened = true := by
    intro key v hv
    have hlist : (Value.text key, v) = (.text "k", .list [.int 1]) := by simpa [furtherData, pairsOf] using hv
    rw [(Prod.mk.inj hlist).2]
    decide +kernel
  obtain ⟨hconverts, hthread, -⟩ := converts_iff hschema ⟨0⟩
  obtain ⟨r, hr⟩ := hconverts.2 ⟨(Metadata.outcome_decode_ok_iff _).1 hmessage, by simp [whole, Value.isWritable_scalar,
    Scalar.isWritable], by simpa [furtherData] using hzero, by simpa [furtherData] using .inl hnumeral, hpairs⟩
  refine ⟨hschema, r, hr, ?_⟩
  rcases hthread r hr " ThreadId(07) " (by simp [furtherData]) with ⟨-, hnumber⟩ | ⟨hforeign, -⟩
  · rw [hnumber, hinner]
    rfl
  · exact absurd hforeign hnumeral.not_isForeign

/-- A superscript shows a digit and is none, and a timestamp may be no number: there are records of the schema, with
nothing else in them, that are not converted. -/
theorem not_converts_superscript :
    Schema (bare [(.text "thread_id", .text "²")]) "" [(.text "thread_id", .text "²")] ∧
    Schema (bare [(.text "timestamp", .float .nan)]) "" [(.text "timestamp", .float .nan)] ∧
    (∃ d, (Metadata.decode "").outcome = .ok d) ∧
    (¬∃ r, (convert ⟨0⟩ (bare [(.text "thread_id", .text "²")])).outcome = .ok r) ∧
    ¬∃ r, (convert ⟨0⟩ (bare [(.text "timestamp", .float .nan)])).outcome = .ok r := by
  have hthread : Schema (bare [(.text "thread_id", .text "²")]) "" [(.text "thread_id", .text "²")] :=
    ⟨parts_bare _, by simp, by simp⟩
  have htime : Schema (bare [(.text "timestamp", .float .nan)]) "" [(.text "timestamp", .float .nan)] :=
    ⟨parts_bare _, by simp, by simp⟩
  refine ⟨hthread, htime, ⟨⟨"", []⟩, eq_ok_of_toOption (by decide +kernel)⟩, fun hr => ?_, fun hr => ?_⟩
  · obtain ⟨-, -, -, htoken, -⟩ := hthread.exists_convert_ok_iff.1 hr
    rcases hthread.thread_ok_iff.1 htoken "²" (by simp) with hnumeral | hforeign
    · exact absurd (hnumeral.decimal '²' (by decide +kernel)) (by decide +kernel)
    · exact absurd hforeign (not_isForeign_iff.2 (by decide +kernel))
  · obtain ⟨-, -, hfits, -⟩ := htime.exists_convert_ok_iff.1 hr
    obtain ⟨micros, hmicros, -⟩ := htime.time_ok_iff.1 hfits .nan (by simp)
    cases hmicros

end Dispatch

end LogAssay
