import LogAssay.Dispatch.Record
import LogAssay.Proofs.Logger.Delivery
import LogAssay.Proofs.Threshold.Coherence

/-!
# Gates by level and by class

A channel of the logger tree is attached with a native level: the logger and the handler compare the level of an event
with it, and the class of the event is only told afterwards. A handler of dispatched records compares classes. By the
coherence of the table the two ways let the same events through, except where the lowest class is asked for: it has no
lowest level, so the level at which it is emitted stands in, and what is below that does not get through.

## Main statements

* `standardLevel_le_iff`: when an event reaches the native level of a class.
* `mem_recipients_iff`: when the handler of an attachment gets an event.
* `level_gate_iff_class`: the two gates, each with its own table.
* `not_gated_by_class`: levels below the floor, and level numbers that are not on the scale.
-/

namespace LogAssay

/-! ## Native levels of the logger tree -/

theorem Thresholds.increasing_standard : standard.Increasing where
  fine := by decide +kernel
  info := by decide +kernel
  warning := by decide +kernel
  severe := by decide +kernel

theorem Thresholds.floor_le_standardLevel (s : Severity) : standardLevel .finest ≤ standardLevel s := by
  cases s <;> decide

/-- An event reaches the native level of a class above the lowest iff it is of this class or of a higher one. -/
theorem Thresholds.standardLevel_le_iff_of_above {s : Severity} (hs : .finest < s) (level : Int) :
    standardLevel s ≤ level ↔ s ≤ standard.classify (.int level) := by
  rw [increasing_standard.toAscending.le_classify_iff hs, native_standard, Quantity.le_int]

/-- **An event reaches the native level of a class** iff it is of this class or of a higher one, and not below the
level at which the lowest class is emitted. -/
theorem Thresholds.standardLevel_le_iff (s : Severity) (level : Int) :
    standardLevel s ≤ level ↔ s ≤ standard.classify (.int level) ∧ standardLevel .finest ≤ level := by
  rcases s.eq_finest_or_lt with rfl | hs
  · exact ⟨fun hlevel => ⟨Nat.zero_le _, hlevel⟩, fun h => h.2⟩
  · rw [← standardLevel_le_iff_of_above hs]
    exact ⟨fun hlevel => ⟨hlevel, Int.le_trans (floor_le_standardLevel s) hlevel⟩, fun h => h.1⟩

/-- The record of an event is of the class of its level. -/
theorem Event.severity_of_convert {e : Event} {tags : Tags} {r : Record} (h : (e.convert tags).outcome = .ok r) :
    r.severity = Thresholds.standard.classify (.int e.level) := by
  obtain ⟨text, decoded, time, metadata, -, -, -, rfl⟩ := exists_of_convert h
  rfl

theorem Event.severity_recordFor {e : Event} {tags : Tags} {testId : String} {r : Record}
    (h : e.recordFor tags testId = some r) : r.severity = Thresholds.standard.classify (.int e.level) := by
  rw [recordFor] at h
  cases hconvert : (e.convert tags).outcome with
  | error fault =>
    rw [hconvert] at h
    cases h
  | ok r' =>
    rw [hconvert] at h
    obtain ⟨-, rfl⟩ : TestId.accepts r'.metadata testId = true ∧ r' = r := by simpa using h
    exact severity_of_convert hconvert

/-! ## Handlers of the logger tree -/

namespace LoggerTree

open Logger

variable {t u : LoggerTree} {request : Request} {serial : Nat}

/-- The handlers that an event of a level, logged on a logger, is handed to. -/
def recipients (t : LoggerTree) (name : String) (level : Int) : List Handler :=
  if t.isOpen name level then t.takers name level else []

theorem log_eq_receiveAll (t : LoggerTree) (tags : Tags) (latches : Site.Latches) (name : String) (e : Event) :
    t.log tags latches name e = receiveAll tags e latches (t.recipients name e.level) := by
  unfold log recipients
  split
  · rfl
  · rfl

/-- A tree in which an attachment is open: its handler is there, and no level is in force for its logger that is above
the one that attaching has left. -/
structure Holding (t : LoggerTree) (request : Request) (serial : Nat) (u : LoggerTree) : Prop where
  level : u.effectiveLevel request.channel ≤ (t.attach request serial).effectiveLevel request.channel
  handler : (Holder.mk serial request).handler ∈ (u.logger request.channel).handlers

theorem Holding.attach (t : LoggerTree) (request : Request) (serial : Nat) :
    t.Holding request serial (t.attach request serial) where
  level := Int.le_refl _
  handler := by
    rw [logger_attach, if_pos rfl]
    exact List.mem_append_right _ (List.mem_singleton_self _)

/-- Attaching only lowers levels in force. -/
theorem effectiveLevel_attach_le (t : LoggerTree) (request : Request) (serial : Nat) (name : String) :
    (t.attach request serial).effectiveLevel name ≤ t.effectiveLevel name := by
  refine effectiveLevel_le (fun m => ?_) name
  rw [logger_attach]
  by_cases hm : canonical m = canonical request.channel
  · rw [if_pos hm]
    by_cases hlow : Thresholds.standardLevel request.severity < t.effectiveLevel request.channel
    · refine .inr ⟨?_, ?_⟩
      · rw [if_pos hlow]
        exact Int.ne_of_gt (Thresholds.standardLevel_pos _)
      · rw [if_pos hlow, t.effectiveLevel_congr hm]
        exact Int.le_of_lt hlow
    · exact .inl (if_neg hlow)
  · exact .inl (congrArg Logger.level (if_neg hm))

/-- Attaching another request, to whatever logger, leaves an attachment open. -/
theorem Holding.attach_other (h : t.Holding request serial u) (other : Request) (serial' : Nat) :
    t.Holding request serial (u.attach other serial') where
  level := Int.le_trans (effectiveLevel_attach_le ..) h.level
  handler := by
    rw [logger_attach]
    split
    · exact List.mem_append_left _ h.handler
    · exact h.handler

/-- **The handler of an attachment gets an event** on its logger iff the event reaches the native level of the
attachment. -/
theorem Holding.mem_recipients_iff (h : t.Holding request serial u) (level : Int) :
    (Holder.mk serial request).handler ∈ u.recipients request.channel level ↔
      Thresholds.standardLevel request.severity ≤ level := by
  have hinforce : u.effectiveLevel request.channel ≤ Thresholds.standardLevel request.severity :=
    Int.le_trans h.level (level_attach_self t request serial)
  have hpos := Thresholds.standardLevel_pos request.severity
  constructor
  · intro hmem
    unfold recipients at hmem
    split at hmem
    · exact of_decide_eq_true (List.mem_filter.1 hmem).2
    · exact absurd hmem List.not_mem_nil
  · intro hlevel
    have hopen : u.isOpen request.channel level = true := isOpen_iff.2 ⟨by omega, Int.le_trans hinforce hlevel⟩
    rw [recipients, if_pos hopen]
    exact mem_takers_self h.handler hlevel

end LoggerTree

/-! ## Handlers of dispatched records -/

namespace Dispatch

/-- The number of a record's level, if it has one. -/
def levelNumber? (record : Fields) : Option Int := (Value.find? record "levelno").bind Value.integer?

/-- A level number on the scale gives the class of a record, and any other one leaves it to the level's name. -/
theorem severity_of_levelNumber {record : Fields} {level : Int} (h : levelNumber? record = some level) :
    severity record =
      if 0 ≤ level ∧ level ≤ topPlace then Thresholds.ordinal.classify (.int level) else severityByName record := by
  unfold levelNumber? at h
  unfold severity
  rw [h]

/-- A gate captures nothing below its class, and converts what is not. -/
theorem Gate.capture_eq (gate : Gate) (now : Timestamp) (record : Fields) :
    gate.capture now record =
      if gate.least ≤ severity record then
        (convert now record).andThen fun r => .ok (if TestId.accepts r.metadata gate.testId then some r else none)
      else ⟨[], .ok none⟩ := by
  unfold capture
  by_cases hbelow : severity record < gate.least
  · have hnot : ¬ gate.least ≤ severity record := Nat.not_le_of_lt hbelow
    rw [if_pos hbelow, if_neg hnot]
  · have hreached : gate.least ≤ severity record := Nat.le_of_not_lt hbelow
    rw [if_neg hbelow, if_pos hreached]

end Dispatch

/-! ## The two gates -/

/-- **Gates by level and by class let the same events through**, down to the level at which the lowest class is
emitted. While an attachment to a logger is open, its handler is among those that an event on this logger is handed to
iff the event is of the class that was asked for, or of a higher one, and not below that lowest level: for a class
above the lowest that is the class alone. The record of the event is of the class by which it was let through. The
handler of dispatched records goes by the class of the record, which a level number on its scale gives by the table of
this scale. -/
theorem level_gate_iff_class {t u : LoggerTree} {request : Request} {serial : Nat} (h : t.Holding request serial u) :
    (∀ tags latches e, u.log tags latches request.channel e
      = LoggerTree.receiveAll tags e latches (u.recipients request.channel e.level)) ∧
    (∀ level, (LoggerTree.Holder.mk serial request).handler ∈ u.recipients request.channel level ↔
      request.severity ≤ Thresholds.standard.classify (.int level)
        ∧ (Thresholds.standard.native .finest).le (.int level) = true) ∧
    (.finest < request.severity →
      ∀ level, (LoggerTree.Holder.mk serial request).handler ∈ u.recipients request.channel level ↔
        request.severity ≤ Thresholds.standard.classify (.int level)) ∧
    (∀ (e : Event) tags testId r, e.recordFor tags testId = some r →
      r.severity = Thresholds.standard.classify (.int e.level)) ∧
    (∀ (gate : Dispatch.Gate) now record, gate.capture now record =
      if gate.least ≤ Dispatch.severity record then
        (Dispatch.convert now record).andThen fun r =>
          .ok (if TestId.accepts r.metadata gate.testId then some r else none)
      else ⟨[], .ok none⟩) ∧
    ∀ record level, Dispatch.levelNumber? record = some level → Dispatch.severity record =
      if 0 ≤ level ∧ level ≤ Dispatch.topPlace then Thresholds.ordinal.classify (.int level)
      else Dispatch.severityByName record := by
  refine ⟨fun tags latches e => u.log_eq_receiveAll tags latches request.channel e, fun level => ?_, fun hs level => ?_,
    fun e tags testId r => Event.severity_recordFor, fun gate now record => gate.capture_eq now record,
    fun record level => Dispatch.severity_of_levelNumber⟩
  · rw [h.mem_recipients_iff, Thresholds.standardLevel_le_iff, Thresholds.native_standard, Quantity.le_int]
  · rw [h.mem_recipients_iff, Thresholds.standardLevel_le_iff_of_above hs]

/-- A logger attached for one class, below a root that is attached for the lowest one. -/
def nested : LoggerTree :=
  (({} : LoggerTree).attach ⟨"app", .info, "", .named "a"⟩ 1).attach ⟨"", .finest, "", .named "b"⟩ 2

theorem level_gate_iff_class_nested :
    ({} : LoggerTree).Holding ⟨"app", .info, "", .named "a"⟩ 1 nested ∧
    (LoggerTree.Holder.mk 1 ⟨"app", .info, "", .named "a"⟩).handler ∈ nested.recipients "app" 29 ∧
    (LoggerTree.Holder.mk 1 ⟨"app", .info, "", .named "a"⟩).handler ∉ nested.recipients "app" 19 ∧
    Dispatch.severity [(.text "levelno", .int 3)] = .warning := by
  have h := (LoggerTree.Holding.attach {} ⟨"app", .info, "", .named "a"⟩ 1).attach_other ⟨"", .finest, "", .named "b"⟩ 2
  obtain ⟨-, -, habove, -, -, hnumber⟩ := level_gate_iff_class h
  refine ⟨h, (habove (by decide) 29).2 (by decide +kernel), fun hmem => ?_, hnumber _ 3 (by decide +kernel)⟩
  exact absurd ((habove (by decide) 19).1 hmem) (by decide +kernel)

/-- Levels below the floor are of the lowest class, and are kept from a handler that was attached for it; and a level
number above the scale is of the highest class by the table, but not in a record. -/
theorem not_gated_by_class :
    let request : Request := ⟨"app", .finest, "", .named "a"⟩
    let record : Dispatch.Fields := [(.text "levelno", .int 6)]
    request.severity ≤ Thresholds.standard.classify (.int 3) ∧
      (LoggerTree.Holder.mk 1 request).handler ∉ (({} : LoggerTree).attach request 1).recipients "app" 3 ∧
      .severe ≤ Thresholds.ordinal.classify (.int 6) ∧ Dispatch.severity record < .severe := by
  intro request record
  refine ⟨by decide +kernel, ?_, by decide +kernel, by decide +kernel⟩
  rw [(LoggerTree.Holding.attach {} request 1).mem_recipients_iff]
  decide

end LogAssay
