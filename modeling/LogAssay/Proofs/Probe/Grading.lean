import LogAssay.Proofs.Probe.Stages

/-!
# What a self-test shows

The support that a self-test comes to depends on the stages that failed and on the records that were collected, and on
nothing else: what it takes for no support and for full support is said here in terms of these, and everything else is
partial support.

## Main statements

* `grade_eq_none_iff`, `grade_eq_full_iff`: what the collected records show.
* `support_graded`: the support of every subject, the channel detached exactly once, and one self-test for any number of
  questions.
-/

namespace LogAssay

namespace Support

theorem min_eq_none_iff (a b : Support) : min a b = .none ↔ a = .none ∨ b = .none := by
  cases a <;> cases b <;> decide

theorem min_eq_full_iff (a b : Support) : min a b = .full ↔ a = .full ∧ b = .full := by
  cases a <;> cases b <;> decide

/-- There is no fourth level. -/
theorem eq_partly_iff (a : Support) : a = .partly ↔ a ≠ .none ∧ a ≠ .full := by
  cases a <;> decide

end Support

/-- Agreement with a Boolean never fails, and holds exactly if that Boolean is among the values. -/
theorem Scalar.anyAgrees_bool (ss : List Scalar) (b : Bool) :
    Scalar.anyAgrees ss (.bool b) = .ok (ss.contains (.bool b)) := by
  have hagrees (s : Scalar) : (Value.scalar s).agrees (.bool b) = .ok (decide (s = .bool b)) := by
    cases s <;> simp [Value.agrees, Bool.beq_eq_decide_eq]
  induction ss with
  | nil => rfl
  | cons s others ih =>
    rw [Scalar.anyAgrees, hagrees, List.contains_cons, Bool.beq_eq_decide_eq]
    by_cases h : s = .bool b
    · simp [h]
    · simp [h, ih, @eq_comm _ (Scalar.bool b)]

namespace Probe

/-! ## Grades -/

/-- A record shows an event of the self-test in every detail but its metadata. -/
structure Shows (r : Record) (severity : Severity) (text : String) (cause : Option Cause) : Prop where
  message : text.toList <:+: r.message.toList
  className : r.className = "logwitness.interceptor"
  methodName : r.methodName = "_emit_probe_logs"
  severity : r.severity = severity
  cause : r.cause = cause

theorem gradeOne_eq_none_iff (r : Record) (severity : Severity) (text : String) (cause : Option Cause) :
    gradeOne r severity text cause = .none ↔ ¬text.toList <:+: r.message.toList := by
  unfold gradeOne
  rw [← Text.occursIn_iff]
  cases Text.occursIn text.toList r.message.toList with
  | false => simp
  | true =>
    simp only [Bool.not_true, Bool.false_eq_true, if_false, not_true, iff_false]
    split <;> nofun

theorem gradeOne_eq_full_iff (r : Record) (severity : Severity) (text : String) (cause : Option Cause) :
    gradeOne r severity text cause = .full ↔ Shows r severity text cause := by
  have hshows : Shows r severity text cause ↔ Text.occursIn text.toList r.message.toList = true ∧
      r.className = module ∧ r.methodName = function ∧ r.severity = severity ∧ r.cause = cause :=
    ⟨fun h => ⟨(Text.occursIn_iff ..).2 h.message, h.className, h.methodName, h.severity, h.cause⟩,
      fun ⟨hm, hc, hf, hs, he⟩ => ⟨(Text.occursIn_iff ..).1 hm, hc, hf, hs, he⟩⟩
  rw [hshows]
  unfold gradeOne
  cases Text.occursIn text.toList r.message.toList with
  | false => simp
  | true =>
    simp only [Bool.not_true, Bool.false_eq_true, if_false, true_and]
    split <;> simp_all

/-- Asking whether a record carries the forced tag never fails. -/
theorem hasMetadata_forced (r : Record) :
    r.hasMetadata forcedKey (.bool true) = .ok ((r.metadata.values forcedKey).contains (.bool true)) :=
  Scalar.anyAgrees_bool ..

theorem carriesForced_iff (r : Record) : carriesForced r = true ↔ .bool true ∈ r.metadata.values forcedKey := by
  unfold carriesForced
  rw [hasMetadata_forced, ← List.contains_iff_mem]
  cases (r.metadata.values forcedKey).contains (.bool true) <;> simp

/-- **No support is shown** by nothing at all, by a first record without its text, and by a second and last one without
its text. -/
theorem grade_eq_none_iff (cause : Cause) (records : List Record) : grade cause records = .none ↔ records = [] ∨
    (∃ first others, records = first :: others ∧ ¬enabledText.toList <:+: first.message.toList) ∨
    ∃ first second, records = [first, second] ∧ ¬forcedText.toList <:+: second.message.toList := by
  match records with
  | [] => simp [grade]
  | [first] | first :: second :: third :: others =>
    simp [grade, Support.min_eq_none_iff, gradeOne_eq_none_iff]
  | [first, second] =>
    have hmeta : (if carriesForced second then Support.full else .partly) ≠ .none := by split <;> nofun
    have hlast : (∃ f s, [first, second] = [f, s] ∧ ¬forcedText.toList <:+: s.message.toList)
        ↔ ¬forcedText.toList <:+: second.message.toList :=
      ⟨fun ⟨_, _, heq, hs⟩ => by cases heq; exact hs, fun hs => ⟨_, _, rfl, hs⟩⟩
    rw [hlast]
    simp [grade, Support.min_eq_none_iff, gradeOne_eq_none_iff, hmeta]

/-- **Full support is shown** by two records, of the first event with its cause and of the second one with its tag. -/
theorem grade_eq_full_iff (cause : Cause) (records : List Record) : grade cause records = .full ↔
    ∃ first second, records = [first, second] ∧ Shows first .info enabledText (some cause) ∧
      Shows second .fine forcedText none ∧ .bool true ∈ second.metadata.values forcedKey := by
  match records with
  | [] => simp [grade]
  | [first] | first :: second :: third :: others => simp [grade, Support.min_eq_full_iff]
  | [first, second] =>
    have hmeta : (if carriesForced second then Support.full else .partly) = .full
        ↔ .bool true ∈ second.metadata.values forcedKey := by
      rw [← carriesForced_iff]
      split <;> simp_all
    simp [grade, Support.min_eq_full_iff, gradeOne_eq_full_iff, hmeta, and_assoc]

/-! ## The support of a subject -/

variable {σ δ : Type}

/-- A stage failed, and not only the last one, which detaches the channel. -/
def Broken (stages : List (Stage × Option Fault)) : Prop :=
  ∃ stage fault, (stage, some fault) ∈ stages ∧ stage ≠ .detach

/-- What it takes for no support: a stage failed, or the records do not even show the texts of the events. -/
def NoSupport (stages : List (Stage × Option Fault)) (records : List Record) : Prop :=
  Broken stages ∨ records = [] ∨
    (∃ first others, records = first :: others ∧ ¬enabledText.toList <:+: first.message.toList) ∨
    ∃ first second, records = [first, second] ∧ ¬forcedText.toList <:+: second.message.toList

/-- What it takes for full support: no stage failed, and the records show the first two events and nothing else. -/
def FullSupport (cause : Cause) (stages : List (Stage × Option Fault)) (records : List Record) : Prop :=
  ¬Broken stages ∧ ∃ first second, records = [first, second] ∧ Shows first .info enabledText (some cause) ∧
    Shows second .fine forcedText none ∧ .bool true ∈ second.metadata.values forcedKey

namespace Course

variable {cause : Cause} {records : List Record} {stages : List (Stage × Option Fault)} {level : Support}

/-- A self-test that broke has no support, and any other one is graded. -/
theorem broken_or_graded (h : Course cause records stages level) :
    (Broken stages ∧ level = .none) ∨ (¬Broken stages ∧ level = grade cause records) := by
  cases h with
  | notConfigured fault => exact .inl ⟨⟨.configure, fault, by simp, nofun⟩, rfl⟩
  | notCreated fault => exact .inl ⟨⟨.create, fault, by simp, nofun⟩, rfl⟩
  | notAttached fault => exact .inl ⟨⟨.attach, fault, by simp, nofun⟩, rfl⟩
  | notEmitted n fault detached hn => exact .inl ⟨⟨.emit, fault, by simp, nofun⟩, rfl⟩
  | graded detached =>
    refine .inr ⟨?_, rfl⟩
    rintro ⟨stage, fault, hmem, hstage⟩
    simp only [opening, List.replicate, List.cons_append, List.nil_append, List.mem_cons, Prod.mk.injEq, reduceCtorEq,
      and_false, List.not_mem_nil, or_false, false_or] at hmem
    exact hstage hmem.1

theorem none_iff (h : Course cause records stages level) : level = .none ↔ NoSupport stages records := by
  unfold NoSupport
  rw [← grade_eq_none_iff cause]
  rcases h.broken_or_graded with ⟨hbroken, rfl⟩ | ⟨hwhole, rfl⟩
  · simp [hbroken]
  · simp [hwhole]

theorem full_iff (h : Course cause records stages level) : level = .full ↔ FullSupport cause stages records := by
  unfold FullSupport
  rw [← grade_eq_full_iff cause]
  rcases h.broken_or_graded with ⟨hbroken, rfl⟩ | ⟨hwhole, rfl⟩
  · simp [hbroken]
  · simp [hwhole]

/-- **An attached channel is detached exactly once**, and no other one is. -/
theorem countP_detach (h : Course cause records stages level) :
    ((.attach, none) ∈ stages → stages.countP (·.1 = .detach) = 1) ∧
      ((.attach, none) ∉ stages → stages.countP (·.1 = .detach) = 0) := by
  cases h <;> simp [opening, List.countP_replicate]

theorem countP_configure (h : Course cause records stages level) : stages.countP (·.1 = .configure) = 1 := by
  cases h <;> simp [opening, List.countP_replicate]

end Course

/-! ## Asking again -/

/-- Asks a factory for its support level again and again, with other code acting before each question: the answers, and
the state behind them. -/
def Subject.ask (subject : Subject σ δ) (cause : Cause) : List (σ → σ) → Option Support → σ → List Support × σ
  | [], _, s => ([], s)
  | between :: others, known, s =>
    let (level, _, s) := supportLevel known subject cause (between s)
    let (levels, s) := subject.ask cause others (some level) s
    (level :: levels, s)

/-- A level that is known is the answer to every question, and asking does nothing. -/
theorem ask_known (subject : Subject σ δ) (cause : Cause) (level : Support) : ∀ (betweens : List (σ → σ)) (s : σ),
    subject.ask cause betweens (some level) s
      = (List.replicate betweens.length level, betweens.foldl (fun s between => between s) s)
  | [], _ => rfl
  | between :: others, s => by
    simp only [Subject.ask, supportLevel_known, ask_known subject cause level others]
    rfl

/-- A level that is not known is tested for at the first question, and is the answer to all others too. -/
theorem ask_unknown {subject : Subject σ δ} {cause : Cause} {between : σ → σ} {s : σ} {level : Support}
    {reports : List Diagnostic} {c : Collecting σ} (h : run subject cause (between s) = (level, reports, c))
    (others : List (σ → σ)) : subject.ask cause (between :: others) none s
      = (List.replicate (others.length + 1) level, others.foldl (fun s between => between s) c.state) := by
  simp only [Subject.ask, supportLevel_none h, ask_known]
  rfl

/-- Other code acts on a backend and leaves the notes on its stages alone. -/
def Noted.act (between : σ → σ) (n : Noted σ) : Noted σ := { n with state := between n.state }

theorem stages_foldl_act (betweens : List (σ → σ)) (n : Noted σ) :
    ((betweens.map Noted.act).foldl (fun n between => between n) n).stages = n.stages := by
  induction betweens generalizing n with
  | nil => rfl
  | cons between others ih => exact ih (Noted.act between n)

/-- **A factory tests itself at most once**, however often it is asked, and always gives the same answer. -/
theorem ask_noted (subject : Subject σ δ) (cause : Cause) (s : σ) (betweens : List (σ → σ)) :
    ∃ level n, subject.noted.ask cause (betweens.map Noted.act) none { state := s }
        = (List.replicate betweens.length level, n) ∧ n.stages.countP (·.1 = .configure) ≤ 1 := by
  cases betweens with
  | nil => exact ⟨.none, { state := s }, rfl, Nat.zero_le _⟩
  | cons between others =>
    obtain ⟨level, reports, c, stages, -, hnoted, hcourse⟩ := run_noted subject cause (between s)
    have hask := ask_unknown (s := { state := s }) (show run _ _ (Noted.act between _) = _ from hnoted)
      (others.map Noted.act)
    rw [List.length_map] at hask
    refine ⟨level, _, hask, ?_⟩
    rw [stages_foldl_act]
    exact Nat.le_of_eq hcourse.countP_configure

/-- **The support of a factory**, whatever its stages do. A self-test gives a level in any case, it enters its stages in
one of the orders that it may, with three events emitted while the channel is attached, and noting them leaves it as it
is. There is no support iff a stage failed or the records lack the texts of the events, full support iff
no stage failed and the records show exactly what was to be captured, and partial support otherwise. Asking for the
forced tag, the only thing that could fail, does not. An attached channel is detached exactly once, and however often
the factory is asked, it tests itself at most once and gives the same answer. -/
theorem support_graded (subject : Subject σ δ) (cause : Cause) (s : σ) : ∃ level reports c stages,
    run subject cause s = (level, reports, c) ∧
    run subject.noted cause { state := s } = (level, reports, c.noted stages) ∧
    Course cause c.records stages level ∧
    (level = .none ↔ NoSupport stages c.records) ∧
    (level = .full ↔ FullSupport cause stages c.records) ∧
    (level = .partly ↔ ¬NoSupport stages c.records ∧ ¬FullSupport cause stages c.records) ∧
    (∀ r : Record, ∃ answer, r.hasMetadata forcedKey (.bool true) = .ok answer) ∧
    ((.attach, none) ∈ stages → stages.countP (·.1 = .detach) = 1) ∧
    ((.attach, none) ∉ stages → stages.countP (·.1 = .detach) = 0) ∧
    ∀ betweens : List (σ → σ), ∃ answer n, subject.noted.ask cause (betweens.map Noted.act) none { state := s }
      = (List.replicate betweens.length answer, n) ∧ n.stages.countP (·.1 = .configure) ≤ 1 := by
  obtain ⟨level, reports, c, stages, hrun, hnoted, hcourse⟩ := run_noted subject cause s
  refine ⟨level, reports, c, stages, hrun, hnoted, hcourse, hcourse.none_iff, hcourse.full_iff, ?_,
    fun r => ⟨_, hasMetadata_forced r⟩, hcourse.countP_detach.1, hcourse.countP_detach.2, ask_noted subject cause s⟩
  rw [Support.eq_partly_iff, ne_eq, ne_eq, hcourse.none_iff, hcourse.full_iff]

end Probe

end LogAssay
