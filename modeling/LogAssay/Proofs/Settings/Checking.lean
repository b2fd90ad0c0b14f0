import LogAssay.Act
import LogAssay.Settings.Basic
import Mathlib.Data.List.Basic

/-!
# Settings from a mapping, check by check

Settings are read from a mapping by a chain of checks. What is checked stands in a table (`checks`), in the order in
which it is checked: each row has a condition, the fault that is told if the condition is violated, and its kind. A
chain *follows* a table if it succeeds only where every condition holds, and fails with the fault of the first one
that is violated. Chains that follow two tables, run one after the other, follow the joined table; so each reader is
compared with its own rows.

## Main statements

* `Follows.bind`: chains run one after the other follow the joined tables.
* `follows_sectionEntries`, `follows_checkKeys`, `follows_addLevels`, `follows_switchOf`: the readers, with their rows.
* `follows_ofValue`: reading settings follows the whole table.
* `ofValue_agrees`: which values are read, as what, and which fault is told of the others.
-/

namespace LogAssay

namespace Settings

/-! ## Tables of checks -/

/-- A condition, and the fault that is told if it is violated. -/
structure Check where
  condition : Prop
  fault : Fault
  kind : FaultKind

/-- A fault is the one of the first violated condition of a table. -/
inductive FirstViolated : List Check → Fault → Prop
  | here {c : Check} {others : List Check} : ¬c.condition → FirstViolated (c :: others) c.fault
  | later {c : Check} {others : List Check} {fault : Fault} : c.condition → FirstViolated others fault →
      FirstViolated (c :: others) fault

variable {α β : Type} {table others : List Check} {fault fault' : Fault}

namespace FirstViolated

theorem violated (h : FirstViolated table fault) : ¬∀ c ∈ table, c.condition := by
  induction h with
  | here hviolated => exact fun hall => hviolated (hall _ List.mem_cons_self)
  | later _ _ ih => exact fun hall => ih fun c hc => hall c (List.mem_cons_of_mem _ hc)

/-- A table has one first violated condition at most. -/
theorem unique (h : FirstViolated table fault) (h' : FirstViolated table fault') : fault = fault' := by
  induction h with
  | here hviolated =>
    cases h' with
    | here _ => rfl
    | later hcondition _ => exact absurd hcondition hviolated
  | later hcondition _ ih =>
    cases h' with
    | here hviolated => exact absurd hcondition hviolated
    | later _ hrest => exact ih hrest

theorem append_right (h : FirstViolated table fault) (others : List Check) :
    FirstViolated (table ++ others) fault := by
  induction h with
  | here hviolated => exact .here hviolated
  | later hcondition _ ih => exact .later hcondition ih

theorem append_left (hall : ∀ c ∈ table, c.condition) (h : FirstViolated others fault) :
    FirstViolated (table ++ others) fault := by
  induction table with
  | nil => exact h
  | cons c table ih =>
    exact .later (hall c List.mem_cons_self) (ih fun d hd => hall d (List.mem_cons_of_mem c hd))

end FirstViolated

/-- A chain of checks succeeds only where every condition of a table holds, and fails with the fault of the first
violated one. -/
structure Follows (outcome : Except Fault α) (table : List Check) : Prop where
  passed : ∀ a, outcome = .ok a → ∀ c ∈ table, c.condition
  refused : ∀ fault, outcome = .error fault → FirstViolated table fault

namespace Follows

/-- Every check is passed. -/
theorem pass (hall : ∀ c ∈ table, c.condition) (a : α) : Follows (.ok a : Except Fault α) table where
  passed _ _ := hall
  refused _ h := by cases h

/-- Nothing is checked. -/
theorem done (a : α) : Follows (.ok a : Except Fault α) [] := pass (fun _ hc => absurd hc List.not_mem_nil) a

/-- The first check is not passed. -/
theorem fail {condition : Prop} (h : ¬condition) (fault : Fault) (kind : FaultKind) (others : List Check) :
    Follows (.error fault : Except Fault α) (⟨condition, fault, kind⟩ :: others) where
  passed _ h := by cases h
  refused _ heq := by
    cases heq
    exact .here (c := ⟨condition, fault, kind⟩) h

/-- The first check is passed, and the others decide. -/
theorem cons {c : Check} {outcome : Except Fault α} (h : c.condition) (hrest : Follows outcome table) :
    Follows outcome (c :: table) where
  passed a ha := List.forall_mem_cons.2 ⟨h, hrest.passed a ha⟩
  refused fault hfault := .later h (hrest.refused fault hfault)

/-- The only check is passed. -/
theorem single {condition : Prop} (h : condition) (fault : Fault) (kind : FaultKind) (a : α) :
    Follows (.ok a : Except Fault α) [⟨condition, fault, kind⟩] :=
  .cons h (done a)

/-- **Chains run one after the other follow the joined tables.** -/
theorem bind {x : Except Fault α} {f : α → Except Fault β} (hx : Follows x table)
    (hf : ∀ a, x = .ok a → Follows (f a) others) : Follows (x >>= f) (table ++ others) := by
  cases x with
  | error fault =>
    refine ⟨(fun _ h => nomatch h), fun _ h => ?_⟩
    cases h
    exact (hx.refused fault rfl).append_right others
  | ok a =>
    have hpassed := hx.passed a rfl
    refine ⟨fun b h c hc => ?_, fun fault h => .append_left hpassed ((hf a rfl).refused fault h)⟩
    rcases List.mem_append.1 hc with hc | hc
    · exact hpassed c hc
    · exact (hf a rfl).passed b h c hc

theorem exists_ok_iff {outcome : Except Fault α} (h : Follows outcome table) :
    (∃ a, outcome = .ok a) ↔ ∀ c ∈ table, c.condition := by
  refine ⟨fun ⟨a, ha⟩ => h.passed a ha, fun hall => ?_⟩
  cases outcome with
  | ok a => exact ⟨a, rfl⟩
  | error fault => exact absurd hall (h.refused fault rfl).violated

theorem eq_error_iff {outcome : Except Fault α} (h : Follows outcome table) :
    outcome = .error fault ↔ FirstViolated table fault := by
  refine ⟨h.refused fault, fun hviolated => ?_⟩
  cases outcome with
  | ok a => exact absurd (h.passed a rfl) hviolated.violated
  | error fault' => rw [(h.refused fault' rfl).unique hviolated]

end Follows

/-! ## The table for settings -/

/-- The entries of a mapping; none of another value. -/
def entriesOf : Value → List (Value × Value)
  | .mapping entries => entries
  | _ => []

/-- What a mapping has under a key, if the key is there. -/
def part (v : Value) (key : String) : List Value := (Value.find? (entriesOf v) key).toList

/-- A section is a mapping with text keys. -/
def sectionChecks (title : String) (v : Value) : List Check :=
  [⟨∃ entries, v = .mapping entries, .notMapping title, .type⟩,
   ⟨∀ e ∈ entriesOf v, ∃ key, e.1 = .text key, .keyKind title, .type⟩]

/-- A level is a severity or a text, and is understood. -/
def levelChecks (e : Value × Value) : List Check :=
  [⟨(∃ name, e.2 = .text name) ∨ ∃ s, e.2 = .severity s, .levelKind e.1.plain, .type⟩,
   ⟨∃ s, Severity.ofValue e.2 = .ok s, .severityName e.2.plain, .value⟩]

/-- The keys and the version are understood. -/
def keyChecks (v : Value) : List Check :=
  ⟨∀ e ∈ entriesOf v, e.1 = .text "version" ∨ e.1 = .text "levels" ∨ e.1 = .text "use_test_id",
    .unknownKeys (unknownKeys (entriesOf v)), .value⟩ ::
  (part v "version").map fun x => ⟨x.eq (.int 1) = true, .version x, .value⟩

/-- What is checked of a value that settings are read from, in this order. -/
def checks (v : Value) : List Check :=
  sectionChecks "config" v ++
  (keyChecks v ++
  ((part v "levels").flatMap (sectionChecks "levels") ++
  (((part v "levels").flatMap entriesOf).flatMap levelChecks ++
  (part v "use_test_id").map fun x => ⟨∃ enabled, x = .bool enabled, .testIdSwitch, .type⟩)))

/-! ## Sections -/

theorem isText_iff (x : Value) : (x matches .scalar (.text _)) = true ↔ ∃ key, x = .text key := by
  split
  · next key => exact iff_of_true rfl ⟨key, rfl⟩
  · next hno =>
    refine iff_of_false Bool.false_ne_true ?_
    rintro ⟨key, rfl⟩
    exact hno key rfl

theorem sectionEntries_eq_ok_iff {title : String} {v : Value} {entries : List (Value × Value)} :
    sectionEntries title v = .ok entries ↔ v = .mapping entries ∧ ∀ e ∈ entries, ∃ key, e.1 = .text key := by
  cases v with
  | mapping es =>
    rw [sectionEntries]
    split
    · next hall =>
      constructor
      · rintro ⟨⟩
        exact ⟨rfl, fun e he => (isText_iff e.1).1 (List.all_eq_true.1 hall e he)⟩
      · rintro ⟨⟨⟩, -⟩
        rfl
    · next hall =>
      refine iff_of_false (fun h => by cases h) ?_
      rintro ⟨⟨⟩, htext⟩
      exact hall (List.all_eq_true.2 fun e he => (isText_iff e.1).2 (htext e he))
  | _ => exact iff_of_false (fun h => by cases h) fun h => by cases h.1

theorem follows_sectionEntries (title : String) (v : Value) :
    Follows (sectionEntries title v) (sectionChecks title v) := by
  cases houtcome : sectionEntries title v with
  | ok entries =>
    obtain ⟨rfl, htext⟩ := sectionEntries_eq_ok_iff.1 houtcome
    exact .pass (by simpa [sectionChecks, entriesOf] using htext) entries
  | error fault =>
    by_cases hmapping : ∃ entries, v = .mapping entries
    · obtain ⟨entries, rfl⟩ := hmapping
      have hfault : fault = .keyKind title := by
        rw [sectionEntries] at houtcome
        split at houtcome <;> cases houtcome
        rfl
      subst hfault
      refine .cons ⟨entries, rfl⟩ (.fail (fun htext => ?_) _ _ [])
      cases houtcome.symm.trans (sectionEntries_eq_ok_iff.2 ⟨rfl, htext⟩)
    · have hfault : fault = .notMapping title := by
        cases v with
        | mapping entries => exact absurd ⟨entries, rfl⟩ hmapping
        | _ => cases houtcome; rfl
      subst hfault
      exact .fail hmapping _ _ _

/-! ## Keys and version -/

/-- The keys that are told are those that are not understood. -/
theorem mem_unknownKeys_iff {entries : List (Value × Value)} {key : String} : key ∈ unknownKeys entries ↔
    (∃ x, (.text key, x) ∈ entries) ∧ key ≠ "version" ∧ key ≠ "levels" ∧ key ≠ "use_test_id" := by
  have hknown : ∀ name : String,
      knownKeys.contains name = true ↔ name = "version" ∨ name = "levels" ∨ name = "use_test_id" := by
    simp [knownKeys]
  rw [unknownKeys, List.mem_mergeSort, List.mem_filterMap]
  constructor
  · rintro ⟨⟨k, x⟩, hmem, hkey⟩
    cases k with
    | scalar s =>
      cases s with
      | text name =>
        obtain ⟨hunknown, hname⟩ := Option.ite_none_left_eq_some.1 hkey
        obtain rfl : name = key := Option.some.inj hname
        rw [hknown, not_or, not_or] at hunknown
        exact ⟨⟨x, hmem⟩, hunknown⟩
      | _ => cases hkey
    | _ => cases hkey
  · rintro ⟨⟨x, hmem⟩, hunknown⟩
    refine ⟨_, hmem, if_neg ?_⟩
    rw [hknown, not_or, not_or]
    exact hunknown

/-- The keys that are told are in order. -/
theorem pairwise_unknownKeys (entries : List (Value × Value)) : (unknownKeys entries).Pairwise (· ≤ ·) := by
  have htrans : ∀ a b c : String, decide (a ≤ b) = true → decide (b ≤ c) = true → decide (a ≤ c) = true := by
    simp only [decide_eq_true_eq]
    exact fun a b c => String.le_trans
  have htotal : ∀ a b : String, (decide (a ≤ b) || decide (b ≤ a)) = true := by
    simp only [Bool.or_eq_true, decide_eq_true_eq]
    exact String.le_total
  simpa only [unknownKeys, decide_eq_true_eq] using List.pairwise_mergeSort htrans htotal _

theorem unknownKeys_eq_nil_iff {entries : List (Value × Value)} (htext : ∀ e ∈ entries, ∃ key, e.1 = .text key) :
    unknownKeys entries = [] ↔
      ∀ e ∈ entries, e.1 = .text "version" ∨ e.1 = .text "levels" ∨ e.1 = .text "use_test_id" := by
  rw [List.eq_nil_iff_forall_not_mem]
  constructor
  · rintro hnone ⟨k, x⟩ hmem
    obtain ⟨key, rfl⟩ : ∃ key, k = .text key := htext (k, x) hmem
    by_contra hunknown
    refine hnone key (mem_unknownKeys_iff.2 ⟨⟨x, hmem⟩, ?_⟩)
    simpa using hunknown
  · intro hall key hkey
    obtain ⟨⟨x, hmem⟩, hunknown⟩ := mem_unknownKeys_iff.1 hkey
    have hknown := hall _ hmem
    simp [hunknown] at hknown

theorem checkKeys_of_unknown {entries : List (Value × Value)} (h : unknownKeys entries ≠ []) :
    checkKeys entries = .error (.unknownKeys (unknownKeys entries)) := by
  rw [checkKeys, if_pos (by simpa using h)]
  rfl

theorem checkKeys_of_known {entries : List (Value × Value)} (h : unknownKeys entries = []) :
    checkKeys entries = if ((Value.find? entries "version").getD (.int 1)).eq (.int 1) then .ok ()
      else .error (.version ((Value.find? entries "version").getD (.int 1))) := by
  rw [checkKeys, if_neg (by simp [h])]
  by_cases hversion : ((Value.find? entries "version").getD (.int 1)).eq (.int 1) = true
  · simp only [hversion]
    rfl
  · simp only [hversion]
    rfl

theorem follows_checkKeys {entries : List (Value × Value)} (htext : ∀ e ∈ entries, ∃ key, e.1 = .text key) :
    Follows (checkKeys entries) (keyChecks (.mapping entries)) := by
  by_cases hunknown : unknownKeys entries = []
  · refine .cons ((unknownKeys_eq_nil_iff htext).1 hunknown) ?_
    rw [checkKeys_of_known hunknown, part, entriesOf]
    cases Value.find? entries "version" with
    | none =>
      -- There is no row for a version that is missing: the default passes.
      have hone : (Value.int 1).eq (.int 1) = true := by cbv
      rw [Option.getD_none, if_pos hone]
      exact .done ()
    | some x =>
      by_cases hversion : x.eq (.int 1) = true
      · rw [Option.getD_some, if_pos hversion]
        exact .single hversion _ _ ()
      · rw [Option.getD_some, if_neg hversion]
        exact .fail hversion _ _ []
  · rw [checkKeys_of_unknown hunknown]
    exact .fail (fun hall => hunknown ((unknownKeys_eq_nil_iff htext).2 hall)) _ _ _

/-! ## Levels -/

/-- The severity of a level, which has to be a text or a severity. -/
def levelSeverity (channel : Value) (level : Value) : Except Fault Severity :=
  match level with
  | .scalar (.text _) | .severity _ => Severity.ofValue level
  | _ => .error (.levelKind channel.plain)

theorem follows_levelSeverity (channel level : Value) :
    Follows (levelSeverity channel level) (levelChecks (channel, level)) := by
  cases level with
  | severity s => exact .pass (by simp [levelChecks, Severity.ofValue]) s
  | scalar x =>
    cases x with
    | text name =>
      refine .cons (.inl ⟨name, rfl⟩) ?_
      cases hname : Severity.ofName? name with
      | some s =>
        have hvalue : levelSeverity channel (.text name) = .ok s := by simp [levelSeverity, Severity.ofValue, hname]
        rw [hvalue]
        exact .single ⟨s, hvalue⟩ _ _ s
      | none =>
        have hvalue : levelSeverity channel (.text name) = .error (.severityName name) := by
          simp [levelSeverity, Severity.ofValue, hname]
        rw [hvalue]
        refine .fail (fun h => ?_) _ _ []
        obtain ⟨s, hs⟩ := h
        cases hvalue.symm.trans hs
    | _ => exact .fail (by simp) _ _ _
  | _ => exact .fail (by simp) _ _ _

theorem addLevels_cons (levels : Levels) (channel : String) (level : Value) (others : List (Value × Value)) :
    addLevels levels ((.text channel, level) :: others)
      = levelSeverity (.text channel) level >>= fun severity => addLevels (levels.request channel severity) others := by
  cases level with
  | severity s => rfl
  | scalar x =>
    cases x with
    | text name =>
      -- A text passes as a text; as a severity it is read when it is requested.
      show Levels.requestValue levels (.text channel) (.text name) >>= _ = Severity.ofValue (.text name) >>= _
      rw [Levels.requestValue]
      cases Severity.ofValue (.text name) <;> rfl
    | _ => rfl
  | _ => rfl

theorem follows_addLevels : ∀ {requests : List (Value × Value)} (levels : Levels),
    (∀ e ∈ requests, ∃ channel, e.1 = .text channel) →
    Follows (addLevels levels requests) (requests.flatMap levelChecks)
  | [], levels, _ => .done levels
  | (k, level) :: others, levels, htext => by
    obtain ⟨channel, rfl⟩ : ∃ channel, k = .text channel := htext (k, level) List.mem_cons_self
    rw [addLevels_cons, List.flatMap_cons]
    exact (follows_levelSeverity _ level).bind fun severity _ =>
      follows_addLevels (levels.request channel severity) fun e he => htext e (List.mem_cons_of_mem _ he)

/-- Levels that are read are those that the requests come to. -/
theorem requestValues_of_addLevels : ∀ {requests : List (Value × Value)} {levels result : Levels},
    (∀ e ∈ requests, ∃ channel, e.1 = .text channel) → addLevels levels requests = .ok result →
    levels.requestValues requests = .ok result
  | [], _, _, _, h => h
  | (k, level) :: others, levels, result, htext, h => by
    obtain ⟨channel, rfl⟩ : ∃ channel, k = .text channel := htext (k, level) List.mem_cons_self
    rw [addLevels_cons] at h
    obtain ⟨severity, hseverity, hrest⟩ := exists_ok_of_bind h
    have hvalue : Severity.ofValue level = .ok severity := by
      unfold levelSeverity at hseverity
      split at hseverity
      · exact hseverity
      · exact hseverity
      · cases hseverity
    rw [Levels.requestValues, Levels.requestValue, hvalue]
    exact requestValues_of_addLevels (fun e he => htext e (List.mem_cons_of_mem _ he)) hrest

/-! ## The switch -/

/-- The switch for test ids, which is on if it is not there. -/
def switchOf : Option Value → Except Fault Bool
  | none => .ok true
  | some (.scalar (.bool enabled)) => .ok enabled
  | some _ => .error .testIdSwitch

theorem follows_switchOf (x : Option Value) :
    Follows (switchOf x) (x.toList.map fun x => ⟨∃ enabled, x = .bool enabled, .testIdSwitch, .type⟩) := by
  cases x with
  | none => exact .done true
  | some v =>
    cases v with
    | scalar s =>
      cases s with
      | bool enabled => exact .single ⟨enabled, rfl⟩ _ _ enabled
      | _ => exact .fail (by simp) _ _ []
    | _ => exact .fail (by simp) _ _ []

theorem switchOf_eq_ok {x : Option Value} {useTestId : Bool} (h : switchOf x = .ok useTestId) :
    x = none ∧ useTestId = true ∨ x = some (.bool useTestId) := by
  unfold switchOf at h
  split at h <;> cases h
  · exact .inl ⟨rfl, rfl⟩
  · exact .inr rfl

/-! ## Settings -/

/-- Settings are read section by section. -/
theorem ofValue_eq (v : Value) : ofValue v = do
    let entries ← sectionEntries "config" v
    checkKeys entries
    let requested ← sectionEntries "levels" ((Value.find? entries "levels").getD (.mapping []))
    let levels ← addLevels [] requested
    let useTestId ← switchOf (Value.find? entries "use_test_id")
    return { levels := levels, useTestId := useTestId } := by
  rw [ofValue]
  refine bind_congr fun entries => bind_congr fun _ => bind_congr fun requested => bind_congr fun levels => ?_
  cases Value.find? entries "use_test_id" with
  | none => rfl
  | some x =>
    cases x with
    | scalar s => cases s <;> rfl
    | _ => rfl

theorem follows_levelsSection (x : Option Value) : Follows (sectionEntries "levels" (x.getD (.mapping [])))
    (x.toList.flatMap (sectionChecks "levels")) := by
  cases x with
  | none => exact .done []
  | some v => simpa using follows_sectionEntries "levels" v

/-- The requested levels are the entries of their section, if it is there. -/
theorem levelsSection_eq_ok {x : Option Value} {requested : List (Value × Value)}
    (h : sectionEntries "levels" (x.getD (.mapping [])) = .ok requested) :
    x.toList.flatMap entriesOf = requested ∧ ∀ e ∈ requested, ∃ channel, e.1 = .text channel := by
  obtain ⟨hx, htext⟩ := sectionEntries_eq_ok_iff.1 h
  refine ⟨?_, htext⟩
  cases x with
  | none =>
    cases hx
    rfl
  | some v =>
    obtain rfl : v = .mapping requested := hx
    simp [entriesOf]

/-- **Reading settings follows the table.** -/
theorem follows_ofValue (v : Value) : Follows (ofValue v) (checks v) := by
  rw [ofValue_eq]
  refine (follows_sectionEntries "config" v).bind fun entries hentries => ?_
  obtain ⟨rfl, htext⟩ := sectionEntries_eq_ok_iff.1 hentries
  refine (follows_checkKeys htext).bind fun _ _ => ?_
  refine (follows_levelsSection _).bind fun requested hrequested => ?_
  obtain ⟨rfl, hchannels⟩ := levelsSection_eq_ok hrequested
  refine (follows_addLevels [] hchannels).bind fun levels _ => ?_
  have hswitch := (follows_switchOf (Value.find? entries "use_test_id")).bind fun useTestId _ =>
    Follows.done ({ levels := levels, useTestId := useTestId } : Settings)
  rwa [List.append_nil] at hswitch

/-- The settings that are built from the parts of a mapping: the levels are requested, and the switch is set if it is
there. -/
def built (v : Value) : Except Fault Settings := do
  let settings ← ({} : Settings).withLevels ((part v "levels").flatMap entriesOf)
  return (Value.find? (entriesOf v) "use_test_id").elim settings fun x => settings.withTestId x.holds

theorem built_eq_of_ofValue {v : Value} {s : Settings} (h : ofValue v = .ok s) : built v = .ok s := by
  rw [ofValue_eq] at h
  obtain ⟨entries, hentries, hkeys⟩ := exists_ok_of_bind h
  obtain ⟨rfl, -⟩ := sectionEntries_eq_ok_iff.1 hentries
  obtain ⟨-, -, hsection⟩ := exists_ok_of_bind hkeys
  obtain ⟨requested, hrequested, hadding⟩ := exists_ok_of_bind hsection
  obtain ⟨rfl, hchannels⟩ := levelsSection_eq_ok hrequested
  obtain ⟨levels, hlevels, hlast⟩ := exists_ok_of_bind hadding
  obtain ⟨useTestId, hswitch, hs⟩ := exists_ok_of_bind hlast
  obtain rfl : { levels := levels, useTestId := useTestId } = s := Except.ok.inj hs
  have hwith : ({} : Settings).withLevels ((part (.mapping entries) "levels").flatMap entriesOf)
      = .ok { levels := levels } := by
    rw [withLevels, part, entriesOf, requestValues_of_addLevels hchannels hlevels]
    rfl
  rw [built, hwith]
  show Except.ok (Option.elim (Value.find? entries "use_test_id") _ _) = _
  rcases switchOf_eq_ok hswitch with ⟨habsent, rfl⟩ | hset
  · rw [habsent]
    rfl
  · rw [hset]
    rfl

/-! ## Configurations -/

/-- A value that settings can be read from: a mapping with three keys at most, each of which may be missing. -/
structure IsConfiguration (v : Value) : Prop where
  mapping : ∃ entries, v = .mapping entries
  keys : ∀ e ∈ entriesOf v, e.1 = .text "version" ∨ e.1 = .text "levels" ∨ e.1 = .text "use_test_id"
  version : ∀ x ∈ part v "version", x.eq (.int 1) = true
  levels : ∀ x ∈ part v "levels", ∃ requested, x = .mapping requested ∧
    ∀ e ∈ requested, (∃ channel, e.1 = .text channel) ∧ ∃ s, Severity.ofValue e.2 = .ok s
  switch : ∀ x ∈ part v "use_test_id", ∃ enabled, x = .bool enabled

/-- Severities and the texts that name them are all that is understood as a severity. -/
theorem text_or_severity_of_ofValue {x : Value} {s : Severity} (h : Severity.ofValue x = .ok s) :
    (∃ name, x = .text name) ∨ ∃ s, x = .severity s := by
  cases x with
  | severity s' => exact .inr ⟨s', rfl⟩
  | scalar y =>
    cases y with
    | text name => exact .inl ⟨name, rfl⟩
    | _ => cases h
  | _ => cases h

theorem forall_sectionChecks {title : String} {v : Value} : (∀ c ∈ sectionChecks title v, c.condition) ↔
    ∃ entries, v = .mapping entries ∧ ∀ e ∈ entries, ∃ key, e.1 = .text key := by
  simp only [sectionChecks, List.forall_mem_cons]
  constructor
  · rintro ⟨⟨entries, rfl⟩, htext, -⟩
    exact ⟨entries, rfl, htext⟩
  · rintro ⟨entries, rfl, htext⟩
    exact ⟨⟨entries, rfl⟩, htext, fun c hc => absurd hc List.not_mem_nil⟩

theorem forall_levelChecks {e : Value × Value} :
    (∀ c ∈ levelChecks e, c.condition) ↔ ∃ s, Severity.ofValue e.2 = .ok s := by
  simp only [levelChecks, List.forall_mem_cons]
  constructor
  · rintro ⟨-, hlevel, -⟩
    exact hlevel
  · rintro ⟨s, hs⟩
    exact ⟨text_or_severity_of_ofValue hs, ⟨s, hs⟩, fun c hc => absurd hc List.not_mem_nil⟩

/-- A configuration passes every check. -/
theorem isConfiguration_iff (v : Value) : IsConfiguration v ↔ ∀ c ∈ checks v, c.condition := by
  simp only [checks, keyChecks, List.forall_mem_append, List.forall_mem_cons, List.forall_mem_map,
    List.forall_mem_flatMap, forall_sectionChecks, forall_levelChecks]
  constructor
  · rintro ⟨⟨entries, rfl⟩, hkeys, hversion, hlevels, hswitch⟩
    refine ⟨⟨entries, rfl, fun e he => ?_⟩, ⟨hkeys, hversion⟩, fun x hx => ?_, fun x hx e he => ?_, hswitch⟩
    · rcases hkeys e he with h | h | h <;> exact ⟨_, h⟩
    · obtain ⟨requested, rfl, hrequested⟩ := hlevels x hx
      exact ⟨requested, rfl, fun e he => (hrequested e he).1⟩
    · obtain ⟨requested, rfl, hrequested⟩ := hlevels x hx
      exact (hrequested e he).2
  · rintro ⟨⟨entries, rfl, -⟩, ⟨hkeys, hversion⟩, hsection, hlevels, hswitch⟩
    refine ⟨⟨entries, rfl⟩, hkeys, hversion, fun x hx => ?_, hswitch⟩
    obtain ⟨requested, rfl, hchannels⟩ := hsection x hx
    exact ⟨requested, rfl, fun e he => ⟨hchannels e he, hlevels _ hx e he⟩⟩

/-- A check that is violated is told by a fault of its kind. -/
theorem kind_of_mem_checks {v : Value} : ∀ c ∈ checks v, c.fault.kind = c.kind := by
  simp only [checks, keyChecks, sectionChecks, levelChecks, List.forall_mem_append, List.forall_mem_cons,
    List.forall_mem_map, List.forall_mem_flatMap]
  simp [Fault.kind]

/-- **Settings from a mapping and settings that are built.** Settings are read from a value exactly if it is a
configuration, and are then those that are built from its parts. Of any other value the fault is told of the first
check in the table that it does not pass, which is a fault of that check's kind; and of keys that are not understood
all are told, in order. -/
theorem ofValue_agrees (v : Value) :
    ((∃ s, ofValue v = .ok s) ↔ IsConfiguration v) ∧
    (∀ s, ofValue v = .ok s ↔ IsConfiguration v ∧ built v = .ok s) ∧
    (∀ fault, ofValue v = .error fault ↔ FirstViolated (checks v) fault) ∧
    (∀ c ∈ checks v, c.fault.kind = c.kind) ∧
    (unknownKeys (entriesOf v)).Pairwise (· ≤ ·) ∧
    ∀ key, key ∈ unknownKeys (entriesOf v) ↔
      (∃ x, (.text key, x) ∈ entriesOf v) ∧ key ≠ "version" ∧ key ≠ "levels" ∧ key ≠ "use_test_id" := by
  have hread : (∃ s, ofValue v = .ok s) ↔ IsConfiguration v := by
    rw [isConfiguration_iff]
    exact (follows_ofValue v).exists_ok_iff
  refine ⟨hread, fun s => ⟨fun h => ⟨hread.1 ⟨s, h⟩, built_eq_of_ofValue h⟩, fun ⟨hconfiguration, hbuilt⟩ => ?_⟩,
    fun fault => (follows_ofValue v).eq_error_iff, kind_of_mem_checks, pairwise_unknownKeys _,
    fun key => mem_unknownKeys_iff⟩
  obtain ⟨s', hs'⟩ := hread.2 hconfiguration
  rw [hs', ← built_eq_of_ofValue hs', hbuilt]

end Settings

end LogAssay
