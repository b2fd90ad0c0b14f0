import LogAssay.Proofs.Capture.Verification
import LogAssay.Proofs.Query.Narrowing
import LogAssay.Query.Script
import Mathlib.Data.List.Perm.Subperm

/-!
# Chains of queries

A chain is a script in which every operation works on the query that the one before it left. Filters, matchers and
passing assertions keep a sub-sequence of the entries that they see, and ordering by time shuffles them; nothing else
can happen to a view. So a chain neither makes entries up nor doubles them, and keeps their order unless it orders them
by time. Whether a view may be empty is inherited along the chain.

## Main statements

* `follows_run`: all that an operation can do to a view.
* `chain_keeps`: a chain that succeeds leaves some of the entries, each at most once, and matchers may be split into
  two steps anywhere.
-/

namespace LogAssay

/-! ## Matchers -/

theorem orderedByTime_perm (entries : List Entry) : (orderedByTime entries).Perm entries := List.mergeSort_perm ..

/-- What stands before and after a target that is in the view. -/
theorem sublist_of_cutAt? {target : Entry} {entries before after : List Entry}
    (h : cutAt? target entries = some (before, after)) : before.Sublist entries ∧ after.Sublist entries := by
  obtain ⟨found, hcut⟩ := cutAt?_eq_some_iff.1 h
  rw [← hcut.joined]
  exact ⟨(List.sublist_append_left _ _).trans (List.sublist_append_left _ _), List.sublist_append_right _ _⟩

namespace Matcher

theorem sublist_of_cut {side : Side} {target : Entry} {entries kept : List Entry}
    (h : cut side target entries = .ok kept) : kept.Sublist entries := by
  unfold cut at h
  rcases hcut : cutAt? target entries with _ | ⟨before, after⟩
  · simp [hcut] at h
  · have hsub := sublist_of_cutAt? hcut
    rw [hcut] at h
    cases side with
    | before => exact Except.ok.inj h ▸ hsub.1
    | after => exact Except.ok.inj h ▸ hsub.2

/-- A matcher that does not order by time keeps a sub-sequence. -/
theorem sublist_of_apply {m : Matcher} {entries kept : List Entry} (hm : m ≠ ordered)
    (h : m.apply entries = .ok kept) : kept.Sublist entries := by
  cases m with
  | relative side target narrowed =>
    cases hcut : cut side target entries with
    | error fault => simp [apply_relative, hcut, Except.map] at h
    | ok part =>
      obtain rfl : part.filter _ = kept := by simpa [apply_relative, hcut, Except.map] using h
      exact List.filter_sublist.trans (sublist_of_cut hcut)
  | related relation target => exact Except.ok.inj h ▸ List.filter_sublist
  | ordered => exact absurd rfl hm
  | selected label condition => exact sublist_of_filterOrFail h

theorem subperm_of_apply {m : Matcher} {entries kept : List Entry} (h : m.apply entries = .ok kept) :
    kept.Subperm entries := by
  by_cases hm : m = ordered
  · subst hm
    exact Except.ok.inj h ▸ (orderedByTime_perm entries).subperm
  · exact (sublist_of_apply hm h).subperm

theorem subperm_of_applyAll : ∀ {ms : List Matcher} {entries kept : List Entry},
    applyAll ms entries = .ok kept → kept.Subperm entries
  | [], entries, kept, h => by
    obtain rfl : entries = kept := Except.ok.inj h
    exact List.Subperm.refl entries
  | m :: ms, entries, kept, h => by
    obtain ⟨part, hpart, h⟩ := exists_ok_of_bind h
    exact (subperm_of_applyAll h).trans (subperm_of_apply hpart)

theorem sublist_of_applyAll : ∀ {ms : List Matcher} {entries kept : List Entry}, ordered ∉ ms →
    applyAll ms entries = .ok kept → kept.Sublist entries
  | [], entries, kept, _, h => by
    obtain rfl : entries = kept := Except.ok.inj h
    exact List.Sublist.refl entries
  | m :: ms, entries, kept, hms, h => by
    rw [List.mem_cons, not_or] at hms
    obtain ⟨part, hpart, h⟩ := exists_ok_of_bind h
    exact (sublist_of_applyAll hms.2 h).trans (sublist_of_apply (Ne.symm hms.1) hpart)

/-- Matchers work one after the other, wherever their list is split. -/
theorem applyAll_append : ∀ (ms others : List Matcher) (entries : List Entry),
    applyAll (ms ++ others) entries = applyAll ms entries >>= applyAll others
  | [], _, _ => rfl
  | m :: ms, others, entries => by
    rw [List.cons_append, applyAll, applyAll, bind_assoc]
    congr
    funext part
    exact applyAll_append ms others part

end Matcher

namespace Query

theorem entries_matching (q : Query) (ms : List Matcher) :
    (q.matching ms).map entries = Matcher.applyAll ms q.entries := by
  unfold matching
  cases ms with
  | nil => rfl
  | cons m ms => cases h : Matcher.applyAll (m :: ms) q.entries <;> rfl

/-- **Matchers may be split into two steps** at any place, with the same entries or the same fault. -/
theorem entries_matching_split (q : Query) (ms others : List Matcher) :
    (q.matching (ms ++ others)).map entries = (q.matching ms >>= (·.matching others)).map entries := by
  have hfirst := q.entries_matching ms
  rw [entries_matching, Matcher.applyAll_append, ← hfirst]
  cases q.matching ms with
  | error fault => rfl
  | ok view => exact (view.entries_matching others).symm

/-! ## Chains -/

/-- The query at the end of a chain: each operation works on the query that the one before it left. -/
def chain (q : Query) (ops : List Operation) : Except Fault Query :=
  q.follow (ops.map fun op => { operation := op })

/-- Steps that name no query do not look back. -/
theorem runThrough_latest (initial latest : Query) (made : List (Option Query)) (ops : List Operation) :
    runThrough initial latest made (ops.map fun op => { operation := op }) = latest.chain ops := by
  unfold chain follow
  induction ops generalizing initial latest made with
  | nil => rfl
  | cons op ops ih =>
    simp only [List.map_cons, runThrough, Step.subject]
    congr
    funext outcome
    rw [ih, ← ih latest]

theorem chain_cons (q : Query) (op : Operation) (ops : List Operation) :
    q.chain (op :: ops) = q.run op >>= fun outcome => (outcome.query?.getD q).chain ops := by
  unfold chain follow
  simp only [List.map_cons, runThrough, Step.subject, runThrough_latest]

/-- Whether an operation may change the order of the entries. -/
def Operation.Reorders : Operation → Prop
  | .ordered => True
  | .filterBy matcher => matcher = .ok .ordered
  | .matching matchers => ∃ ms, matchers = .ok ms ∧ .ordered ∈ ms
  | _ => False

/-- **All that an operation can do to a view.** It keeps some of the entries, in their order if it does not order them
by time, and asks for a non-empty view as before, unless it is said that there need not be any entry. -/
structure Follows (op : Operation) (q q' : Query) : Prop where
  subperm : q'.entries.Subperm q.entries
  sublist : ¬op.Reorders → q'.entries.Sublist q.entries
  allowEmpty : q'.allowEmpty = true ↔ q.allowEmpty = true ∨ op = .allowingNoMatches

namespace Follows

variable {op : Operation} {q : Query}

/-- The view stays as it is. -/
theorem same (hop : op ≠ .allowingNoMatches) : Follows op q q where
  subperm := List.Subperm.refl _
  sublist := fun _ => List.Sublist.refl _
  allowEmpty := by simp [hop]

/-- A view is made of a sub-sequence of the entries. -/
theorem of_sublist (hop : op ≠ .allowingNoMatches) (step : String) {kept : List Entry}
    (h : kept.Sublist q.entries) : Follows op q (q.derive step kept) where
  subperm := h.subperm
  sublist := fun _ => h
  allowEmpty := by simp [derive, hop]

theorem of_restrict (hop : op ≠ .allowingNoMatches) {step : String} {p : Predicate} {q' : Query}
    (h : q.restrict step p = .ok q') : Follows op q q' := by
  cases hkept : filterOrFail p.test q.entries with
  | error fault => simp [restrict, hkept, Except.map] at h
  | ok kept =>
    obtain rfl : q.derive step kept = q' := by simpa [restrict, hkept, Except.map] using h
    exact of_sublist hop step (sublist_of_filterOrFail hkept)

theorem of_filterBy {m : Matcher} {q' : Query} (h : q.filterBy m = .ok q') : Follows (.filterBy (.ok m)) q q' := by
  cases hkept : m.apply q.entries with
  | error fault => simp [filterBy, hkept, Except.map] at h
  | ok kept =>
    obtain rfl : q.derive m.label kept = q' := by simpa [filterBy, hkept, Except.map] using h
    exact {
      subperm := Matcher.subperm_of_apply hkept
      sublist := fun hm => Matcher.sublist_of_apply (fun he => hm (congrArg Except.ok he)) hkept
      allowEmpty := by simp [derive] }

theorem of_matching {ms : List Matcher} {q' : Query} (h : q.matching ms = .ok q') :
    Follows (.matching (.ok ms)) q q' := by
  have hkept : Matcher.applyAll ms q.entries = .ok q'.entries := by
    rw [← entries_matching, h]
    rfl
  exact {
    subperm := Matcher.subperm_of_applyAll hkept
    sublist := fun hms => Matcher.sublist_of_applyAll (fun hm => hms ⟨ms, rfl, hm⟩) hkept
    allowEmpty := by
      have hsame : q'.allowEmpty = q.allowEmpty := by
        cases ms with
        | nil => rw [Except.ok.inj h]
        | cons m ms =>
          cases hpart : Matcher.applyAll (m :: ms) q.entries with
          | error fault => simp [matching, hpart, Except.map] at h
          | ok part =>
            obtain rfl : q.derive _ part = q' := by simpa [matching, hpart, Except.map] using h
            rfl
      simp [hsame] }

end Follows

/-! ### Assertions that pass -/

theorem eq_of_every {q q' : Query} {condition : Condition} (h : q.every condition = .ok q') : q' = q := by
  obtain ⟨p, -, h⟩ := exists_ok_of_bind h
  obtain ⟨failing, -, h⟩ := exists_ok_of_bind h
  split at h
  · exact (Except.ok.inj h).symm
  · cases h

theorem eq_of_none {q q' : Query} {condition : Condition} (h : q.none condition = .ok q') : q' = q := by
  obtain ⟨p, -, h⟩ := exists_ok_of_bind h
  obtain ⟨failing, -, h⟩ := exists_ok_of_bind h
  split at h
  · exact (Except.ok.inj h).symm
  · cases h

theorem eq_of_any {q q' : Query} {condition : Condition} (h : q.any condition = .ok q') : q' = q := by
  obtain ⟨p, -, h⟩ := exists_ok_of_bind h
  obtain ⟨found, -, h⟩ := exists_ok_of_bind h
  split at h
  · exact (Except.ok.inj h).symm
  · cases h

theorem eq_of_satisfy {q q' : Query} {quantifier : Quantifier} {condition : Condition}
    (h : q.satisfy quantifier condition = .ok q') : q' = q := by
  cases quantifier with
  | always => exact eq_of_every h
  | never => exact eq_of_none h
  | atLeastOne => exact eq_of_any h

theorem eq_of_quantified {q q' : Query} {quantifier : Quantifier} (h : q.quantified quantifier = .ok q') :
    q' = q.derive (quantifier.name ++ "()") q.entries := by
  cases quantifier with
  | atLeastOne => exact (Except.ok.inj h).symm
  | always | never =>
    obtain ⟨_, -, h⟩ := exists_ok_of_bind h
    exact (Except.ok.inj h).symm

/-! ### Steps and chains -/

/-- An outcome that is read off a step is the step's own. -/
theorem exists_ok_of_outcome {α : Type} {x : Except Fault α} {f : α → Outcome} {outcome : Outcome}
    (h : (do return f (← x)) = .ok outcome) : ∃ a, x = .ok a ∧ f a = outcome := by
  obtain ⟨a, ha, h⟩ := exists_ok_of_bind h
  exact ⟨a, ha, Except.ok.inj h⟩

/-- **What an operation that succeeds does to a view**, by the kind of operation. -/
theorem follows_run {q : Query} {op : Operation} {outcome : Outcome} (h : q.run op = .ok outcome) :
    Follows op q (outcome.query?.getD q) := by
  cases op with
  | keeping criterion =>
    obtain ⟨p, -, h⟩ := exists_ok_of_bind h
    obtain ⟨view, hview, rfl⟩ := exists_ok_of_outcome h
    exact .of_restrict (by nofun) hview
  | filter condition =>
    obtain ⟨c, -, h⟩ := exists_ok_of_bind h
    obtain ⟨view, hview, rfl⟩ := exists_ok_of_outcome h
    obtain ⟨p, -, hview⟩ := exists_ok_of_bind hview
    exact .of_restrict (by nofun) hview
  | filterBy matcher =>
    obtain ⟨m, rfl, h⟩ := exists_ok_of_bind h
    obtain ⟨view, hview, rfl⟩ := exists_ok_of_outcome h
    exact .of_filterBy hview
  | matching matchers =>
    obtain ⟨ms, rfl, h⟩ := exists_ok_of_bind h
    obtain ⟨view, hview, rfl⟩ := exists_ok_of_outcome h
    exact .of_matching hview
  | ordered =>
    obtain rfl := Except.ok.inj h
    exact {
      subperm := (orderedByTime_perm q.entries).subperm
      sublist := fun hnot => absurd trivial hnot
      allowEmpty := by simp [Outcome.query?, Query.ordered, derive] }
  | allowingNoMatches =>
    obtain rfl := Except.ok.inj h
    exact {
      subperm := List.Subperm.refl _
      sublist := fun _ => List.Sublist.refl _
      allowEmpty := by simp [Outcome.query?, Query.allowingNoMatches] }
  | every condition =>
    obtain ⟨c, -, h⟩ := exists_ok_of_bind h
    obtain ⟨view, hview, rfl⟩ := exists_ok_of_outcome h
    obtain rfl := eq_of_every hview
    exact .same nofun
  | none condition =>
    obtain ⟨c, -, h⟩ := exists_ok_of_bind h
    obtain ⟨view, hview, rfl⟩ := exists_ok_of_outcome h
    obtain rfl := eq_of_none hview
    exact .same nofun
  | any condition =>
    obtain ⟨c, -, h⟩ := exists_ok_of_bind h
    obtain ⟨view, hview, rfl⟩ := exists_ok_of_outcome h
    obtain rfl := eq_of_any hview
    exact .same nofun
  | quantified quantifier condition =>
    obtain ⟨asked, hasked, h⟩ := exists_ok_of_bind h
    obtain ⟨c, -, h⟩ := exists_ok_of_bind h
    obtain ⟨view, hview, rfl⟩ := exists_ok_of_outcome h
    obtain rfl := eq_of_satisfy hview
    obtain rfl := eq_of_quantified hasked
    exact .of_sublist (by nofun) _ (List.Sublist.refl _)
  | count | isEmpty | allMatches | display =>
    obtain rfl := Except.ok.inj h
    exact .same nofun
  | matchCount | getMatch | getOnlyMatch =>
    obtain ⟨_, -, rfl⟩ := exists_ok_of_outcome h
    exact .same nofun
  | doNotOccur =>
    obtain ⟨_, -, h⟩ := exists_ok_of_bind h
    obtain rfl := Except.ok.inj h
    exact .same nofun
  | test condition =>
    obtain ⟨c, -, h⟩ := exists_ok_of_bind h
    obtain ⟨p, -, h⟩ := exists_ok_of_bind h
    obtain ⟨_, -, rfl⟩ := exists_ok_of_outcome h
    exact .same nofun
  | apply matcher =>
    obtain ⟨m, -, h⟩ := exists_ok_of_bind h
    obtain ⟨_, -, rfl⟩ := exists_ok_of_outcome h
    exact .same nofun

variable {q q' : Query} {ops : List Operation}

/-- What every operation does to a view, a chain does. -/
theorem chain_induction {P : Query → Prop} (hstep : ∀ view op next, op ∈ ops → Follows op view next → P view → P next)
    (h : q.chain ops = .ok q') (hq : P q) : P q' := by
  induction ops generalizing q with
  | nil => exact Except.ok.inj h ▸ hq
  | cons op ops ih =>
    rw [chain_cons] at h
    obtain ⟨outcome, houtcome, h⟩ := exists_ok_of_bind h
    have hnext := hstep q op _ List.mem_cons_self (follows_run houtcome) hq
    exact ih (fun view o next ho => hstep view o next (List.mem_cons_of_mem op ho)) h hnext

theorem subperm_of_chain (h : q.chain ops = .ok q') : q'.entries.Subperm q.entries :=
  chain_induction (P := fun view => view.entries.Subperm q.entries)
    (fun _ _ _ _ hfollows hview => hfollows.subperm.trans hview) h (List.Subperm.refl _)

/-- Without ordering by time, entries keep their order. -/
theorem sublist_of_chain (hops : ∀ op ∈ ops, ¬op.Reorders) (h : q.chain ops = .ok q') :
    q'.entries.Sublist q.entries :=
  chain_induction (P := fun view => view.entries.Sublist q.entries)
    (fun _ op _ hop hfollows hview => (hfollows.sublist (hops op hop)).trans hview) h (List.Sublist.refl _)

/-- A view may be empty iff that was said at its beginning or anywhere in the chain. -/
theorem allowEmpty_of_chain (h : q.chain ops = .ok q') :
    q'.allowEmpty = true ↔ q.allowEmpty = true ∨ .allowingNoMatches ∈ ops := by
  induction ops generalizing q with
  | nil => simp [Except.ok.inj h]
  | cons op ops ih =>
    rw [chain_cons] at h
    obtain ⟨outcome, houtcome, h⟩ := exists_ok_of_bind h
    rw [ih h, (follows_run houtcome).allowEmpty, List.mem_cons, or_assoc, @eq_comm _ op]

/-- **Views neither make entries up nor double them.** A chain on distinct entries that succeeds leaves some of them,
each at most once, and in their order unless it orders them by time. Matchers that are given together do what they do
in two steps. -/
theorem chain_keeps (hdistinct : (q.entries.map Entry.serial).Nodup) (h : q.chain ops = .ok q') :
    q'.entries.Subperm q.entries ∧ (q'.entries.map Entry.serial).Nodup ∧
    ((∀ op ∈ ops, ¬op.Reorders) → q'.entries.Sublist q.entries) ∧
    ∀ (ms : List Matcher) (k : Nat),
      (q'.matching ms).map entries = (q'.matching (ms.take k) >>= (·.matching (ms.drop k))).map entries := by
  have hsub := subperm_of_chain h
  refine ⟨hsub, ?_, fun hops => sublist_of_chain hops h, ?_⟩
  · obtain ⟨kept, hperm, hkept⟩ := hsub
    exact (hperm.map Entry.serial).nodup_iff.1 (hdistinct.sublist (hkept.map Entry.serial))
  · intro ms k
    have hsplit := q'.entries_matching_split (ms.take k) (ms.drop k)
    rwa [List.take_append_drop] at hsplit

/-! Of four events that were captured out of the order of their times, those behind the third one by time, less the
debug event. -/

/-- An event at a number of microseconds. -/
def timed (serial : Nat) (micros : Int) (severity : Severity) : Entry where
  className := "app"
  methodName := "main"
  levelName := severity.name
  severity := severity
  timestamp := { micros := micros }
  thread := .nothing
  message := "tick"
  serial := serial

def shuffled : Query := { entries := [timed 0 30 .info, timed 1 10 .fine, timed 2 20 .info, timed 3 40 .fine] }

def behindTheThird : List Operation :=
  [.ordered, .filterBy (.ok (.relative .after (timed 2 20 .info) [.sameClass])),
    .keeping (.severity .atLeast (.severity .info)),
    .quantified .always (.ok (.plain "ticks" fun e => e.message == "tick"))]

def leftOver : Query where
  entries := [timed 0 30 .info]
  label := "logs.ordered_by_timestamp().after(INFO: \"tick\").from_same_class().where(level >= INFO).always()"

theorem chain_keeps_shuffled : shuffled.chain behindTheThird = .ok leftOver ∧
    leftOver.entries.Subperm shuffled.entries ∧ (leftOver.entries.map Entry.serial).Nodup := by
  have hdistinct : (shuffled.entries.map Entry.serial).Nodup := by decide
  have hordered : orderedByTime shuffled.entries
      = [timed 1 10 .fine, timed 2 20 .info, timed 0 30 .info, timed 3 40 .fine] := by
    simp [orderedByTime, shuffled, List.mergeSort, timed, Entry.notLater]
  have hchain : shuffled.chain behindTheThird = .ok leftOver := by
    rw [behindTheThird, chain_cons]
    show (shuffled.derive "ordered_by_timestamp()" (orderedByTime shuffled.entries)).chain _ = _
    rw [hordered]
    rfl
  obtain ⟨hsub, hnodup, -⟩ := chain_keeps hdistinct hchain
  exact ⟨hchain, hsub, hnodup⟩

end Query

end LogAssay
