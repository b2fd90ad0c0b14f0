import LogAssay.Proofs.Query.Chains

/-!
# Assertions and Boolean logic

Predicates that never fail combine as Boolean values do, however deep they are nested, and every way to ask about a view
answers in terms of the value of the predicate on each entry. So the assertions agree with each other: what they say is
one and the same whether it is asked of all entries, of none, of some, or of a filtered view.

## Main statements

* `Formula.test_predicate`: a compound predicate has the Boolean value of its parts.
* `every_formula`, `none_formula`, `any_formula`: what each assertion gives, and the entries that it puts the blame on.
* `boolean_laws`: the laws between assertions, filters and quantifiers, at the end of every chain.
-/

namespace LogAssay

/-! ## Formulas -/

/-- A predicate that never fails, with what it decides. -/
structure TotalPredicate extends Predicate where
  decides : Entry → Bool
  test_eq : ∀ e, toPredicate.test e = .ok (decides e)

/-- The predicate of a test that cannot fail. -/
def TotalPredicate.ofTest (description : String) (test : Entry → Bool) : TotalPredicate where
  toPredicate := .ofTest description test
  decides := test
  test_eq _ := rfl

/-- How a predicate is put together from others that never fail. -/
inductive Formula where
  | atom (p : TotalPredicate)
  | and (p r : Formula)
  | or (p r : Formula)
  | not (p : Formula)

namespace Formula

/-- The predicate that is put together so. -/
def predicate : Formula → Predicate
  | atom p => p.toPredicate
  | and p r => p.predicate.and r.predicate
  | or p r => p.predicate.or r.predicate
  | not p => p.predicate.not

/-- The Boolean value of a formula for an entry. -/
def holds : Formula → Entry → Bool
  | atom p, e => p.decides e
  | and p r, e => p.holds e && r.holds e
  | or p r, e => p.holds e || r.holds e
  | not p, e => !p.holds e

/-- **A compound predicate has the Boolean value of its parts**, and never fails. -/
theorem test_predicate (p : Formula) (e : Entry) : p.predicate.test e = .ok (p.holds e) := by
  induction p with
  | atom p => exact p.test_eq e
  | and p r hp hr =>
    simp only [predicate, Predicate.and, holds, hp, hr]
    cases p.holds e <;> rfl
  | or p r hp hr =>
    simp only [predicate, Predicate.or, holds, hp, hr]
    cases p.holds e <;> rfl
  | not p hp =>
    simp only [predicate, Predicate.not, holds, hp]
    rfl

/-- The condition that is asked for by a formula. -/
def condition (p : Formula) : Condition := .predicate p.predicate

theorem filterOrFail_predicate (p : Formula) (entries : List Entry) :
    filterOrFail p.predicate.test entries = .ok (entries.filter p.holds) := by
  rw [show p.predicate.test = fun e => .ok (p.holds e) from funext p.test_predicate]
  exact filterOrFail_ok p.holds entries

end Formula

namespace Query

variable (q : Query) (p r : Formula)

/-! ## What each assertion gives -/

theorem anySatisfies_predicate : ∀ entries : List Entry,
    anySatisfies p.predicate entries = .ok (entries.any p.holds)
  | [] => rfl
  | e :: entries => by
    rw [anySatisfies, p.test_predicate, anySatisfies_predicate entries, List.any_cons]
    cases p.holds e <;> rfl

theorem filter_formula : q.filter p.condition
    = .ok (q.derive ("filter(" ++ p.predicate.description ++ ")") (q.entries.filter p.holds)) := by
  show (filterOrFail p.predicate.test q.entries).map _ = _
  rw [p.filterOrFail_predicate]
  rfl

/-- The failure of an assertion that all entries satisfy a formula; to blame are those that do not. -/
def everyFault : Fault :=
  .assertion q.label ("expected every log to satisfy: " ++ p.predicate.description : String)
    ((q.entries.filter p.not.holds).map fun e => e.shown)

/-- The failure of an assertion that no entry satisfies a formula; to blame are those that do. -/
def noneFault : Fault :=
  .assertion q.label ("expected no log to satisfy: " ++ p.predicate.description : String)
    ((q.entries.filter p.holds).map fun e => e.shown)

/-- The failure of an assertion that some entry satisfies a formula; to blame are all of them. -/
def anyFault : Fault :=
  let expectation := "expected at least one log to satisfy: " ++ p.predicate.description
  .assertion q.label
    (if q.entries.isEmpty then expectation ++ ", but no logs were matched" else expectation : String)
    (q.entries.map fun e => e.shown)

theorem isEmpty_filter_not_holds (entries : List Entry) :
    (entries.filter p.not.holds).isEmpty = entries.all p.holds := by
  rw [Bool.eq_iff_iff]
  simp [Formula.holds]

theorem isEmpty_filter_holds (entries : List Entry) :
    (entries.filter p.holds).isEmpty = entries.all p.not.holds := by
  rw [Bool.eq_iff_iff]
  simp [Formula.holds]

theorem every_formula : q.every p.condition
    = if q.entries.all p.holds then .ok q else .error (q.everyFault p) := by
  show (filterOrFail p.not.predicate.test q.entries >>= _) = _
  rw [p.not.filterOrFail_predicate, ← isEmpty_filter_not_holds]
  show (if (q.entries.filter p.not.holds).isEmpty then _ else _) = _
  split <;> rfl

theorem none_formula : q.none p.condition
    = if q.entries.all p.not.holds then .ok q else .error (q.noneFault p) := by
  show (filterOrFail p.predicate.test q.entries >>= _) = _
  rw [p.filterOrFail_predicate, ← isEmpty_filter_holds]
  show (if (q.entries.filter p.holds).isEmpty then _ else _) = _
  split <;> rfl

theorem any_formula : q.any p.condition
    = if q.entries.any p.holds then .ok q else .error (q.anyFault p) := by
  show (anySatisfies p.predicate q.entries >>= _) = _
  rw [anySatisfies_predicate]
  show (if q.entries.any p.holds then _ else _) = _
  split <;> rfl

theorem every_ok_iff : q.every p.condition = .ok q ↔ ∀ e ∈ q.entries, p.holds e = true := by
  rw [every_formula, ← List.all_eq_true]
  split <;> simp_all

theorem none_ok_iff : q.none p.condition = .ok q ↔ ∀ e ∈ q.entries, p.holds e = false := by
  have hall : (∀ e ∈ q.entries, p.holds e = false) ↔ q.entries.all p.not.holds = true := by simp [Formula.holds]
  rw [none_formula, hall]
  split <;> simp_all

theorem any_ok_iff : q.any p.condition = .ok q ↔ ∃ e ∈ q.entries, p.holds e = true := by
  rw [any_formula, ← List.any_eq_true]
  split <;> simp_all

/-! ## Laws between assertions -/

/-- What the assertions about two formulas have to do with each other. An assertion that succeeds gives its view back.
-/
structure AssertionLaws : Prop where
  every_iff : q.every p.condition = .ok q ↔ ∀ e ∈ q.entries, p.holds e = true
  every_iff_none_not : q.every p.condition = .ok q ↔ q.none p.not.condition = .ok q
  every_iff_filter_not : q.every p.condition = .ok q ↔ ∃ left, q.filter p.not.condition = .ok left ∧ left.entries = []
  none_iff_any_fails : q.none p.condition = .ok q ↔ ∃ fault, q.any p.condition = .error fault
  every_and_iff : q.every (p.and r).condition = .ok q ↔ q.every p.condition = .ok q ∧ q.every r.condition = .ok q
  /-- Otherwise all entries that do not satisfy the formula are reported, in view order; the text of the failure shows
  the first of them. -/
  every_fails : q.every p.condition = .ok q ∨ q.every p.condition = .error (q.everyFault p)
  /-- Otherwise all entries that satisfy the formula are reported, in view order. -/
  none_fails : q.none p.condition = .ok q ∨ q.none p.condition = .error (q.noneFault p)

theorem assertionLaws : AssertionLaws q p r where
  every_iff := q.every_ok_iff p
  every_iff_none_not := by
    rw [every_ok_iff, none_ok_iff]
    simp [Formula.holds]
  every_iff_filter_not := by
    rw [every_ok_iff, filter_formula]
    simp [derive, Formula.holds]
  none_iff_any_fails := by
    rw [none_ok_iff, any_formula]
    split <;> simp_all
  every_and_iff := by
    rw [every_ok_iff, every_ok_iff, every_ok_iff, ← forall₂_and]
    simp [Formula.holds]
  every_fails := by
    rw [every_formula]
    split
    · exact .inl rfl
    · exact .inr rfl
  none_fails := by
    rw [none_formula]
    split
    · exact .inl rfl
    · exact .inr rfl

/-- What filtering by two formulas has to do with their conjunction and with negation. -/
structure FilterLaws : Prop where
  filter_and : (q.filter (p.and r).condition).map entries
    = (q.filter p.condition >>= (·.filter r.condition)).map entries
  /-- Filtering by a formula and by its negation splits the view. -/
  filter_split : ∃ kept left, q.filter p.condition = .ok kept ∧ q.filter p.not.condition = .ok left ∧
    kept.entries.Sublist q.entries ∧ left.entries.Sublist q.entries ∧
    (kept.entries ++ left.entries).Perm q.entries ∧
    (∀ e ∈ kept.entries, p.holds e = true) ∧ ∀ e ∈ left.entries, p.holds e = false

theorem filterLaws : FilterLaws q p r where
  filter_and := by
    have hboth : q.entries.filter (p.and r).holds = (q.entries.filter p.holds).filter r.holds := by
      rw [List.filter_filter]
      simp only [Formula.holds, Bool.and_comm]
    simp only [filter_formula, bind, Except.bind]
    exact congrArg Except.ok hboth
  filter_split := by
    refine ⟨_, _, q.filter_formula p, q.filter_formula p.not, List.filter_sublist, List.filter_sublist,
      List.filter_append_perm p.holds q.entries, ?_, ?_⟩
    · exact fun e he => (List.mem_filter.1 he).2
    · intro e he
      simpa [Formula.holds] using (List.mem_filter.1 he).2

/-! ## Quantifiers -/

theorem checkNotEmpty_ok_iff : q.checkNotEmpty = .ok () ↔ q.entries ≠ [] ∨ q.allowEmpty = true := by
  unfold checkNotEmpty
  cases q.allowEmpty <;> cases q.entries <;> simp

/-- A quantified assertion succeeds if the view is long enough for it and passes. -/
theorem exists_satisfied_iff (quantifier : Quantifier) :
    (∃ view, (q.quantified quantifier >>= (·.satisfy quantifier p.condition)) = .ok view) ↔
      (quantifier = .atLeastOne ∨ q.entries ≠ [] ∨ q.allowEmpty = true) ∧
        ∃ view, (q.derive (quantifier.name ++ "()") q.entries).satisfy quantifier p.condition = .ok view := by
  rw [← checkNotEmpty_ok_iff]
  unfold quantified
  cases quantifier with
  | atLeastOne => simp [bind, Except.bind, pure, Except.pure]
  | always | never =>
    cases q.checkNotEmpty with
    | error fault => simp [bind, Except.bind]
    | ok _ => simp [bind, Except.bind, pure, Except.pure]

/-- What quantified assertions about a formula succeed on, where it is said whether the view may be empty. -/
structure QuantifierLaws (mayBeEmpty : Prop) : Prop where
  always_iff : (∃ view, (q.quantified .always >>= (·.satisfy .always p.condition)) = .ok view) ↔
    (q.entries ≠ [] ∨ mayBeEmpty) ∧ ∀ e ∈ q.entries, p.holds e = true
  never_iff : (∃ view, (q.quantified .never >>= (·.satisfy .never p.condition)) = .ok view) ↔
    (q.entries ≠ [] ∨ mayBeEmpty) ∧ ∀ e ∈ q.entries, p.holds e = false
  atLeastOne_iff : (∃ view, (q.quantified .atLeastOne >>= (·.satisfy .atLeastOne p.condition)) = .ok view) ↔
    ∃ e ∈ q.entries, p.holds e = true
  atLeastOne_empty : q.entries = [] →
    ∃ fault, (q.quantified .atLeastOne >>= (·.satisfy .atLeastOne p.condition)) = .error fault

/-- An assertion that gives a view gives its own. -/
theorem exists_ok_iff {x : Except Fault Query} (h : ∀ view, x = .ok view → view = q) :
    (∃ view, x = .ok view) ↔ x = .ok q :=
  ⟨fun ⟨view, hview⟩ => h view hview ▸ hview, fun hq => ⟨q, hq⟩⟩

theorem quantifierLaws : QuantifierLaws q p (q.allowEmpty = true) where
  always_iff := by
    rw [exists_satisfied_iff, exists_ok_iff _ fun _ => eq_of_satisfy]
    simp [satisfy, every_ok_iff, derive]
  never_iff := by
    rw [exists_satisfied_iff, exists_ok_iff _ fun _ => eq_of_satisfy]
    simp [satisfy, none_ok_iff, derive]
  atLeastOne_iff := by
    rw [exists_satisfied_iff, exists_ok_iff _ fun _ => eq_of_satisfy]
    simp [satisfy, any_ok_iff, derive]
  atLeastOne_empty := by
    intro hempty
    have hany := (q.derive (Quantifier.atLeastOne.name ++ "()") q.entries).any_formula p
    rw [show (q.derive (Quantifier.atLeastOne.name ++ "()") q.entries).entries.any p.holds = false by
      simp [derive, hempty]] at hany
    exact ⟨_, hany⟩

/-- **Assertions agree with Boolean logic**, about all formulas of predicates that never fail and at the end of every
chain. A compound predicate has the Boolean value of its parts; the assertions, filters and quantifiers say one and the
same about this value; and speaking of all entries takes one, unless it was said at the beginning or anywhere in the
chain that there need not be any. -/
theorem boolean_laws {ops : List Operation} {view : Query} (h : q.chain ops = .ok view) :
    (∀ e, p.predicate.test e = .ok (p.holds e)) ∧ AssertionLaws view p r ∧ FilterLaws view p r ∧
      QuantifierLaws view p (q.allowEmpty = true ∨ .allowingNoMatches ∈ ops) := by
  refine ⟨p.test_predicate, view.assertionLaws p r, view.filterLaws p r, ?_⟩
  rw [← allowEmpty_of_chain h]
  exact view.quantifierLaws p

/-! Nothing severe was logged, which is allowed: each entry that there is ticks late, and yet none does. -/

/-- If it ticks, then late. -/
def ticksLate : Formula :=
  .not (.and (.atom (.ofTest "ticks" fun e => e.message == "tick"))
    (.not (.atom (.ofTest "late" fun e => decide (20 < e.timestamp.micros)))))

def noneSevere : Query where
  entries := []
  label := "logs.allowing_no_matches().where(level >= SEVERE)"
  allowEmpty := true

theorem boolean_laws_empty :
    shuffled.chain [.allowingNoMatches, .keeping (.severity .atLeast (.severity .severe))] = .ok noneSevere ∧
      (∃ view, (noneSevere.quantified .always >>= (·.satisfy .always ticksLate.condition)) = .ok view) ∧
      ∃ fault, noneSevere.any ticksLate.condition = .error fault := by
  have hchain : shuffled.chain [.allowingNoMatches, .keeping (.severity .atLeast (.severity .severe))]
      = .ok noneSevere := rfl
  obtain ⟨-, hassertions, -, hquantifiers⟩ := boolean_laws shuffled ticksLate ticksLate hchain
  have hnone : noneSevere.none ticksLate.condition = .ok noneSevere :=
    (noneSevere.none_ok_iff ticksLate).2 (by simp [noneSevere])
  exact ⟨hchain, hquantifiers.always_iff.2 ⟨.inr (.inr List.mem_cons_self), by simp [noneSevere]⟩,
    hassertions.none_iff_any_fails.1 hnone⟩

end Query

end LogAssay
