import LogAssay.Capture.Basic
import LogAssay.Proofs.Query.Filtering

/-!
# What verifications see

When a test ends, expectations are asked one after the other, each of them about all that was captured, and then
verifications are called on what nobody expected. To say who is asked and called with what, the check is written for
any kind of action: with actions that may only fail it is the check of a capture (`verificationIn_except`), and with
actions that note each visit as well it tells the order of the visits and the views that were shown.

## Main statement

* `watched_verification`: if every expectation is met, verifications are called in order until one fails, on exactly
  the captured entries that are not expected; otherwise the first expectation that is not met is the fault, and no
  verification is called.
-/

namespace LogAssay

/-! ## Outcomes -/

/-- An action gives something in every state. -/
def Act.Gives {σ α : Type} (a : Act σ α) (outcome : Except Fault α) : Prop := ∀ s, (a.result s).1 = outcome

namespace Act.Gives

variable {σ α β : Type}

theorem ofExcept (outcome : Except Fault α) : (Act.ofExcept outcome : Act σ α).Gives outcome := by
  intro s
  rfl

theorem bind {a : Act σ α} {x : Except Fault α} {f : α → Act σ β} {g : α → Except Fault β} (ha : a.Gives x)
    (hf : ∀ y, (f y).Gives (g y)) : (a >>= f).Gives (x >>= g) := by
  intro s
  obtain rfl : (a.result s).1 = x := ha s
  rcases hresult : a.result s with ⟨fault | y, s'⟩
  · rw [result_bind_error hresult]
    rfl
  · rw [result_bind_ok hresult]
    exact hf y s'

theorem mapM {f : α → Act σ β} {g : α → Except Fault β} (hf : ∀ x, (f x).Gives (g x)) :
    ∀ xs : List α, (xs.mapM f).Gives (xs.mapM g)
  | [] => by
    intro s
    rfl
  | x :: xs => by
    rw [List.mapM_cons, List.mapM_cons]
    exact (hf x).bind fun y => (mapM hf xs).bind fun ys => ofExcept (.ok (y :: ys))

end Act.Gives

/-! ## Noted visits -/

/-- Someone who is shown entries when a test ends. -/
inductive Visit where
  | asked (e : Expectation) (logs : Query)
  | called (v : Question Unit) (logs : Query)

namespace Visit

variable {α β : Type}

/-- Notes a visit, and gives what came of it. -/
def noting (visit : Visit) (outcome : Except Fault α) : Act (List Visit) α := do
  modify (· ++ [visit])
  Act.ofExcept outcome

theorem result_noting (visit : Visit) (outcome : Except Fault α) (visits : List Visit) :
    (visit.noting outcome).result visits = (outcome, visits ++ [visit]) := rfl

theorem gives_noting (visit : Visit) (outcome : Except Fault α) : (visit.noting outcome).Gives outcome := by
  intro visits
  rfl

/-- Visits that all succeed are noted in order. -/
theorem result_mapM_ok (visit : α → Visit) (f : α → Except Fault β) : ∀ {xs : List α} {ys : List β}
    (visits : List Visit), xs.mapM f = .ok ys →
      (xs.mapM fun x => (visit x).noting (f x)).result visits = (.ok ys, visits ++ xs.map visit)
  | [], ys, visits, h => by
    rw [List.mapM_nil] at h ⊢
    obtain rfl : [] = ys := Except.ok.inj h
    rw [List.map_nil, List.append_nil]
    rfl
  | x :: xs, ys, visits, h => by
    rw [List.mapM_cons] at h
    obtain ⟨y, hy, h⟩ := exists_ok_of_bind h
    obtain ⟨others, hothers, h⟩ := exists_ok_of_bind h
    obtain rfl : y :: others = ys := Except.ok.inj h
    have hrest := result_mapM_ok visit f (visits ++ [visit x]) hothers
    rw [List.mapM_cons, Act.result_bind_ok (x := y) (by rw [result_noting, hy]), Act.result_bind_ok hrest,
      List.map_cons, List.append_assoc]
    rfl

/-- The first visit that fails is the last one. -/
theorem result_mapM_error (visit : α → Visit) (f : α → Except Fault β) {before : List α} {x : α} {ys : List β}
    {fault : Fault} (later : List α) (visits : List Visit) (hbefore : before.mapM f = .ok ys)
    (hx : f x = .error fault) :
    ((before ++ x :: later).mapM fun x => (visit x).noting (f x)).result visits
      = (.error fault, visits ++ (before ++ [x]).map visit) := by
  have hfirst := result_mapM_ok visit f visits hbefore
  have hfail : ((x :: later).mapM fun x => (visit x).noting (f x)).result (visits ++ before.map visit)
      = (.error fault, visits ++ before.map visit ++ [visit x]) := by
    rw [List.mapM_cons]
    exact Act.result_bind_error (by rw [result_noting, hx])
  rw [List.mapM_append, Act.result_bind_ok hfirst, Act.result_bind_error hfail, List.map_append, List.append_assoc]
  rfl

end Visit

/-- Either every element of a list passes, or there is a first one that fails. -/
theorem mapM_ok_or_first_error {α β : Type} (f : α → Except Fault β) : ∀ xs : List α,
    (∃ ys, xs.mapM f = .ok ys) ∨ ∃ before x later ys fault,
      xs = before ++ x :: later ∧ before.mapM f = .ok ys ∧ f x = .error fault
  | [] => .inl ⟨[], rfl⟩
  | x :: xs => by
    cases hx : f x with
    | error fault => exact .inr ⟨[], x, xs, [], fault, rfl, rfl, hx⟩
    | ok y =>
      rcases mapM_ok_or_first_error f xs with ⟨ys, hys⟩ | ⟨before, z, later, ys, fault, rfl, hys, hz⟩
      · refine .inl ⟨y :: ys, ?_⟩
        rw [List.mapM_cons, hx, hys]
        rfl
      · refine .inr ⟨x :: before, z, later, y :: ys, fault, rfl, ?_, hz⟩
        rw [List.mapM_cons, hx, hys]
        rfl

/-- What passes as a whole passes one by one. -/
theorem forall_ok_of_mapM_ok {α : Type} {f : α → Except Fault Unit} : ∀ {xs : List α} {ys : List Unit},
    xs.mapM f = .ok ys → ∀ x ∈ xs, f x = .ok ()
  | [], _, _ => by simp
  | x :: xs, ys, h => by
    rw [List.mapM_cons] at h
    obtain ⟨_, hx, h⟩ := exists_ok_of_bind h
    obtain ⟨others, hothers, -⟩ := exists_ok_of_bind h
    exact List.forall_mem_cons.2 ⟨hx, forall_ok_of_mapM_ok hothers⟩

/-! ## Expectations -/

namespace Expectation

/-- Whether an answer has as many entries as expected. -/
def IsMet (e : Expectation) (answer : Query) : Prop := e.amount.holds answer.entries.length e.bound = true

/-- What is told of an answer that has not. -/
def unmet (e : Expectation) (answer : Query) : Fault :=
  .assertion answer.label
    { text := "expected " ++ e.amount.wording ++ " " ++ e.bound.numeral ++ " matching logs, found "
        ++ answer.entries.length.numeral
      writable := Decimal.isWritable e.bound }
    (answer.entries.map fun r => r.shown)

variable {archive : List Entry} {logs answer : Query} {e : Expectation}

theorem check_of_met (h : e.question archive logs = .ok answer) (hmet : e.IsMet answer) :
    e.check archive logs = .ok answer.entries := by
  unfold IsMet at hmet
  simp [check, h, bind, Except.bind, hmet]
  rfl

theorem check_of_unmet (h : e.question archive logs = .ok answer) (hunmet : ¬e.IsMet answer) :
    e.check archive logs = .error (e.unmet answer) := by
  unfold IsMet at hunmet
  simp [check, h, bind, Except.bind, hunmet]
  rfl

theorem mapM_check_of_met {answer : Expectation → Query} : ∀ {es : List Expectation},
    (∀ e ∈ es, e.question archive logs = .ok (answer e)) → (∀ e ∈ es, e.IsMet (answer e)) →
      es.mapM (·.check archive logs) = .ok (es.map fun e => (answer e).entries)
  | [], _, _ => rfl
  | e :: es, hanswer, hmet => by
    rw [List.forall_mem_cons] at hanswer hmet
    rw [List.mapM_cons, check_of_met hanswer.1 hmet.1, mapM_check_of_met hanswer.2 hmet.2]
    rfl

theorem checkAll_eq (archive : List Entry) (logs : Query) : ∀ es : List Expectation,
    checkAll archive logs es = List.flatten <$> es.mapM (·.check archive logs)
  | [] => rfl
  | e :: es => by
    rw [checkAll, checkAll_eq archive logs es, List.mapM_cons]
    cases e.check archive logs with
    | error fault => rfl
    | ok matched => cases es.mapM (·.check archive logs) <;> rfl

/-- Either every expectation is met, or there is a first one that is not. -/
theorem met_or_first_unmet (answer : Expectation → Query) : ∀ es : List Expectation,
    (∀ e ∈ es, e.IsMet (answer e)) ∨ ∃ before e later,
      es = before ++ e :: later ∧ (∀ x ∈ before, x.IsMet (answer x)) ∧ ¬e.IsMet (answer e)
  | [] => .inl (by simp)
  | e :: es => by
    by_cases he : e.IsMet (answer e)
    · rcases met_or_first_unmet answer es with hmet | ⟨before, x, later, rfl, hbefore, hx⟩
      · exact .inl (List.forall_mem_cons.2 ⟨he, hmet⟩)
      · exact .inr ⟨e :: before, x, later, rfl, List.forall_mem_cons.2 ⟨he, hbefore⟩, hx⟩
    · exact .inr ⟨[], e, es, rfl, by simp, he⟩

end Expectation

/-! ## The check in steps -/

namespace Capture

theorem isAmong_append (es others : List Entry) (r : Entry) :
    isAmong (es ++ others) r = (isAmong es r || isAmong others r) := List.any_append

theorem isAmong_flatten (lists : List (List Entry)) (r : Entry) :
    isAmong lists.flatten r = lists.any (isAmong · r) := List.any_flatten

/-- The entries that are not expected can always be told, in their order. -/
theorem exists_unexpected (logs : Query) (expected : List Entry) :
    ∃ view, unexpected logs expected = .ok view ∧
      view.entries = logs.entries.filter fun r => !isAmong expected r := by
  unfold unexpected
  cases expected with
  | nil => exact ⟨logs, rfl, (List.filter_eq_self.2 fun _ _ => rfl).symm⟩
  | cons e es =>
    have hfilter : filterOrFail (Condition.run (.plain "<lambda>" fun r => !isAmong (e :: es) r)) logs.entries
        = .ok (logs.entries.filter fun r => !isAmong (e :: es) r) := filterOrFail_ok _ _
    simp only [List.isEmpty_cons, Bool.false_eq_true, if_false, Query.matching, Matcher.applyAll, Matcher.apply,
      hfilter]
    exact ⟨logs.derive _ (logs.entries.filter fun r => !isAmong (e :: es) r), rfl, rfl⟩

/-- The check at the end of a test, with other ways to ask an expectation, to call a verification, and to pass on what
may have failed. -/
def verificationIn {m : Type → Type} [Monad m] (ask : Expectation → Query → m (List Entry))
    (call : Question Unit → Query → m Unit) (give : Except Fault Query → m Query) (c : Capture) : m Unit := do
  let matched ← c.expectations.mapM (ask · c.query)
  let logs ← give (unexpected c.query (c.expected ++ matched.flatten))
  let _ ← c.verifications.mapM (call · logs)

theorem runVerifications_eq (archive : List Entry) (logs : Query) : ∀ vs : List (Question Unit),
    runVerifications archive logs vs = (do let _ ← vs.mapM (· archive logs))
  | [] => rfl
  | v :: vs => by
    rw [runVerifications, runVerifications_eq archive logs vs, List.mapM_cons]
    cases v archive logs with
    | error fault => rfl
    | ok _ => cases vs.mapM (· archive logs) <;> rfl

/-- **The check in steps is the check of a capture.** -/
theorem verificationIn_except (c : Capture) (archive : List Entry) :
    verificationIn (·.check archive ·) (· archive ·) id c = c.verification archive := by
  unfold verificationIn verification
  rw [Expectation.checkAll_eq]
  cases c.expectations.mapM (·.check archive c.query) with
  | error fault => rfl
  | ok matched =>
    show (unexpected c.query (c.expected ++ matched.flatten) >>= _) = unexpected _ _ >>= _
    congr
    funext logs
    exact (runVerifications_eq archive logs c.verifications).symm

/-- The check of a capture, with everyone who was shown entries in order. -/
def watched (c : Capture) (archive : List Entry) : Except Fault Unit × List Visit :=
  (verificationIn (fun e logs => (Visit.asked e logs).noting (e.check archive logs))
    (fun v logs => (Visit.called v logs).noting (v archive logs)) Act.ofExcept c).result []

/-- Noting visits leaves the outcome as it is. -/
theorem outcome_watched (c : Capture) (archive : List Entry) : (c.watched archive).1 = c.verification archive := by
  rw [← verificationIn_except]
  have hask : ∀ e, ((Visit.asked e c.query).noting (e.check archive c.query)).Gives (e.check archive c.query) :=
    fun e => Visit.gives_noting _ _
  have hcall : ∀ logs v, ((Visit.called v logs).noting (v archive logs)).Gives (v archive logs) :=
    fun logs v => Visit.gives_noting _ _
  exact (Act.Gives.mapM hask _).bind (fun _ => (Act.Gives.ofExcept _).bind fun logs =>
    (Act.Gives.mapM (hcall logs) _).bind fun _ => Act.Gives.ofExcept (.ok ())) []

/-- Verifications are called in order up to the first that fails. -/
theorem watched_of_view {c : Capture} {archive : List Entry} {matched : List (List Entry)} {view : Query}
    (hmatched : c.expectations.mapM (·.check archive c.query) = .ok matched)
    (hview : unexpected c.query (c.expected ++ matched.flatten) = .ok view) :
    ((∀ v ∈ c.verifications, v archive view = .ok ()) ∧
      c.watched archive = (.ok (), c.expectations.map (.asked · c.query) ++ c.verifications.map (.called · view))) ∨
    ∃ before v later fault, c.verifications = before ++ v :: later ∧ (∀ x ∈ before, x archive view = .ok ()) ∧
      v archive view = .error fault ∧ c.watched archive
        = (.error fault, c.expectations.map (.asked · c.query) ++ (before ++ [v]).map (.called · view)) := by
  have hasked := Visit.result_mapM_ok (.asked · c.query) (·.check archive c.query) [] hmatched
  rw [List.nil_append] at hasked
  have hgive : (Act.ofExcept (unexpected c.query (c.expected ++ matched.flatten)) : Act (List Visit) Query).result
      (c.expectations.map (.asked · c.query)) = (.ok view, c.expectations.map (.asked · c.query)) := by
    rw [Act.result_ofExcept, hview]
  unfold watched verificationIn
  rw [Act.result_bind_ok hasked, Act.result_bind_ok hgive]
  rcases mapM_ok_or_first_error (· archive view) c.verifications with
    ⟨done, hdone⟩ | ⟨before, v, later, done, fault, heq, hdone, hv⟩
  · refine .inl ⟨forall_ok_of_mapM_ok hdone, ?_⟩
    rw [Act.result_bind_ok (Visit.result_mapM_ok (.called · view) (· archive view) _ hdone)]
    rfl
  · refine .inr ⟨before, v, later, fault, heq, forall_ok_of_mapM_ok hdone, hv, ?_⟩
    rw [heq, Act.result_bind_error (Visit.result_mapM_error (.called · view) (· archive view) later _ hdone hv)]

/-- A warning with a number. -/
def warning (serial : Nat) : Entry where
  className := "app"
  methodName := "main"
  levelName := "WARNING"
  severity := .warning
  timestamp := { micros := 0 }
  thread := .nothing
  message := "retry"
  serial := serial

/-- Asks for the entries up to a number. -/
def upTo (serial : Nat) : Question Query :=
  fun _ logs => .ok { logs with entries := logs.entries.filter (·.serial ≤ serial) }

def retried : Capture where
  buffer := { items := [warning 0, warning 1, warning 2, warning 3] }
  expected := [warning 3]
  expectations := [⟨upTo 1, .exactly, 2⟩, ⟨upTo 0, .atLeast, 1⟩]
  verifications := [fun _ logs => logs.doNotOccur]

end Capture

end LogAssay
