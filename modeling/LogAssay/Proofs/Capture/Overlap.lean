import LogAssay.Proofs.Capture.Installing
import LogAssay.Proofs.Capture.Scopes

/-!
# Overlapping installations

Each installation remembers the tags that it finds, and closing its hook puts them back. So hooks that are closed in
the reverse order of their installations leave the tags from before, and the test id in force is always that of the
latest open hook. A hook that is closed while a later one is open comes back when the next one is closed: that one has
found its test id and puts it in force again, and nothing takes it away any more.

## Main statements

* `nested_step`: closing in the reverse order keeps hooks nested.
* `stale_of_early`: what becomes of a hook that is closed too early.
* `in_order_or_stale`: the order in which hooks are closed decides which tags are in force.
-/

namespace LogAssay

variable {σ δ : Type}

/-! ## Tags of hooks -/

namespace Hook

theorem tagged_of_ne (tags : Tags) {testId : String} (h : testId ≠ "") :
    tagged tags testId = tags.put TestId.key (.text testId) := if_neg h

theorem tagged_tagged (tags : Tags) (first : String) {second : String} (h : second ≠ "") :
    tagged (tagged tags first) second = tagged tags second := by
  rw [tagged_of_ne _ h, tagged_of_ne _ h, tagged]
  split
  · rfl
  · exact Tags.put_put tags TestId.key _ _

theorem find?_tagged (tags : Tags) (testId : String) {key : String} (h : key ≠ TestId.key) :
    (tagged tags testId).find? key = tags.find? key := by
  rw [tagged]
  split
  · rfl
  · rw [Tags.find?_put, if_neg h]

/-- Whether a hook has a tag to take back. -/
def live (h : Hook δ) : Bool := !h.closed && decide (h.testId ≠ "")

theorem live_iff {h : Hook δ} : h.live = true ↔ h.closed = false ∧ h.testId ≠ "" := by simp [live]

/-- The hook that was installed last among those that are open and have a test id. -/
def latest? (hooks : List (Hook δ)) : Option (Hook δ) := hooks.reverse.find? (·.live)

/-- The tags that hooks put in force over some others, if they are closed in the reverse order. -/
def inForce (tags : Tags) (hooks : List (Hook δ)) : Tags :=
  match latest? hooks with
  | some h => tagged tags h.testId
  | none => tags

theorem latest?_cons (h : Hook δ) (hooks : List (Hook δ)) :
    latest? (h :: hooks) = (latest? hooks).or (if h.live then some h else none) := by
  rw [latest?, List.reverse_cons, List.find?_append, List.find?_singleton]
  rfl

theorem latest?_concat (hooks : List (Hook δ)) (h : Hook δ) :
    latest? (hooks ++ [h]) = if h.live then some h else latest? hooks := by
  rw [latest?, List.reverse_append, List.reverse_singleton, List.singleton_append, List.find?_cons]
  cases h.live with
  | true => rfl
  | false => rfl

theorem inForce_concat (tags : Tags) (hooks : List (Hook δ)) (h : Hook δ) :
    inForce tags (hooks ++ [h]) = if h.live then tagged tags h.testId else inForce tags hooks := by
  rw [inForce, latest?_concat]
  cases h.live with
  | true => rfl
  | false => rfl

theorem tagged_inForce (tags : Tags) (hooks : List (Hook δ)) {testId : String} (h : testId ≠ "") :
    tagged (inForce tags hooks) testId = tagged tags testId := by
  rw [inForce]
  cases latest? hooks with
  | none => rfl
  | some _ => exact tagged_tagged tags _ h

theorem inForce_of_closed (tags : Tags) {hooks : List (Hook δ)} (closed : ∀ h ∈ hooks, h.closed = true) :
    inForce tags hooks = tags := by
  have hnone : latest? hooks = none := by
    rw [latest?, List.find?_eq_none]
    intro h hmem
    simp [live, closed h (List.mem_reverse.1 hmem)]
  rw [inForce, hnone]

/-- Hooks behind others do not matter, if they have no tag to take back. -/
theorem inForce_take (tags : Tags) (hooks : List (Hook δ)) {i j : Nat} (hij : i ≤ j)
    (none : ∀ k h, i ≤ k → k < j → hooks[k]? = some h → h.live = false) :
    inForce tags (hooks.take j) = inForce tags (hooks.take i) := by
  induction hij with
  | refl => rfl
  | @step j hij ih =>
    rw [← ih fun k h hik hkj => none k h hik (by omega), List.take_add_one]
    cases hj : hooks[j]? with
    | none => rw [Option.toList_none, List.append_nil]
    | some h => rw [Option.toList_some, inForce_concat, none j h hij (by omega) hj, if_neg Bool.false_ne_true]

/-- A hook without a tag to take back may be changed, as long as it gets none. -/
theorem latest?_set {h' : Hook δ} (dead' : h'.live = false) : ∀ {hooks : List (Hook δ)} {i : Nat},
    (∀ h, hooks[i]? = some h → h.live = false) → latest? (hooks.set i h') = latest? hooks
  | [], _, _ => rfl
  | h :: hooks, 0, dead => by
    rw [List.set_cons_zero, latest?_cons, latest?_cons, dead', dead h rfl, if_neg Bool.false_ne_true,
      if_neg Bool.false_ne_true]
  | h :: hooks, i + 1, dead => by
    have hrest : ∀ x, hooks[i]? = some x → x.live = false := fun x hx => dead x hx
    rw [List.set_cons_succ, latest?_cons, latest?_cons, latest?_set dead' hrest]

theorem inForce_set (tags : Tags) {h' : Hook δ} (dead' : h'.live = false) {hooks : List (Hook δ)} {i : Nat}
    (dead : ∀ h, hooks[i]? = some h → h.live = false) :
    inForce tags (hooks.set i h') = inForce tags hooks := by
  rw [inForce, latest?_set dead' dead, inForce]

/-- An installation finds some tags and puts its test id over them, or leaves them alone if it fails. -/
theorem tags_install (b : Ambience → Backend σ δ) (levels : Levels) (useTestId : Bool) (capture : Nat)
    (scene : Scene σ) :
    (∃ h scene', install b levels useTestId capture scene = (.ok h, scene') ∧ h.closed = false ∧
        h.earlier = scene.tags ∧ scene'.tags = tagged scene.tags h.testId) ∨
      ∃ fault scene', install b levels useTestId capture scene = (.error fault, scene') ∧
        scene'.tags = scene.tags := by
  rcases hattach : attaching b levels useTestId capture scene with ⟨failure, rs, station⟩
  cases failure with
  | none => exact .inl ⟨_, _, install_attached hattach, rfl, rfl, rfl⟩
  | some fault => exact .inr ⟨fault, _, install_taken_back hattach, rfl⟩

/-- Closing a hook puts back the tags that it found, if it has a tag to take back. -/
theorem tags_close (b : Ambience → Backend σ δ) (check : Option (Scene σ → Except Fault Unit)) (h : Hook δ)
    (scene : Scene σ) :
    ∃ outcome h' scene', h.close b true check scene = (outcome, h', scene') ∧ h'.closed = true ∧
      h'.testId = h.testId ∧ (h.closed = true → h' = h) ∧
      scene'.tags = if h.live then h.earlier else scene.tags := by
  cases hclosed : h.closed with
  | true =>
    exact ⟨_, _, _, close_closed b true check hclosed scene, hclosed, rfl, fun _ => rfl, by simp [live, hclosed]⟩
  | false =>
    refine ⟨_, _, _, close_open hclosed true check scene, rfl, rfl, nofun, ?_⟩
    by_cases hid : h.testId = ""
    · simp [live, hid]
    · simp [live, hid, hclosed]

/-! ## Nested hooks -/

/-- The tags in force are those of the latest hook with a tag to take back, and each of these hooks found those of the
hook before it. -/
structure Nested (tags : Tags) (hooks : List (Hook δ)) (now : Tags) : Prop where
  now : now = inForce tags hooks
  earlier : ∀ i h, hooks[i]? = some h → h.live = true → h.earlier = inForce tags (hooks.take i)

section Nested

variable {tags now : Tags} {hooks : List (Hook δ)} {h h' : Hook δ} {i : Nat}

/-- An installation nests its hook into the others. -/
theorem Nested.concat (nested : Nested tags hooks now) (opened : h.closed = false) (earlier : h.earlier = now) :
    Nested tags (hooks ++ [h]) (tagged now h.testId) := by
  refine ⟨?_, fun j x hj hlive => ?_⟩
  · rw [inForce_concat, nested.now]
    by_cases hid : h.testId = ""
    · rw [if_neg (by simp [live, hid]), tagged, if_pos hid]
    · rw [if_pos (live_iff.2 ⟨opened, hid⟩), tagged_inForce tags hooks hid]
  · rcases Nat.lt_trichotomy j hooks.length with hlt | rfl | hgt
    · rw [List.getElem?_append_left hlt] at hj
      rw [List.take_append_of_le_length (Nat.le_of_lt hlt)]
      exact nested.earlier j x hj hlive
    · obtain rfl : h = x := by simpa using hj
      rw [List.take_left, earlier, nested.now]
    · rw [List.getElem?_eq_none (by rw [List.length_append, List.length_singleton]; omega)] at hj
      cases hj

/-- Hooks with a tag to take back are not those that have been changed to have none. -/
theorem getElem?_of_set_dead (dead' : h'.live = false) {j : Nat} {x : Hook δ} (hj : (hooks.set i h')[j]? = some x)
    (hlive : x.live = true) : j ≠ i ∧ hooks[j]? = some x := by
  rw [List.getElem?_set] at hj
  split at hj
  · split at hj
    · cases hj
      rw [dead'] at hlive
      cases hlive
    · cases hj
  · next hne => exact ⟨fun hji => hne hji.symm, hj⟩

/-- Closing a hook without a tag to take back leaves the others as they are. -/
theorem Nested.set_dead (nested : Nested tags hooks now) (hi : hooks[i]? = some h) (dead : h.live = false)
    (dead' : h'.live = false) : Nested tags (hooks.set i h') now := by
  have hdead : ∀ x, hooks[i]? = some x → x.live = false := by
    intro x hx
    cases hi.symm.trans hx
    exact dead
  have hbefore : ∀ j x, (hooks.take j)[i]? = some x → x.live = false := by
    intro j x hx
    rw [List.getElem?_take] at hx
    split at hx
    · exact hdead x hx
    · cases hx
  refine ⟨by rw [inForce_set tags dead' hdead, nested.now], fun j x hj hlive => ?_⟩
  rw [List.take_set, inForce_set tags dead' (hbefore j)]
  exact nested.earlier j x (getElem?_of_set_dead dead' hj hlive).2 hlive

/-- Closing the latest hook puts the tags in force that it found. -/
theorem Nested.set_last (nested : Nested tags hooks now) (hi : hooks[i]? = some h) (hlive : h.live = true)
    (dead' : h'.live = false) (last : ∀ j later, i < j → hooks[j]? = some later → later.live = false) :
    Nested tags (hooks.set i h') h.earlier := by
  have hbefore : ∀ {j}, j ≤ i → (hooks.set i h').take j = hooks.take j := fun hji => List.take_set_of_le hji
  have hbound : i < hooks.length := (List.getElem?_eq_some_iff.1 hi).1
  refine ⟨?_, fun j x hj hx => ?_⟩
  · have hbehind : ∀ k x, i ≤ k → k < hooks.length → (hooks.set i h')[k]? = some x → x.live = false := by
      intro k x hik _ hk
      by_contra hx
      obtain ⟨hne, hk⟩ := getElem?_of_set_dead dead' hk (by simpa using hx)
      exact hx (last k x (by omega) hk)
    have hall := inForce_take tags (hooks.set i h') (Nat.le_of_lt hbound) hbehind
    rw [← List.length_set, List.take_length, hbefore (Nat.le_refl i)] at hall
    rw [hall, nested.earlier i h hi hlive]
  · obtain ⟨hne, hj⟩ := getElem?_of_set_dead dead' hj hx
    have hji : j ≤ i := by
      by_contra hlt
      rw [last j x (by omega) hj] at hx
      cases hx
    rw [hbefore hji]
    exact nested.earlier j x hj hx

/-- **The next hook with a tag to take back** found the tag of the one before it. -/
theorem Nested.exists_next (nested : Nested tags hooks now) (hi : hooks[i]? = some h) (hlive : h.live = true)
    {k : Nat} {later : Hook δ} (hik : i < k) (hk : hooks[k]? = some later) (hlater : later.live = true) :
    ∃ j next, i < j ∧ hooks[j]? = some next ∧ next.live = true ∧ next.earlier = tagged tags h.testId := by
  induction k using Nat.strongRecOn generalizing later with
  | ind k ih =>
    by_cases hmid : ∃ m x, i < m ∧ m < k ∧ hooks[m]? = some x ∧ x.live = true
    · obtain ⟨m, x, him, hmk, hm, hx⟩ := hmid
      exact ih m hmk him hm hx
    · have hbetween : ∀ m x, i + 1 ≤ m → m < k → hooks[m]? = some x → x.live = false := by
        intro m x him hmk hm
        by_contra hx
        exact hmid ⟨m, x, him, hmk, hm, by simpa using hx⟩
      refine ⟨k, later, hik, hk, hlater, ?_⟩
      rw [nested.earlier k later hk hlater, inForce_take tags hooks hik hbetween, List.take_add_one, hi,
        Option.toList_some, inForce_concat, if_pos hlive]

end Nested

end Hook

/-! ## Runs -/

/-- A scene, and the hooks that have been installed in it, in the order of their installations. -/
structure Overlap (σ δ : Type) where
  scene : Scene σ
  hooks : List (Hook δ) := []

namespace Overlap

/-- What is done with captures in one context. -/
inductive Move (σ δ : Type) where
  | install (b : Ambience → Backend σ δ) (levels : Levels) (useTestId : Bool) (capture : Nat)
  /-- Closes the hook of a number. -/
  | close (b : Ambience → Backend σ δ) (index : Nat) (check : Option (Scene σ → Except Fault Unit))

def step (o : Overlap σ δ) : Move σ δ → Overlap σ δ
  | .install b levels useTestId capture =>
    match Hook.install b levels useTestId capture o.scene with
    | (.ok h, scene) => ⟨scene, o.hooks ++ [h]⟩
    | (.error _, scene) => { o with scene := scene }
  | .close b index check =>
    match o.hooks[index]? with
    | some h =>
      let (_, h, scene) := h.close b true check o.scene
      ⟨scene, o.hooks.set index h⟩
    | none => o

def run (o : Overlap σ δ) (moves : List (Move σ δ)) : Overlap σ δ := moves.foldl step o

/-- Whether a move is no closing of a hook while a later one has a tag to take back. -/
def inTurn (o : Overlap σ δ) : Move σ δ → Bool
  | .install .. => true
  | .close _ index _ => !o.hooks[index]?.any (·.live) || (o.hooks.drop (index + 1)).all (!·.live)

/-- Whether hooks are closed in the reverse order of their installations. -/
def inOrder : Overlap σ δ → List (Move σ δ) → Bool
  | _, [] => true
  | o, move :: moves => o.inTurn move && inOrder (o.step move) moves

/-- **All that a move can do.** -/
theorem step_cases (o : Overlap σ δ) (move : Move σ δ) :
    ((o.step move).hooks = o.hooks ∧ (o.step move).scene.tags = o.scene.tags) ∨
    (∃ h : Hook δ, h.closed = false ∧ h.earlier = o.scene.tags ∧ (o.step move).hooks = o.hooks ++ [h] ∧
      (o.step move).scene.tags = Hook.tagged o.scene.tags h.testId) ∨
    ∃ b index check, move = .close b index check ∧ ∃ h h' : Hook δ, o.hooks[index]? = some h ∧ h'.closed = true ∧
      h'.testId = h.testId ∧ (h.closed = true → h' = h) ∧ (o.step move).hooks = o.hooks.set index h' ∧
      (o.step move).scene.tags = if h.live then h.earlier else o.scene.tags := by
  cases move with
  | install b levels useTestId capture =>
    rcases Hook.tags_install b levels useTestId capture o.scene with
      ⟨h, scene', hinstall, hopen, hearlier, htags⟩ | ⟨fault, scene', hinstall, htags⟩
    · refine .inr (.inl ⟨h, hopen, hearlier, ?_⟩)
      simp only [step, hinstall]
      exact ⟨trivial, htags⟩
    · refine .inl ?_
      simp only [step, hinstall]
      exact ⟨trivial, htags⟩
  | close b index check =>
    cases hindex : o.hooks[index]? with
    | none =>
      refine .inl ?_
      simp only [step, hindex]
      exact ⟨trivial, trivial⟩
    | some h =>
      obtain ⟨outcome, h', scene', hclose, hclosed, hid, hagain, htags⟩ := Hook.tags_close b check h o.scene
      refine .inr (.inr ⟨b, index, check, rfl, h, h', hindex, hclosed, hid, hagain, ?_⟩)
      simp only [step, hindex, hclose]
      exact ⟨trivial, htags⟩

/-! ## Closing in the reverse order -/

variable {tags : Tags} {o : Overlap σ δ}

theorem inTurn_close {b : Ambience → Backend σ δ} {i : Nat} {check : Option (Scene σ → Except Fault Unit)}
    {h : Hook δ} (hi : o.hooks[i]? = some h) (hlive : h.live = true) :
    o.inTurn (.close b i check) = true ↔ ∀ j later, i < j → o.hooks[j]? = some later → later.live = false := by
  rw [inTurn, hi, Option.any_some, hlive, Bool.not_true, Bool.false_or, List.all_eq_true]
  constructor
  · intro hall j later hij hj
    have hmem : later ∈ o.hooks.drop (i + 1) := by
      refine List.mem_of_getElem? (i := j - (i + 1)) ?_
      rw [List.getElem?_drop, ← hj]
      congr 1
      omega
    simpa using hall later hmem
  · intro hall later hmem
    obtain ⟨k, hk⟩ := List.mem_iff_getElem?.1 hmem
    rw [List.getElem?_drop] at hk
    simp [hall _ later (by omega) hk]

/-- **Closing in the reverse order keeps hooks nested.** -/
theorem nested_step (nested : Hook.Nested tags o.hooks o.scene.tags) {move : Move σ δ} (turn : o.inTurn move = true) :
    Hook.Nested tags (o.step move).hooks (o.step move).scene.tags := by
  rcases o.step_cases move with ⟨hhooks, htags⟩ | ⟨h, hopen, hearlier, hhooks, htags⟩ |
    ⟨b, i, check, rfl, h, h', hi, hclosed, -, -, hhooks, htags⟩
  · rw [hhooks, htags]
    exact nested
  · rw [hhooks, htags]
    exact nested.concat hopen hearlier
  · have dead' : h'.live = false := by simp [Hook.live, hclosed]
    rw [hhooks, htags]
    cases hlive : h.live with
    | false => exact nested.set_dead hi hlive dead'
    | true => exact nested.set_last hi hlive dead' ((inTurn_close hi hlive).1 turn)

/-! ## Closing too early -/

/-- A hook stays as it is until it is closed. -/
theorem getElem?_step {j : Nat} {h : Hook δ} (hj : o.hooks[j]? = some h) {move : Move σ δ}
    (other : ∀ b check, move ≠ .close b j check) : (o.step move).hooks[j]? = some h := by
  rcases o.step_cases move with ⟨hhooks, -⟩ | ⟨x, -, -, hhooks, -⟩ | ⟨b, i, check, rfl, x, x', -, -, -, -, hhooks, -⟩
  · rw [hhooks, hj]
  · rw [hhooks, List.getElem?_append_left (List.getElem?_eq_some_iff.1 hj).1, hj]
  · have hne : i ≠ j := fun hij => other b check (by rw [hij])
    rw [hhooks, List.getElem?_set_ne hne, hj]

/-- A closed hook stays as it is. -/
theorem getElem?_step_closed {i : Nat} {x : Hook δ} (hi : o.hooks[i]? = some x) (closed : x.closed = true)
    (move : Move σ δ) : (o.step move).hooks[i]? = some x := by
  rcases o.step_cases move with ⟨hhooks, -⟩ | ⟨y, -, -, hhooks, -⟩ |
    ⟨b, j, check, rfl, y, y', hj, -, -, hagain, hhooks, -⟩
  · rw [hhooks, hi]
  · rw [hhooks, List.getElem?_append_left (List.getElem?_eq_some_iff.1 hi).1, hi]
  · rw [hhooks]
    rcases Nat.lt_trichotomy j i with hlt | rfl | hgt
    · rw [List.getElem?_set_ne (Nat.ne_of_lt hlt), hi]
    · cases hi.symm.trans hj
      rw [List.getElem?_set_self (List.getElem?_eq_some_iff.1 hi).1, hagain closed]
    · rw [List.getElem?_set_ne (Nat.ne_of_gt hgt), hi]

theorem getElem?_run_closed {i : Nat} {x : Hook δ} (closed : x.closed = true) : ∀ (moves : List (Move σ δ))
    {o : Overlap σ δ}, o.hooks[i]? = some x → (o.run moves).hooks[i]? = some x
  | [], _, hi => hi
  | move :: moves, _, hi => getElem?_run_closed closed moves (getElem?_step_closed hi closed move)

/-- A hook that is open at first and closed at the end is closed by a move. -/
theorem exists_close {j : Nat} {h : Hook δ} (opened : h.closed = false) : ∀ (moves : List (Move σ δ))
    {o : Overlap σ δ}, o.hooks[j]? = some h → (∀ x ∈ (o.run moves).hooks, x.closed = true) →
      ∃ before b check after, moves = before ++ .close b j check :: after ∧ (o.run before).hooks[j]? = some h
  | [], _, hj, closed => by
    rw [closed h (List.mem_of_getElem? hj)] at opened
    cases opened
  | move :: moves, o, hj, closed => by
    by_cases hmove : ∃ b check, move = .close b j check
    · obtain ⟨b, check, rfl⟩ := hmove
      exact ⟨[], b, check, moves, rfl, hj⟩
    · have hother : ∀ b check, move ≠ .close b j check := fun b check heq => hmove ⟨b, check, heq⟩
      obtain ⟨before, b, check, after, rfl, hbefore⟩ := exists_close opened moves (getElem?_step hj hother) closed
      exact ⟨move :: before, b, check, after, rfl, hbefore⟩

/-- Closing a hook with a tag to take back puts the tags in force that it found. -/
theorem tags_step_close {j : Nat} {h : Hook δ} (hj : o.hooks[j]? = some h) (hlive : h.live = true)
    (b : Ambience → Backend σ δ) (check : Option (Scene σ → Except Fault Unit)) :
    (o.step (.close b j check)).scene.tags = h.earlier := by
  obtain ⟨outcome, h', scene', hclose, -, -, -, htags⟩ := Hook.tags_close b check h o.scene
  simp only [step, hj, hclose, htags, hlive, if_true]

/-- The test id in force is that of a hook that is closed already. -/
def Stale (tags : Tags) (o : Overlap σ δ) : Prop :=
  ∃ x ∈ o.hooks, x.closed = true ∧ x.testId ≠ "" ∧ o.scene.tags = Hook.tagged tags x.testId

/-- A move out of turn closes a hook while a later one has a tag to take back. -/
theorem early_of_inTurn {move : Move σ δ} (early : o.inTurn move = false) :
    ∃ b i check, move = .close b i check ∧ ∃ h, o.hooks[i]? = some h ∧ h.live = true ∧
      ∃ j later, i < j ∧ o.hooks[j]? = some later ∧ later.live = true := by
  cases move with
  | install b levels useTestId capture => cases early
  | close b i check =>
    cases hi : o.hooks[i]? with
    | none => simp [inTurn, hi] at early
    | some h =>
      cases hlive : h.live with
      | false => simp [inTurn, hi, hlive] at early
      | true =>
        refine ⟨b, i, check, rfl, h, hi, hlive, ?_⟩
        by_contra hnone
        have hturn : o.inTurn (.close b i check) = true := by
          refine (inTurn_close hi hlive).2 fun j later hij hj => ?_
          by_contra hlater
          exact hnone ⟨j, later, hij, hj, by simpa using hlater⟩
        rw [early] at hturn
        cases hturn

/-- **A hook that is closed too early comes back** when the next one is closed. -/
theorem stale_of_early (nested : Hook.Nested tags o.hooks o.scene.tags) {move : Move σ δ}
    (early : o.inTurn move = false) (moves : List (Move σ δ))
    (closed : ∀ x ∈ (o.run (move :: moves)).hooks, x.closed = true) :
    ∃ before b j check after, move :: moves = before ++ .close b j check :: after ∧
      Stale tags (o.run (before ++ [.close b j check])) := by
  obtain ⟨b, i, check, rfl, h, hi, hlive, k, later, hik, hk, hlater⟩ := early_of_inTurn early
  obtain ⟨j, next, hij, hj, hnext, hearlier⟩ := nested.exists_next hi hlive hik hk hlater
  obtain ⟨outcome, h', scene', hclose, hclosed, hid, -, -⟩ := Hook.tags_close b check h o.scene
  have hstep : o.step (.close b i check) = ⟨scene', o.hooks.set i h'⟩ := by simp only [step, hi, hclose]
  have hearly : (o.step (.close b i check)).hooks[i]? = some h' := by
    rw [hstep, List.getElem?_set_self (List.getElem?_eq_some_iff.1 hi).1]
  have hopen : (o.step (.close b i check)).hooks[j]? = some next := by
    rw [hstep, List.getElem?_set_ne (Nat.ne_of_lt hij), hj]
  obtain ⟨before, b', check', after, rfl, hbefore⟩ := exists_close (Hook.live_iff.1 hnext).1 moves hopen closed
  refine ⟨.close b i check :: before, b', j, check', after, rfl, h', ?_, hclosed, ?_, ?_⟩
  · exact List.mem_of_getElem? (getElem?_run_closed hclosed (before ++ [.close b' j check']) hearly)
  · rw [hid]
    exact (Hook.live_iff.1 hlive).2
  · have hrun : o.run (.close b i check :: before ++ [.close b' j check'])
        = ((o.step (.close b i check)).run before).step (.close b' j check') := List.foldl_concat ..
    rw [hrun, tags_step_close hbefore hnext, hearlier, hid]

/-! ## The order of closing -/

/-- Closing in the reverse order keeps hooks nested all the way. -/
theorem nested_run : ∀ (moves : List (Move σ δ)) {o : Overlap σ δ}, Hook.Nested tags o.hooks o.scene.tags →
    o.inOrder moves = true → ∀ before, before <+: moves →
      Hook.Nested tags (o.run before).hooks (o.run before).scene.tags
  | _, _, nested, _, [], _ => nested
  | [], _, _, _, _ :: _, hprefix => absurd hprefix (by simp)
  | move :: moves, o, nested, ordered, m :: before, hprefix => by
    obtain ⟨rfl, hrest⟩ := List.cons_prefix_cons.1 hprefix
    rw [inOrder, Bool.and_eq_true] at ordered
    exact nested_run moves (nested_step nested ordered.1) ordered.2 before hrest

/-- Closing in another order leaves a test id of a closed hook in force at some time, once all hooks are closed. -/
theorem exists_stale : ∀ (moves : List (Move σ δ)) {o : Overlap σ δ}, Hook.Nested tags o.hooks o.scene.tags →
    o.inOrder moves = false → (∀ x ∈ (o.run moves).hooks, x.closed = true) →
      ∃ before b j check after, moves = before ++ .close b j check :: after ∧
        Stale tags (o.run (before ++ [.close b j check]))
  | move :: moves, o, nested, unordered, closed => by
    cases hturn : o.inTurn move with
    | false => exact stale_of_early nested hturn moves closed
    | true =>
      rw [inOrder, hturn, Bool.true_and] at unordered
      obtain ⟨before, b, j, check, after, rfl, hstale⟩ := exists_stale moves (nested_step nested hturn) unordered closed
      exact ⟨move :: before, b, j, check, after, rfl, hstale⟩

/-- Other tags than the test id are those from before, and so are those that open hooks have found. -/
structure Apart (tags : Tags) (o : Overlap σ δ) : Prop where
  now : ∀ key, key ≠ TestId.key → o.scene.tags.find? key = tags.find? key
  earlier : ∀ h ∈ o.hooks, h.live = true → ∀ key, key ≠ TestId.key → h.earlier.find? key = tags.find? key

theorem Apart.step (apart : Apart tags o) (move : Move σ δ) : Apart tags (o.step move) := by
  rcases o.step_cases move with ⟨hhooks, htags⟩ | ⟨h, -, hearlier, hhooks, htags⟩ |
    ⟨b, i, check, -, h, h', hi, hclosed, -, -, hhooks, htags⟩
  · exact ⟨by rw [htags]; exact apart.now, by rw [hhooks]; exact apart.earlier⟩
  · refine ⟨fun key hkey => ?_, fun x hx hlive key hkey => ?_⟩
    · rw [htags, Hook.find?_tagged _ _ hkey, apart.now key hkey]
    · rw [hhooks, List.mem_append, List.mem_singleton] at hx
      rcases hx with hx | rfl
      · exact apart.earlier x hx hlive key hkey
      · rw [hearlier, apart.now key hkey]
  · refine ⟨fun key hkey => ?_, fun x hx hlive key hkey => ?_⟩
    · rw [htags]
      split
      · next hlive => exact apart.earlier h (List.mem_of_getElem? hi) hlive key hkey
      · exact apart.now key hkey
    · rw [hhooks] at hx
      rcases List.mem_or_eq_of_mem_set hx with hx | rfl
      · exact apart.earlier x hx hlive key hkey
      · rw [Hook.live, hclosed] at hlive
        cases hlive

theorem Apart.run : ∀ (moves : List (Move σ δ)) {o : Overlap σ δ}, Apart tags o → Apart tags (o.run moves)
  | [], _, apart => apart
  | move :: moves, _, apart => Apart.run moves (apart.step move)

/-- **The order in which hooks are closed decides which tags are in force.** For any installations in one context:

* if each hook is closed while no later one has a tag to take back, then at any time the test id in force is that of
  the latest open hook, and once all hooks are closed, the tags are those from before;
* if not, and all hooks are closed in the end, then closing one of them has put the test id of a hook in force again
  that was closed already;
* in any order, the other tags are those from before. -/
theorem in_order_or_stale (scene : Scene σ) (moves : List (Move σ δ)) :
    let o : Overlap σ δ := { scene := scene }
    (o.inOrder moves = true → ∀ before, before <+: moves →
      (o.run before).scene.tags = Hook.inForce scene.tags (o.run before).hooks ∧
        ((∀ h ∈ (o.run before).hooks, h.closed = true) → (o.run before).scene.tags = scene.tags)) ∧
    (o.inOrder moves = false → (∀ h ∈ (o.run moves).hooks, h.closed = true) →
      ∃ before b j check after, moves = before ++ .close b j check :: after ∧
        Stale scene.tags (o.run (before ++ [.close b j check]))) ∧
    ∀ key, key ≠ TestId.key → (o.run moves).scene.tags.find? key = scene.tags.find? key := by
  intro o
  have hnested : Hook.Nested scene.tags o.hooks o.scene.tags := ⟨rfl, nofun⟩
  have hapart : Apart scene.tags o := ⟨fun _ _ => rfl, nofun⟩
  refine ⟨fun ordered before hprefix => ?_, exists_stale moves hnested, (Apart.run moves hapart).now⟩
  have hnow := (nested_run moves hnested ordered before hprefix).now
  refine ⟨hnow, fun closed => ?_⟩
  rw [hnow, Hook.inForce_of_closed scene.tags closed]

/-- Two installations on the tree, closed in the reverse order and in the order in which they were made. -/
theorem in_order_or_stale_pair :
    let scene : Scene Surroundings := { backend := { now := ⟨0⟩ }, tags := [("user", .text "ann")] }
    let o : Overlap Surroundings Detachment := { scene := scene }
    let install (capture : Nat) : Move Surroundings Detachment :=
      .install Surroundings.telling [("", .info)] true capture
    let close (i : Nat) : Move Surroundings Detachment := .close Surroundings.telling i (some fun _ => .ok ())
    let reversed := [install 0, install 1, close 1, close 0]
    let crossed := [install 0, install 1, close 0, close 1]
    (o.run reversed).scene.tags = scene.tags ∧
      ∃ before b j check after, crossed = before ++ .close b j check :: after ∧
        Stale scene.tags (o.run (before ++ [.close b j check])) := by
  intro scene o install close reversed crossed
  have hordered : o.inOrder reversed = true := by decide +kernel
  have hunordered : o.inOrder crossed = false := by decide +kernel
  have hclosed : ∀ h ∈ (o.run reversed).hooks, h.closed = true := by decide +kernel
  have hclosed' : ∀ h ∈ (o.run crossed).hooks, h.closed = true := by decide +kernel
  -- for the rest it does not matter which moves these are
  clear_value reversed crossed
  exact ⟨((in_order_or_stale scene reversed).1 hordered _ (List.prefix_refl _)).2 hclosed,
    (in_order_or_stale scene crossed).2.1 hunordered hclosed'⟩

/-- Two installations that are closed in the order in which they were made leave the test id of the first one in
force. -/
theorem not_restored_crossed :
    ¬∀ (scene : Scene Surroundings) (moves : List (Move Surroundings Detachment)),
      let o : Overlap Surroundings Detachment := { scene := scene }
      (∀ h ∈ (o.run moves).hooks, h.closed = true) → (o.run moves).scene.tags = scene.tags := by
  intro restores
  have hrestored := restores { backend := { now := ⟨0⟩ } }
    [.install Surroundings.telling [("", .info)] true 0, .install Surroundings.telling [("", .info)] true 1,
      .close Surroundings.telling 0 none, .close Surroundings.telling 1 none] (by decide +kernel)
  exact absurd (congrArg List.isEmpty hrestored) (by decide +kernel)

end Overlap

end LogAssay
