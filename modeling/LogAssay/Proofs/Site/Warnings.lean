import LogAssay.Proofs.Site.Attribution

/-!
# Reports on names outside the convention

Sites are attributed one after the other. A name may lie outside the convention in two ways: some component of the
form `<...>` is none that the convention knows, or the nearest component that names a scope is such a one. Each is
reported once in a run, for the first name that it is true of, and neither changes what a site is attributed to.

Both are one matter with two topics. A look-up trips the latch of each topic that is due (`reported_note`) and brings
the reports on the topics that are due and not reported yet (`mem_note_iff`), so after some calls a topic is reported
exactly if it was due in one of them (`reported_after`). The two conditions are said of the components from the
outside in, while names are read from the inside out.

## Main statements

* `breaksClassConvention_iff`, `breaksMethodConvention_iff`: when a name lies outside the convention.
* `getElem?_inferAll`: what each call of a run brings.
* `countP_inferAll`: how many reports on a topic a run brings.
* `warned_once`: the reports and the results of a run.
-/

namespace LogAssay

namespace Text

theorem join_eq_intercalate (separator : Char) : ∀ ps : List (List Char), join separator ps = [separator].intercalate ps
  | [] => rfl
  | [p] => by simp [join]
  | p :: q :: ps => by
    rw [join, join_eq_intercalate separator (q :: ps), List.intercalate_cons_cons, List.append_assoc,
      List.singleton_append]
    simp

/-- The pieces of a text are what it is split into. -/
theorem pieces_eq_splitOn (separator : Char) (s : List Char) : pieces separator s = s.splitOn separator := by
  have hsplit : ([separator].intercalate (pieces separator s)).splitOn separator = pieces separator s :=
    List.splitOn_intercalate separator (fun _ hp => not_mem_of_mem_pieces hp) (pieces_ne_nil separator s)
  rw [← hsplit, ← join_eq_intercalate, join_pieces]

end Text

namespace Site

/-! ## The convention -/

/-- The components of a qualified name, from the outside in. -/
def componentsOf (name : String) : List (List Char) := name.toList.splitOn '.'

theorem inward_eq_reverse (name : String) : inward name.toList = (componentsOf name).reverse := by
  rw [inward, Text.pieces_eq_splitOn]
  rfl

/-- The components that name no scope. -/
def nameless : List (List Char) :=
  ["<lambda>".toList, "<genexpr>".toList, "<listcomp>".toList, "<dictcomp>".toList, "<setcomp>".toList,
   "<locals>".toList]

/-- Whether a component has the form `<...>` but is none that the convention knows. -/
def IsOutside (component : List Char) : Prop :=
  (∃ inner, component = '<' :: inner ++ ['>']) ∧ component ∉ nameless ∧ component ≠ "<module>".toList

variable {component : List Char}

theorem isPassedOver_iff : isPassedOver component = true ↔ component ∈ nameless := by
  have hnameless : nameless = syntheticNames ++ [localsMark] := rfl
  rw [isPassedOver, Bool.or_eq_true, List.contains_iff_mem, beq_iff_eq, hnameless, List.mem_append, List.mem_singleton]

theorem isBracketed_iff : component.head? = some '<' ∧ component.getLast? = some '>' ↔
    ∃ inner, component = '<' :: inner ++ ['>'] := by
  constructor
  · rintro ⟨hfirst, hlast⟩
    obtain ⟨front, rfl⟩ := List.getLast?_eq_some_iff.1 hlast
    cases front with
    | nil => cases hfirst
    | cons c inner =>
      obtain rfl : c = '<' := Option.some.inj hfirst
      exact ⟨inner, rfl⟩
  · rintro ⟨inner, rfl⟩
    exact ⟨rfl, List.getLast?_concat⟩

theorem isUnconventional_iff : isUnconventional component = true ↔ IsOutside component := by
  simp only [isUnconventional, Bool.and_eq_true, beq_iff_eq, isBracketed_iff, Bool.not_eq_true', bne_iff_ne,
    ← Bool.not_eq_true, isPassedOver_iff, IsOutside, and_assoc]
  rfl

/-- The nearest component that names a scope: all components inside it name none. -/
def IsNearest (components : List (List Char)) (nearest : List Char) : Prop :=
  ∃ around inside, components = around ++ nearest :: inside ∧ nearest ∉ nameless ∧ ∀ c ∈ inside, c ∈ nameless

theorem head?_named_iff {components : List (List Char)} {nearest : List Char} :
    (named components.reverse).head? = some nearest ↔ IsNearest components nearest := by
  constructor
  · intro hhead
    -- What is passed over is a front of the reversed components, hence the innermost ones.
    obtain ⟨rest, hrest⟩ := List.head?_eq_some_iff.1 hhead
    have hparts : components.reverse.takeWhile isPassedOver ++ nearest :: rest = components.reverse := by
      rw [← hrest, named, List.takeWhile_append_dropWhile]
    have hinside : ∀ c ∈ components.reverse.takeWhile isPassedOver, isPassedOver c = true :=
      fun c hc => List.mem_takeWhile_imp hc
    have hnamed : isPassedOver nearest = false := by
      have hfirst := List.head?_dropWhile_not isPassedOver components.reverse
      rw [← named, hhead] at hfirst
      exact hfirst
    refine ⟨rest.reverse, (components.reverse.takeWhile isPassedOver).reverse, ?_, ?_, fun c hc => ?_⟩
    · have hcomponents := congrArg List.reverse hparts
      rw [List.reverse_append, List.reverse_cons, List.reverse_reverse, List.append_assoc,
        List.singleton_append] at hcomponents
      exact hcomponents.symm
    · rw [← isPassedOver_iff, hnamed]
      exact Bool.false_ne_true
    · exact isPassedOver_iff.1 (hinside c (List.mem_reverse.1 hc))
  · rintro ⟨around, inside, rfl, hnamed, hinside⟩
    have hskip : ∀ c ∈ inside.reverse, isPassedOver c = true :=
      fun c hc => isPassedOver_iff.2 (hinside c (List.mem_reverse.1 hc))
    rw [named, List.reverse_append, List.reverse_cons, List.append_assoc, List.dropWhile_append_of_pos hskip,
      List.singleton_append, List.dropWhile_cons_of_neg (mt isPassedOver_iff.1 hnamed), List.head?_cons]

theorem breaksClassConvention_iff (name : String) :
    breaksClassConvention name = true ↔ ∃ c ∈ componentsOf name, IsOutside c := by
  rw [breaksClassConvention, inward_eq_reverse, List.any_reverse, List.any_eq_true]
  simp only [isUnconventional_iff]

theorem breaksMethodConvention_iff (name : String) :
    breaksMethodConvention name = true ↔ ∃ nearest, IsNearest (componentsOf name) nearest ∧ IsOutside nearest := by
  rw [breaksMethodConvention, inward_eq_reverse, Option.any_eq_true]
  simp only [head?_named_iff, isUnconventional_iff]

/-! ## Topics -/

/-- What a report is on. -/
inductive Topic where
  | onClass
  | onMethod
  deriving DecidableEq, Repr

namespace Topic

/-- Whether a report on a topic was made before. -/
def reported : Topic → Latches → Bool
  | onClass, latches => latches.classReported
  | onMethod, latches => latches.methodReported

def isDue : Topic → String → Bool
  | onClass, name => breaksClassConvention name
  | onMethod, name => breaksMethodConvention name

def report : Topic → String → Caution
  | onClass, name => .classConvention name
  | onMethod, name => .methodConvention name

/-- Whether a caution is a report on a topic. -/
def tells : Topic → Caution → Bool
  | onClass, .classConvention _ => true
  | onMethod, .methodConvention _ => true
  | _, _ => false

/-- Whether a name lies outside the convention. -/
def Concerns : Topic → String → Prop
  | onClass, name => ∃ c ∈ componentsOf name, IsOutside c
  | onMethod, name => ∃ nearest, IsNearest (componentsOf name) nearest ∧ IsOutside nearest

theorem isDue_iff (topic : Topic) (name : String) : topic.isDue name = true ↔ topic.Concerns name := by
  cases topic with
  | onClass => exact breaksClassConvention_iff name
  | onMethod => exact breaksMethodConvention_iff name

end Topic

/-! ## One call -/

section

variable (topic : Topic) (latches : Latches) (name : String)

/-- What a look-up reports on a topic. -/
def newsOn : List Caution :=
  if topic.isDue name && !topic.reported latches then [topic.report name] else []

theorem note_reports : (note latches name).2 = newsOn .onClass latches name ++ newsOn .onMethod latches name := by
  obtain ⟨classReported, methodReported⟩ := latches
  cases hclass : breaksClassConvention name <;> cases hmethod : breaksMethodConvention name <;>
    cases classReported <;> cases methodReported <;>
    simp [note, noteClass, noteMethod, newsOn, Topic.isDue, Topic.reported, Topic.report, hclass, hmethod]

/-- A look-up trips the latch of each topic that is due. -/
theorem reported_note : topic.reported (note latches name).1 = (topic.reported latches || topic.isDue name) := by
  -- The two look-ups run one after the other, but each reads and trips a latch of its own.
  obtain ⟨classReported, methodReported⟩ := latches
  cases hclass : breaksClassConvention name <;> cases hmethod : breaksMethodConvention name <;>
    cases classReported <;> cases methodReported <;> cases topic <;>
    simp [note, noteClass, noteMethod, Topic.isDue, Topic.reported, hclass, hmethod]

variable {topic latches name}

theorem mem_newsOn_iff {c : Caution} :
    c ∈ newsOn topic latches name ↔
      c = topic.report name ∧ topic.isDue name = true ∧ topic.reported latches = false := by
  rw [newsOn]
  split <;> simp_all

theorem mem_note_iff {c : Caution} : c ∈ (note latches name).2 ↔
    ∃ topic : Topic, c = topic.report name ∧ topic.isDue name = true ∧ topic.reported latches = false := by
  rw [note_reports, List.mem_append, mem_newsOn_iff, mem_newsOn_iff]
  constructor
  · rintro (h | h)
    · exact ⟨.onClass, h⟩
    · exact ⟨.onMethod, h⟩
  · rintro ⟨topic, h⟩
    cases topic with
    | onClass => exact .inl h
    | onMethod => exact .inr h

theorem countP_newsOn (other : Topic) : (newsOn other latches name).countP topic.tells =
    if topic = other then (other.isDue name && !other.reported latches).toNat else 0 := by
  rw [newsOn]
  cases other.isDue name && !other.reported latches with
  | false => simp
  | true => cases topic <;> cases other <;> rfl

theorem countP_note : (note latches name).2.countP topic.tells =
    (topic.isDue name && !topic.reported latches).toNat := by
  rw [note_reports, List.countP_append, countP_newsOn, countP_newsOn]
  cases topic <;> simp

end

/-! ## A run -/

/-- The answers to the calls of a run, one after the other: what each site is attributed to and the reports that it
brings. -/
def inferAll (latches : Latches) : List (String × String) → List ((String × String) × List Caution)
  | [] => []
  | (module, name) :: calls =>
    let (site, latches, reports) := infer latches module name
    (site, reports) :: inferAll latches calls

/-- What was reported after some calls. -/
def after (latches : Latches) (calls : List (String × String)) : Latches :=
  calls.foldl (fun latches call => (note latches call.2).1) latches

/-- Whether a call is the first whose name a property is true of. -/
def IsFirst (p : String → Prop) (calls : List (String × String)) (i : Nat) : Prop :=
  (∃ call, calls[i]? = some call ∧ p call.2) ∧ ∀ j < i, ∀ earlier, calls[j]? = some earlier → ¬p earlier.2

/-- After some calls a topic is reported exactly if it was due in one of them, or reported before. -/
theorem reported_after (topic : Topic) (latches : Latches) (calls : List (String × String)) :
    topic.reported (after latches calls) = (topic.reported latches || calls.any (topic.isDue ·.2)) := by
  induction calls generalizing latches with
  | nil => simp [after]
  | cons call calls ih =>
    rw [after, List.foldl_cons, ← after, ih, reported_note, List.any_cons, Bool.or_assoc]

/-- What a call brings is told from its own name and from what was reported after the calls before it. -/
theorem getElem?_inferAll (latches : Latches) (calls : List (String × String)) (i : Nat) :
    (inferAll latches calls)[i]? =
      calls[i]?.map fun call => (attributed call.1 call.2, (note (after latches (calls.take i)) call.2).2) := by
  induction calls generalizing latches i with
  | nil => rfl
  | cons call calls ih =>
    cases i with
    | zero => rfl
    | succ i => exact ih _ i

/-- A run brings one report on a topic, if it is due in some call and was not reported before, and none otherwise. -/
theorem countP_inferAll (topic : Topic) (latches : Latches) (calls : List (String × String)) :
    ((inferAll latches calls).flatMap Prod.snd).countP topic.tells =
      (calls.any (topic.isDue ·.2) && !topic.reported latches).toNat := by
  induction calls generalizing latches with
  | nil => rfl
  | cons call calls ih =>
    have hcons : (inferAll latches (call :: calls)).flatMap Prod.snd =
        (note latches call.2).2 ++ (inferAll (note latches call.2).1 calls).flatMap Prod.snd := rfl
    -- Once the first call has reported, the latch keeps all others from it.
    rw [hcons, List.countP_append, countP_note, ih, reported_note, List.any_cons]
    cases topic.reported latches <;> cases topic.isDue call.2 <;> simp

/-- Nothing was reported on a topic before a call exactly if no earlier name is outside the convention. -/
theorem reported_after_take_eq_false_iff {topic : Topic} {calls : List (String × String)} {i : Nat} :
    topic.reported (after {} (calls.take i)) = false ↔
      ∀ j < i, ∀ earlier, calls[j]? = some earlier → ¬topic.Concerns earlier.2 := by
  have hfresh : topic.reported {} = false := by cases topic <;> rfl
  rw [reported_after, hfresh, Bool.false_or, List.any_eq_false]
  constructor
  · intro hnone j hj earlier hearlier
    rw [← topic.isDue_iff]
    refine hnone earlier (List.mem_iff_getElem?.2 ⟨j, ?_⟩)
    rw [List.getElem?_take_of_lt hj, hearlier]
  · intro hnone earlier hmem
    obtain ⟨j, hearlier⟩ := List.mem_iff_getElem?.1 hmem
    rw [List.getElem?_take] at hearlier
    split at hearlier
    · rw [topic.isDue_iff]
      exact hnone j ‹_› earlier hearlier
    · cases hearlier

/-- The reports of a call are on the topics whose first call it is. -/
theorem mem_reports_iff {calls : List (String × String)} {i : Nat} {call : String × String}
    (hcall : calls[i]? = some call) {c : Caution} :
    c ∈ (note (after {} (calls.take i)) call.2).2 ↔
      ∃ topic : Topic, c = topic.report call.2 ∧ IsFirst topic.Concerns calls i := by
  rw [mem_note_iff]
  refine exists_congr fun topic => and_congr_right fun _ => ?_
  rw [reported_after_take_eq_false_iff, topic.isDue_iff, IsFirst, hcall]
  simp

/-- **Names outside the convention are reported once and change no result.** In a run over any modules and names that
starts with no reports made, each call attributes its site as it would by itself. There is at most one report on classes
and at most one on functions. A call brings a report exactly if its name is the first of the run that lies outside the
convention: for classes by any component, for functions by the nearest component that names a scope. -/
theorem warned_once (calls : List (String × String)) :
    (inferAll {} calls).map Prod.fst = calls.map (fun call => (infer {} call.1 call.2).1) ∧
    (∀ topic : Topic, ((inferAll {} calls).flatMap Prod.snd).countP topic.tells ≤ 1) ∧
    ∀ i call, calls[i]? = some call →
      ∃ reports, (inferAll {} calls)[i]? = some (attributed call.1 call.2, reports) ∧
        ∀ caution, caution ∈ reports ↔
          ∃ topic : Topic, caution = topic.report call.2 ∧ IsFirst topic.Concerns calls i := by
  refine ⟨List.ext_getElem? fun i => ?_, fun topic => ?_, fun i call hcall => ?_⟩
  · rw [List.getElem?_map, List.getElem?_map, getElem?_inferAll, Option.map_map]
    rfl
  · rw [countP_inferAll]
    exact Bool.toNat_le _
  · refine ⟨_, ?_, fun caution => mem_reports_iff hcall⟩
    rw [getElem?_inferAll, hcall, Option.map_some]

example :
    (inferAll {} [("m", "f.<locals>.<lambda>"), ("m", "C.<new>.g"), ("m", "C.<new>"), ("m", "<new>")]).map Prod.snd =
      [[], [.classConvention "C.<new>.g"], [.methodConvention "C.<new>"], []] := by
  decide +kernel

end Site

end LogAssay
