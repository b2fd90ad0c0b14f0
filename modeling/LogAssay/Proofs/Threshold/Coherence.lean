import LogAssay.Proofs.Number.Comparison
import LogAssay.Threshold
import Mathlib.Data.List.Chain

/-!
# Threshold tables and their classes

A level is classified from the top down, and the native level of a class is looked up by the class. The two are tied
together by one fact: a level is of a class above the lowest, or of a higher one, iff it reaches the native level of
the class. It rests on the four upper breakpoints alone, as the lowest one only says at which level the lowest class
is emitted.

The check of a table looks for neighbours of which one reaches the next. That is the strict order only among numbers:
the number that is none reaches nothing and is reached by nothing, so a table with it may pass.

## Main statements

* `classify_mono`: higher levels are of classes that are not lower.
* `Ascending.le_classify_iff`: when a level is of a class, or of a higher one.
* `coherent`: classes and native levels of an increasing table.
* `check_exact_on_numbers`: which tables are accepted, and which of these give each class back for its native level.
* `not_increasing_of_nan`: a table out of order that is accepted.
-/

namespace LogAssay.Thresholds

variable {t : Thresholds} {s s' : Severity} {x y : Quantity}

/-! ## Increasing tables -/

/-- The lowest levels of the classes above the lowest one increase. -/
structure Ascending (t : Thresholds) : Prop where
  info : t.fine.lt t.info = true
  warning : t.info.lt t.warning = true
  severe : t.warning.lt t.severe = true

/-- All breakpoints increase. -/
structure Increasing (t : Thresholds) : Prop extends Ascending t where
  fine : t.floor.lt t.fine = true

theorem Ascending.native_lt (h : t.Ascending) : ∀ {s s' : Severity}, .finest < s → s < s' →
    (t.native s).lt (t.native s') = true
  | .fine, .info, _, _ => h.info
  | .fine, .warning, _, _ => Quantity.lt_trans h.info h.warning
  | .fine, .severe, _, _ => Quantity.lt_trans h.info (Quantity.lt_trans h.warning h.severe)
  | .info, .warning, _, _ => h.warning
  | .info, .severe, _, _ => Quantity.lt_trans h.warning h.severe
  | .warning, .severe, _, _ => h.severe

/-- **A higher class has a higher native level.** -/
theorem Increasing.native_lt (h : t.Increasing) : ∀ {s s' : Severity}, s < s' → (t.native s).lt (t.native s') = true
  | .finest, .fine, _ => h.fine
  | .finest, .info, _ => Quantity.lt_trans h.fine h.info
  | .finest, .warning, _ => Quantity.lt_trans h.fine (Quantity.lt_trans h.info h.warning)
  | .finest, .severe, _ => Quantity.lt_trans h.fine (Quantity.lt_trans h.info (Quantity.lt_trans h.warning h.severe))
  | .fine, _, hs => h.toAscending.native_lt (by decide) hs
  | .info, _, hs => h.toAscending.native_lt (by decide) hs
  | .warning, _, hs => h.toAscending.native_lt (by decide) hs

theorem Ascending.native_le (h : t.Ascending) (hs : .finest < s) (hss' : s ≤ s') (hx : (t.native s').le x = true) :
    (t.native s).le x = true := by
  rcases Nat.lt_or_eq_of_le hss' with hlt | heq
  · exact Quantity.le_trans (Quantity.le_of_lt (h.native_lt hs hlt)) hx
  · rwa [Severity.rank_injective heq]

/-! ## Classes of levels -/

/-- A level reaches the native level of its class, unless the class is the lowest. -/
theorem native_classify_le (h : .finest < t.classify x) : (t.native (t.classify x)).le x = true := by
  unfold classify at h ⊢
  split_ifs at h ⊢ with hsevere hwarning hinfo hfine
  · exact hsevere
  · exact hwarning
  · exact hinfo
  · exact hfine
  · exact absurd h (by decide)

/-- A level is not of a lower class than one whose native level it reaches. -/
theorem le_classify (h : (t.native s).le x = true) : s ≤ t.classify x := by
  unfold classify
  cases s with
  | finest => exact Nat.zero_le _
  | fine | info | warning | severe =>
    rw [native] at h
    split_ifs <;> decide

/-- **A higher level is of a class that is not lower**, whatever the table. -/
theorem classify_mono (hxy : x.le y = true) : t.classify x ≤ t.classify y := by
  rcases (t.classify x).eq_finest_or_lt with hfinest | habove
  · rw [hfinest]
    exact Nat.zero_le _
  · exact le_classify (Quantity.le_trans (native_classify_le habove) hxy)

/-- **A level is of a class, or of a higher one, iff it reaches the native level of the class.** -/
theorem Ascending.le_classify_iff (h : t.Ascending) (hs : .finest < s) :
    s ≤ t.classify x ↔ (t.native s).le x = true := by
  constructor
  · intro hclass
    exact h.native_le hs hclass (native_classify_le (Nat.lt_of_lt_of_le hs hclass))
  · exact le_classify

theorem Ascending.isNumber (h : t.Ascending) : ∀ {s : Severity}, .finest < s → (t.native s).isNumber = true
  | .fine, _ => (Quantity.isNumber_of_lt h.info).1
  | .info, _ => (Quantity.isNumber_of_lt h.info).2
  | .warning, _ => (Quantity.isNumber_of_lt h.warning).2
  | .severe, _ => (Quantity.isNumber_of_lt h.severe).2

/-- What does not reach the second class is of the lowest class. -/
theorem Ascending.classify_eq_finest (h : t.Ascending) (hx : t.fine.le x = false) : t.classify x = .finest := by
  rcases (t.classify x).eq_finest_or_lt with hfinest | habove
  · exact hfinest
  · have hreached : t.fine.le x = true := (h.le_classify_iff (s := .fine) (by decide)).1 habove
    rw [hx] at hreached
    cases hreached

/-- **Every class is given back for its native level**, if the lowest breakpoint does not reach the next one. -/
theorem Ascending.classify_native (h : t.Ascending) (hfloor : t.fine.le t.floor = false) (s : Severity) :
    t.classify (t.native s) = s := by
  rcases s.eq_finest_or_lt with rfl | hs
  · exact h.classify_eq_finest hfloor
  · refine Severity.le_antisymm ?_ (le_classify (Quantity.le_refl (h.isNumber hs)))
    by_contra hhigher
    have hlt : s < t.classify (t.native s) := Nat.lt_of_not_le hhigher
    have hreached := (h.le_classify_iff (Nat.lt_trans hs hlt)).1 (Nat.le_refl _)
    rw [Quantity.le_eq_false_iff.2 (.inl (h.native_lt hs hlt))] at hreached
    cases hreached

/-- **Thresholds are coherent.** In an increasing table, a higher level is of a class that is not lower; every class
is given back for its native level; a higher class has a higher native level; and a level is of a class above the
lowest, or of a higher one, iff it reaches the native level of the class. Levels may be numbers of any kind, also
other ones than those of the table, and even the number that is none, which is of the lowest class. -/
theorem coherent (h : t.Increasing) :
    (∀ x y, x.le y = true → t.classify x ≤ t.classify y) ∧
    (∀ s, t.classify (t.native s) = s) ∧
    (∀ s s', s < s' → (t.native s).lt (t.native s') = true) ∧
    ∀ s, .finest < s → ∀ x, s ≤ t.classify x ↔ (t.native s).le x = true := by
  have hascending := h.toAscending
  have hfloor : t.fine.le t.floor = false := Quantity.le_eq_false_iff.2 (.inl h.fine)
  exact ⟨fun x y => classify_mono, hascending.classify_native hfloor, fun s s' => h.native_lt,
    fun s hs x => hascending.le_classify_iff hs⟩

/-- Integers and floating-point numbers in turn, around the point where floating-point numbers have a distance of two,
with an infinity at either end. -/
def mixed : Thresholds where
  floor := .float (.infinite true)
  fine := .int 9007199254740992
  info := .int 9007199254740993
  warning := .float (Binary64.ofInt 9007199254740994)
  severe := .float (.infinite false)

theorem coherent_mixed : mixed.Increasing ∧
    mixed.classify (.float (Binary64.ofInt 9007199254740992)) = .fine ∧
    mixed.classify (.float (.infinite true)) = .finest ∧
    mixed.classify (.float (Binary64.ofInt 9007199254740992)) ≤ mixed.classify (.int 9007199254740993) ∧
    .warning ≤ mixed.classify (.int 9007199254740994) := by
  have h : mixed.Increasing :=
    { fine := by decide +kernel, info := by decide +kernel, warning := by decide +kernel, severe := by decide +kernel }
  obtain ⟨hmono, hnative, -, hreach⟩ := coherent h
  refine ⟨h, ?_, hnative .finest, hmono _ _ (by decide +kernel), (hreach .warning (by decide) _).2 (by decide +kernel)⟩
  decide +kernel

/-! ## Tables that are accepted -/

/-- Neighbouring breakpoints that the check of a table lets pass: they increase, or one of them is none. -/
def Passes (a b : Quantity) : Prop := a.lt b = true ∨ a.isNumber = false ∨ b.isNumber = false

theorem Passes.lt {a b : Quantity} (h : Passes a b) (ha : a.isNumber = true) (hb : b.isNumber = true) :
    a.lt b = true := by
  rcases h with hlt | hnone | hnone
  · exact hlt
  · rw [ha] at hnone
    cases hnone
  · rw [hb] at hnone
    cases hnone

theorem rising_iff : ∀ {qs : List Quantity}, rising qs = true ↔ qs.IsChain Passes
  | [] => by simp [rising]
  | [a] => by simp [rising]
  | a :: b :: qs => by
    rw [rising, Bool.and_eq_true, rising_iff, List.isChain_cons_cons, Bool.not_eq_true', Quantity.le_eq_false_iff,
      Passes]

theorem check_eq_ok_iff : t.check = .ok t ↔ t.breakpoints.IsChain Passes := by
  rw [← rising_iff, check]
  split
  · next h => exact iff_of_true rfl h
  · next h => exact iff_of_false nofun h

theorem check_eq_error (h : t.check ≠ .ok t) :
    t.check = .error (.breakpoints (t.breakpoints.map fun q => .scalar q.toScalar)) := by
  unfold check at h ⊢
  split
  · next hrising => exact absurd (if_pos hrising) h
  · rfl

theorem passes_of_check (h : t.check = .ok t) :
    Passes t.floor t.fine ∧ Passes t.fine t.info ∧ Passes t.info t.warning ∧ Passes t.warning t.severe := by
  have hchain := check_eq_ok_iff.1 h
  rw [breakpoints] at hchain
  simpa only [List.isChain_cons_cons, List.isChain_singleton, and_true] using hchain

theorem ascending_of_check (h : t.check = .ok t) (hnumbers : ∀ s, .finest < s → (t.native s).isNumber = true) :
    t.Ascending := by
  obtain ⟨-, hinfo, hwarning, hsevere⟩ := passes_of_check h
  have hfine : t.fine.isNumber = true := hnumbers .fine (by decide)
  have hinfo' : t.info.isNumber = true := hnumbers .info (by decide)
  have hwarning' : t.warning.isNumber = true := hnumbers .warning (by decide)
  have hsevere' : t.severe.isNumber = true := hnumbers .severe (by decide)
  exact ⟨hinfo.lt hfine hinfo', hwarning.lt hinfo' hwarning', hsevere.lt hwarning' hsevere'⟩

theorem Increasing.check_eq (h : t.Increasing) : t.check = .ok t := by
  rw [check_eq_ok_iff, breakpoints]
  simp only [List.isChain_cons_cons, List.isChain_singleton, and_true]
  exact ⟨.inl h.fine, .inl h.info, .inl h.warning, .inl h.severe⟩

/-- A table increases iff it is accepted and its native levels are numbers. -/
theorem increasing_iff : t.Increasing ↔ t.check = .ok t ∧ ∀ s, (t.native s).isNumber = true := by
  constructor
  · intro h
    refine ⟨h.check_eq, fun s => ?_⟩
    rcases s.eq_finest_or_lt with rfl | hs
    · exact (Quantity.isNumber_of_lt h.fine).1
    · exact h.toAscending.isNumber hs
  · rintro ⟨hcheck, hnumbers⟩
    have hascending := ascending_of_check hcheck fun s _ => hnumbers s
    exact { hascending with fine := (passes_of_check hcheck).1.lt (hnumbers .finest) (hnumbers .fine) }

/-- An accepted table gives each class back for its native level iff the native levels above the lowest class are
numbers. -/
theorem classify_native_iff (h : t.check = .ok t) :
    (∀ s, t.classify (t.native s) = s) ↔ ∀ s, .finest < s → (t.native s).isNumber = true := by
  constructor
  · intro hback s hs
    have hreached : (t.native (t.classify (t.native s))).le (t.native s) = true :=
      native_classify_le (by rw [hback s]; exact hs)
    exact (Quantity.isNumber_of_le hreached).2
  · intro hnumbers
    have hfloor := Quantity.le_eq_false_iff.2 (passes_of_check h).1
    exact (ascending_of_check h hnumbers).classify_native hfloor

/-- **Which tables are accepted.** A table is accepted, or refused with a fault of the value class that tells its
breakpoints. It is accepted iff of any two neighbouring breakpoints the first is below the second, or one of them is
the number that is none. So among tables of numbers exactly those are accepted that increase; and an accepted table
gives each class back for its native level iff the native levels above that of the lowest class are numbers. -/
theorem check_exact_on_numbers (t : Thresholds) :
    (t.check = .ok t ∨ ∃ fault, t.check = .error fault ∧ fault.kind = .value ∧
      fault = .breakpoints (t.breakpoints.map fun q => .scalar q.toScalar)) ∧
    (t.check = .ok t ↔ t.breakpoints.IsChain fun a b => a.lt b = true ∨ a.isNumber = false ∨ b.isNumber = false) ∧
    (t.Increasing ↔ t.check = .ok t ∧ ∀ s, (t.native s).isNumber = true) ∧
    (t.check = .ok t →
      ((∀ s, t.classify (t.native s) = s) ↔ ∀ s, .finest < s → (t.native s).isNumber = true)) := by
  refine ⟨?_, check_eq_ok_iff, increasing_iff, classify_native_iff⟩
  by_cases h : t.check = .ok t
  · exact .inl h
  · exact .inr ⟨_, check_eq_error h, rfl, rfl⟩

/-- A table whose lowest breakpoint is no number. -/
def groundless : Thresholds := ⟨.float .nan, .int 10, .int 20, .int 30, .int 40⟩

theorem check_exact_on_numbers_groundless : groundless.check = .ok groundless ∧ ¬ groundless.Increasing ∧
    ∀ s, groundless.classify (groundless.native s) = s := by
  obtain ⟨-, -, hincreasing, hback⟩ := check_exact_on_numbers groundless
  have hcheck : groundless.check = .ok groundless := if_pos (by decide +kernel)
  refine ⟨hcheck, fun h => ?_, (hback hcheck).2 fun s hs => ?_⟩
  · exact absurd ((hincreasing.1 h).2 .finest) (by decide)
  · cases s with
    | finest => exact absurd hs (by decide)
    | _ => rfl

/-- A table is accepted whose second breakpoint is no number: it does not increase, and does not give the second class
back. -/
theorem not_increasing_of_nan :
    let t : Thresholds := ⟨.int 5, .float .nan, .int 20, .int 30, .int 40⟩
    t.check = .ok t ∧ ¬ t.Increasing ∧ t.classify (t.native .fine) = .finest := by
  intro t
  exact ⟨if_pos (by decide +kernel), fun h => absurd h.fine (by decide +kernel), by decide +kernel⟩

end LogAssay.Thresholds
