import LogAssay.Proofs.Agreement.Numbers
import LogAssay.Proofs.Logger.Annotating
import LogAssay.Proofs.Metadata.Reencoding

/-!
# Stamping tags again

Metadata that was given some tags carries them, so that it takes nothing from them a second time. This rests on every
value agreeing with itself, and there the infinities and the number that is none are exceptions: nothing agrees with
them, as their distance from any number is none or infinite. A tag of this kind is added each time.

## Main statements

* `Scalar.FitsWord.agrees_self`: which scalars agree with themselves.
* `Tags.exists_stamped`: stamping adds tags behind the values that are there, and all tags but the exceptions are
  carried.
* `stamped_again_iff`: exactly when stamping a second time changes nothing.
-/

namespace LogAssay

/-! ## Agreement with oneself -/

namespace Binary64

/-- Nothing is within the tolerance of an infinity or of the number that is none. -/
theorem lt_tolerance_of_isNonfinite (x : Binary64) {y : Binary64} (h : (Scalar.float y).isNonfinite = true) :
    (Quantity.float (x.sub y).abs).lt (.float Value.tolerance) = false := by
  have hnan : (Quantity.float nan).lt (.float Value.tolerance) = false := rfl
  have hinfinite : (Quantity.float (infinite false)).lt (.float Value.tolerance) = false := by decide +kernel
  cases y with
  | finite => cases h
  | nan => cases x <;> exact hnan
  | infinite b =>
    cases x with
    | nan => exact hnan
    | finite => exact hinfinite
    | infinite a =>
      by_cases hab : a = b
      · rw [sub, if_pos hab]
        exact hnan
      · rw [sub, if_neg hab]
        exact hinfinite

end Binary64

namespace Scalar

variable {s v : Scalar} {ss : List Scalar}

/-- A number of 64 bits is brought to floating point. -/
theorem FitsWord.toBinary64 {i : Int} (h : (Scalar.int i).FitsWord) : ∃ x, Value.toBinary64 (.int i) = .ok x := by
  have hlimit : 2 ^ 63 < Binary64.integerLimit := by decide +kernel
  have hlt : i.natAbs < Binary64.integerLimit := by
    have hfits : -2 ^ 63 ≤ i ∧ i < 2 ^ 63 := h
    omega
  obtain ⟨hu, hi⟩ := Binary64.ofInt_of_lt hlt
  exact ⟨_, Binary64.toBinary64_of_finite hi⟩

theorem FitsWord.exists_isNear {q : Quantity} (h : s.FitsWord) (hq : (Value.scalar s).number? = some q) (y : Binary64) :
    ∃ x : Binary64, Value.isNear q y = .ok ((Quantity.float (x.sub y).abs).lt (.float Value.tolerance)) := by
  cases s with
  | bool b => cases hq
  | text t => cases hq
  | float x =>
    cases hq
    exact ⟨x, rfl⟩
  | int i =>
    cases hq
    obtain ⟨x, hx⟩ := h.toBinary64
    refine ⟨x, ?_⟩
    rw [Value.isNear, hx]
    rfl

/-- **Comparing with a scalar that fits does not fail.** -/
theorem FitsWord.exists_agrees (h : s.FitsWord) (v : Scalar) :
    ∃ agreed, (Value.scalar s).agrees (.scalar v) = .ok agreed := by
  cases v with
  | bool b => cases s <;> exact ⟨_, rfl⟩
  | int j =>
    unfold Value.agrees
    simp only
    cases (Value.scalar s).number? <;> exact ⟨_, rfl⟩
  | float y =>
    unfold Value.agrees
    simp only
    cases hq : (Value.scalar s).number? with
    | none => exact ⟨_, rfl⟩
    | some q =>
      obtain ⟨x, hx⟩ := h.exists_isNear hq y
      exact ⟨_, hx⟩
  | text t => exact ⟨_, Value.agrees_text s t⟩

/-- Nothing agrees with an infinity or with the number that is none. -/
theorem FitsWord.agrees_of_isNonfinite (h : s.FitsWord) (hv : v.isNonfinite = true) :
    (Value.scalar s).agrees (.scalar v) = .ok false := by
  cases v with
  | bool | int | text => cases hv
  | float y =>
    unfold Value.agrees
    simp only
    cases hq : (Value.scalar s).number? with
    | none => rfl
    | some q =>
      obtain ⟨x, hx⟩ := h.exists_isNear hq y
      simp only
      rw [hx, Binary64.lt_tolerance_of_isNonfinite x hv]

/-- **A scalar that fits agrees with itself unless it is an infinity or the number that is none.** -/
theorem FitsWord.agrees_self (h : s.FitsWord) : (Value.scalar s).agrees (.scalar s) = .ok (!s.isNonfinite) := by
  cases hs : s.isNonfinite with
  | false => exact (h.isStorable hs).agrees_self
  | true => exact h.agrees_of_isNonfinite hs

/-- A search among scalars that fit finds what agrees. -/
theorem exists_anyAgrees (fits : ∀ s ∈ ss, s.FitsWord) (v : Scalar) : ∃ found,
    anyAgrees ss (.scalar v) = .ok found ∧
      (found = true ↔ ∃ s ∈ ss, (Value.scalar s).agrees (.scalar v) = .ok true) := by
  induction ss with
  | nil => exact ⟨false, rfl, by simp⟩
  | cons s others ih =>
    rw [List.forall_mem_cons] at fits
    obtain ⟨agreed, hs⟩ := fits.1.exists_agrees v
    unfold anyAgrees
    rw [hs]
    cases agreed with
    | true => exact ⟨true, rfl, by simp [hs]⟩
    | false =>
      obtain ⟨found, hfound, hiff⟩ := ih fits.2
      exact ⟨found, hfound, by simp [hiff, hs]⟩

end Scalar

/-! ## Tags that metadata carries -/

namespace Metadata

/-- What holds of all scalars in metadata holds of the values of a key. -/
theorem forall_values {P : Scalar → Prop} {m : Metadata} (hm : ∀ e ∈ m, ∀ s ∈ e.2, P s) (key : String) :
    ∀ s ∈ m.values key, P s := by
  unfold values values?
  cases hlookup : m.lookup key with
  | none => simp
  | some vs =>
    obtain ⟨before, after, rfl, -⟩ := List.lookup_eq_some_iff.1 hlookup
    exact hm (key, vs) (by simp)

/-- Metadata carries a tag if a value of its key agrees with the tag. -/
def Carries (m : Metadata) (t : String × Scalar) : Prop :=
  ∃ s ∈ m.values t.1, (Value.scalar s).agrees (.scalar t.2) = .ok true

/-- Metadata is some other metadata with tags stamped on it: they stand behind the values that were there, and all of
them are carried that agree with themselves. -/
structure IsStamped (m stamped : Metadata) (tags : List (String × Scalar)) : Prop where
  fits : ∀ e ∈ stamped, ∀ s ∈ e.2, s.FitsWord
  keys : m.keys <+: stamped.keys
  values : ∀ key, ∃ more, stamped.values key = m.values key ++ more ∧
    more.Sublist ((tags.filter (·.1 = key)).map (·.2))
  carried : ∀ t ∈ tags, t.2.isNonfinite = false → stamped.Carries t

theorem values_add (m : Metadata) (key : String) (more : List Scalar) (other : String) :
    (m.add key more).values other = m.values other ++ if other = key then more else [] := by
  by_cases h : other = key
  · rw [h, values_add_self, if_pos rfl]
  · rw [values_add_of_ne m more h, if_neg h, List.append_nil]

namespace IsStamped

variable {m m₁ m₂ : Metadata} {t : String × Scalar} {tags more : List (String × Scalar)}

theorem carries (h : IsStamped m m₁ tags) (ht : m.Carries t) : m₁.Carries t := by
  obtain ⟨s, hs, hagrees⟩ := ht
  obtain ⟨added, hvalues, -⟩ := h.values t.1
  exact ⟨s, by rw [hvalues]; exact List.mem_append_left _ hs, hagrees⟩

theorem length_le (h : IsStamped m m₁ tags) (key : String) : (m.values key).length ≤ (m₁.values key).length := by
  obtain ⟨added, hvalues, -⟩ := h.values key
  rw [hvalues, List.length_append]
  omega

/-- Nothing is added for a tag that is carried. -/
theorem of_carries (fits : ∀ e ∈ m, ∀ s ∈ e.2, s.FitsWord) (ht : m.Carries t) : IsStamped m m [t] where
  fits := fits
  keys := List.prefix_rfl
  values key := ⟨[], (List.append_nil _).symm, List.nil_sublist _⟩
  carried u hu _ := by rwa [List.mem_singleton.1 hu]

/-- A tag is added. -/
theorem add (fits : ∀ e ∈ m, ∀ s ∈ e.2, s.FitsWord) (ht : t.2.FitsWord) : IsStamped m (m.add t.1 [t.2]) [t] where
  fits := forall_add fits (by simpa using ht)
  keys := by
    rw [keys_add]
    split
    · exact List.prefix_rfl
    · exact List.prefix_append _ _
  values key := by
    refine ⟨_, values_add m t.1 [t.2] key, ?_⟩
    by_cases hkey : key = t.1
    · simp [hkey]
    · simp [hkey]
  carried u hu finite := by
    rw [List.mem_singleton.1 hu] at finite ⊢
    refine ⟨t.2, by rw [values_add_self]; simp, ?_⟩
    rw [ht.agrees_self, finite]
    rfl

theorem trans (h₁ : IsStamped m m₁ tags) (h₂ : IsStamped m₁ m₂ more) : IsStamped m m₂ (tags ++ more) where
  fits := h₂.fits
  keys := h₁.keys.trans h₂.keys
  values key := by
    obtain ⟨added₁, hvalues₁, hsub₁⟩ := h₁.values key
    obtain ⟨added₂, hvalues₂, hsub₂⟩ := h₂.values key
    refine ⟨added₁ ++ added₂, by rw [hvalues₂, hvalues₁, List.append_assoc], ?_⟩
    rw [List.filter_append, List.map_append]
    exact hsub₁.append hsub₂
  carried t ht finite := by
    rcases List.mem_append.1 ht with ht | ht
    · exact h₂.carries (h₁.carried t ht finite)
    · exact h₂.carried t ht finite

end IsStamped

end Metadata

namespace Tags

open Metadata (inForce IsStamped)

/-- A tag that is carried adds nothing, and one that is not is added behind the values of its key. -/
theorem stampOne_cases {m : Metadata} (fits : ∀ e ∈ m, ∀ s ∈ e.2, s.FitsWord) (t : String × Scalar) :
    m.Carries t ∧ stampOne m t.1 (.scalar t.2) = .ok m ∨
      ¬ m.Carries t ∧ stampOne m t.1 (.scalar t.2) = .ok (m.add t.1 [t.2]) := by
  obtain ⟨found, hfound, hiff⟩ := Scalar.exists_anyAgrees (Metadata.forall_values fits t.1) t.2
  unfold stampOne
  rw [hfound]
  cases found with
  | true => exact .inl ⟨hiff.1 rfl, rfl⟩
  | false => exact .inr ⟨fun h => Bool.false_ne_true (hiff.2 h), rfl⟩

/-- One tag is stamped on metadata. -/
theorem exists_stampedOne {m : Metadata} {t : String × Scalar} (fits : ∀ e ∈ m, ∀ s ∈ e.2, s.FitsWord)
    (ht : t.2.FitsWord) : ∃ stamped, stampOne m t.1 (.scalar t.2) = .ok stamped ∧ IsStamped m stamped [t] := by
  rcases stampOne_cases fits t with ⟨hcarries, hstamp⟩ | ⟨-, hstamp⟩
  · exact ⟨m, hstamp, .of_carries fits hcarries⟩
  · exact ⟨_, hstamp, .add fits ht⟩

/-- **Tags that fit are stamped on metadata that fits.** -/
theorem exists_stamped : ∀ {tags : List (String × Scalar)} {m : Metadata}, (∀ e ∈ m, ∀ s ∈ e.2, s.FitsWord) →
    (∀ t ∈ tags, t.2.FitsWord) → ∃ stamped, stamp m (inForce tags) = .ok stamped ∧ IsStamped m stamped tags
  | [], m, fits, _ => ⟨m, rfl, fits, List.prefix_rfl, fun key => ⟨[], (List.append_nil _).symm, List.nil_sublist _⟩,
      fun _ h => absurd h List.not_mem_nil⟩
  | t :: tags, m, fits, htags => by
    obtain ⟨m₁, hfirst, hstamped₁⟩ := exists_stampedOne fits (htags t (by simp))
    have hothers : ∀ u ∈ tags, u.2.FitsWord := fun u hu => htags u (by simp [hu])
    obtain ⟨m₂, hrest, hstamped₂⟩ := exists_stamped hstamped₁.fits hothers
    exact ⟨m₂, (stamp_inForce_cons tags hfirst).trans hrest, hstamped₁.trans hstamped₂⟩

/-- Tags that are carried add nothing. -/
theorem stamp_of_carries {m : Metadata} (fits : ∀ e ∈ m, ∀ s ∈ e.2, s.FitsWord) :
    ∀ {tags : List (String × Scalar)}, (∀ t ∈ tags, m.Carries t) → stamp m (inForce tags) = .ok m
  | [], _ => rfl
  | t :: tags, h => by
    rcases stampOne_cases fits t with ⟨-, hstamp⟩ | ⟨hnot, -⟩
    · rw [stamp_inForce_cons tags hstamp, stamp_of_carries fits fun u hu => h u (by simp [hu])]
    · exact absurd (h t (by simp)) hnot

/-- An infinity or the number that is none is never carried. -/
theorem not_carries {m : Metadata} {t : String × Scalar} (fits : ∀ e ∈ m, ∀ s ∈ e.2, s.FitsWord)
    (h : t.2.isNonfinite = true) : ¬ m.Carries t := by
  rintro ⟨s, hs, hagrees⟩
  rw [(Metadata.forall_values fits t.1 s hs).agrees_of_isNonfinite h] at hagrees
  cases hagrees

/-- Such a tag is added every time. -/
theorem length_lt_of_stamp {t : String × Scalar} (hnot : t.2.isNonfinite = true) :
    ∀ {tags : List (String × Scalar)} {m stamped : Metadata}, (∀ e ∈ m, ∀ s ∈ e.2, s.FitsWord) →
      (∀ t ∈ tags, t.2.FitsWord) → t ∈ tags → stamp m (inForce tags) = .ok stamped →
      (m.values t.1).length < (stamped.values t.1).length
  | u :: tags, m, stamped, fits, htags, ht, hstamp => by
    obtain ⟨m₁, hfirst, hstamped₁⟩ := exists_stampedOne fits (htags u (by simp))
    have hrest : ∀ v ∈ tags, v.2.FitsWord := fun v hv => htags v (by simp [hv])
    rw [stamp_inForce_cons tags hfirst] at hstamp
    rcases List.mem_cons.1 ht with rfl | ht
    · obtain ⟨m₂, hm₂, hstamped₂⟩ := exists_stamped hstamped₁.fits hrest
      obtain rfl := Except.ok.inj (hm₂.symm.trans hstamp)
      have hadd : m₁ = m.add t.1 [t.2] := by
        rcases stampOne_cases fits t with ⟨hcarries, -⟩ | ⟨-, hadd⟩
        · exact absurd hcarries (not_carries fits hnot)
        · exact Except.ok.inj (hfirst.symm.trans hadd)
      have hle := hstamped₂.length_le t.1
      rw [hadd, Metadata.values_add_self, List.length_append, List.length_singleton] at hle
      omega
    · have hle := hstamped₁.length_le t.1
      have hlt := length_lt_of_stamp hnot hstamped₁.fits hrest ht hstamp
      omega

end Tags

namespace Record

/-- **A record has the values of its keys** that agree with themselves. -/
theorem hasMetadata_of_mem {r : Record} (fits : ∀ e ∈ r.metadata, ∀ s ∈ e.2, s.FitsWord) {key : String} {v : Scalar}
    (hv : v ∈ r.metadata.values key) : r.hasMetadata key (.scalar v) = .ok (!v.isNonfinite) := by
  have hfits := Metadata.forall_values fits key
  obtain ⟨found, hfound, hiff⟩ := Scalar.exists_anyAgrees hfits v
  have hfound' : found = !v.isNonfinite := by
    cases hnot : v.isNonfinite with
    | false => exact hiff.2 ⟨v, hv, by rw [(hfits v hv).agrees_self, hnot]; rfl⟩
    | true =>
      refine Bool.eq_false_iff.2 fun h => ?_
      obtain ⟨s, hs, hagrees⟩ := hiff.1 h
      rw [(hfits s hs).agrees_of_isNonfinite hnot] at hagrees
      cases hagrees
  rw [← hfound', ← hfound]
  rfl

end Record

open Metadata (inForce IsStamped)

/-- **Stamping a second time changes nothing exactly if every tag agrees with itself.** A scalar agrees with itself,
and a record has it if it is among the values of a key, unless it is an infinity or the number that is none. Tags that
fit can be stamped on metadata that fits: they come behind the values that are there, and the same tags change nothing
after that unless one of them is an exception. -/
theorem stamped_again_iff (m : Metadata) (tags : List (String × Scalar)) (fits : ∀ e ∈ m, ∀ s ∈ e.2, s.FitsWord)
    (htags : ∀ t ∈ tags, t.2.FitsWord) :
    (∀ s : Scalar, s.FitsWord → (Value.scalar s).agrees (.scalar s) = .ok (!s.isNonfinite)) ∧
    (∀ r : Record, r.metadata = m → ∀ key, ∀ v ∈ m.values key, r.hasMetadata key (.scalar v) = .ok (!v.isNonfinite)) ∧
    ∃ stamped, Tags.stamp m (inForce tags) = .ok stamped ∧ IsStamped m stamped tags ∧
      (Tags.stamp stamped (inForce tags) = .ok stamped ↔ ∀ t ∈ tags, t.2.isNonfinite = false) := by
  refine ⟨fun s => Scalar.FitsWord.agrees_self, ?_, ?_⟩
  · rintro r rfl key v
    exact Record.hasMetadata_of_mem fits
  · obtain ⟨stamped, hstamp, hstamped⟩ := Tags.exists_stamped fits htags
    refine ⟨stamped, hstamp, hstamped, fun hagain t ht => ?_, fun hfinite => ?_⟩
    · cases hnot : t.2.isNonfinite with
      | false => rfl
      | true => exact absurd (Tags.length_lt_of_stamp hnot hstamped.fits htags ht hagain) (Nat.lt_irrefl _)
    · exact Tags.stamp_of_carries hstamped.fits fun t ht => hstamped.carried t ht (hfinite t ht)

/-- A tag that is there within the tolerance, and one that adds a value to a key and is there then. -/
theorem stamped_again_iff_near : ∃ stamped,
    Tags.stamp [("n", [.int 10]), ("k", [])] (inForce [("n", .float (.ofInt 10)), ("k", .text "x")]) = .ok stamped ∧
      Tags.stamp stamped (inForce [("n", .float (.ofInt 10)), ("k", .text "x")]) = .ok stamped := by
  obtain ⟨-, -, stamped, hstamp, -, hagain⟩ := stamped_again_iff [("n", [.int 10]), ("k", [])]
    [("n", .float (.ofInt 10)), ("k", .text "x")] (by simp [Scalar.FitsWord]) (by simp [Scalar.FitsWord])
  refine ⟨stamped, hstamp, hagain.2 fun t ht => ?_⟩
  rw [List.mem_cons, List.mem_singleton] at ht
  rcases ht with rfl | rfl
  · decide +kernel
  · rfl

/-- An infinity does not agree with itself, and is added each time. -/
theorem not_agrees_self_infinity :
    (Value.float (.infinite false)).agrees (.float (.infinite false)) = .ok false ∧
      Tags.stamp [("n", [.float (.infinite false)])] (inForce [("n", .float (.infinite false))])
        = .ok [("n", [.float (.infinite false), .float (.infinite false)])] := by
  constructor
  · exact eq_ok_of_toOption (by decide +kernel)
  · exact eq_ok_of_toOption (by decide +kernel)

end LogAssay
