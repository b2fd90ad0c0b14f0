import LogAssay.Proofs.Metadata.Decoding
import LogAssay.Proofs.Session.Installing
import Mathlib.Data.List.Induction

/-!
# What requests for levels come to

Requests for channels come to levels (`Levels.Merges`): the channels in the order of their first requests, each at the
lowest severity that was requested for it. One more request keeps this, and so do all requests one after the other.

## Main statements

* `Merges.requestAll`: requests on top of levels come to what all the requests together come to.
* `Merges.unique`: requests come to no other levels.
* `Merges.find?_congr`: neither the order of the requests nor their repetition changes the level of a channel.
-/

namespace LogAssay

namespace Severity

theorem min_choice (a b : Severity) : min a b = a ∨ min a b = b := by
  by_cases h : a ≤ b
  · exact .inl (if_pos h)
  · exact .inr (if_neg h)

theorem min_le (a b : Severity) : min a b ≤ a ∧ min a b ≤ b := by
  by_cases h : a ≤ b
  · rw [show min a b = a from if_pos h]
    exact ⟨Nat.le_refl _, h⟩
  · rw [show min a b = b from if_neg h]
    exact ⟨Nat.le_of_not_le h, Nat.le_refl _⟩

end Severity

namespace Levels

variable {requests levels : Levels} {channel : String} {severity : Severity}

/-! ## The lowest severity requested -/

/-- A severity is requested for a channel, and no lower one is. -/
def Lowest (requests : Levels) (channel : String) (severity : Severity) : Prop :=
  (channel, severity) ∈ requests ∧ ∀ other, (channel, other) ∈ requests → severity ≤ other

theorem Lowest.unique {severity' : Severity} (h : Lowest requests channel severity)
    (h' : Lowest requests channel severity') : severity = severity' :=
  Severity.le_antisymm (h.2 severity' h'.1) (h'.2 severity h.1)

theorem mem_concat_iff {c : String} {s : Severity} :
    (channel, severity) ∈ requests ++ [(c, s)] ↔ (channel, severity) ∈ requests ∨ channel = c ∧ severity = s := by
  rw [List.mem_append, List.mem_singleton, Prod.mk.injEq]

/-- A request leaves what is requested for the other channels alone. -/
theorem Lowest.concat_of_ne (h : Lowest requests channel severity) {c : String} (hne : c ≠ channel) (s : Severity) :
    Lowest (requests ++ [(c, s)]) channel severity := by
  refine ⟨mem_concat_iff.2 (.inl h.1), fun other hother => ?_⟩
  rcases mem_concat_iff.1 hother with hmem | ⟨hc, -⟩
  · exact h.2 other hmem
  · exact absurd hc.symm hne

theorem lowest_concat_of_new (hnew : ∀ other, (channel, other) ∉ requests) (severity : Severity) :
    Lowest (requests ++ [(channel, severity)]) channel severity := by
  refine ⟨mem_concat_iff.2 (.inr ⟨rfl, rfl⟩), fun other hother => ?_⟩
  rcases mem_concat_iff.1 hother with hmem | ⟨-, rfl⟩
  · exact absurd hmem (hnew other)
  · exact Nat.le_refl _

theorem Lowest.concat (h : Lowest requests channel severity) (s : Severity) :
    Lowest (requests ++ [(channel, s)]) channel (min severity s) := by
  have hbelow : ∀ other, (channel, other) ∈ requests ++ [(channel, s)] → min severity s ≤ other := by
    intro other hother
    obtain ⟨hleft, hright⟩ := Severity.min_le severity s
    rcases mem_concat_iff.1 hother with hmem | ⟨-, rfl⟩
    · exact Nat.le_trans hleft (h.2 other hmem)
    · exact hright
  refine ⟨mem_concat_iff.2 ?_, hbelow⟩
  rcases Severity.min_choice severity s with hmin | hmin
  · exact .inl (by rw [hmin]; exact h.1)
  · exact .inr ⟨rfl, hmin⟩

/-! ## Looking levels up -/

theorem find?_eq_none_iff : levels.find? channel = none ↔ channel ∉ levels.map (·.1) := by
  rw [find?, List.lookup_eq_none_iff, List.mem_map]
  constructor
  · rintro h ⟨e, he, rfl⟩
    simpa using h e he
  · intro h e he
    exact bne_iff_ne.2 fun heq => h ⟨e, he, heq.symm⟩

theorem find?_cons (c : String) (s : Severity) (others : Levels) (channel : String) :
    find? ((c, s) :: others) channel = if c = channel then some s else others.find? channel := by
  rw [find?, List.lookup_cons]
  by_cases h : c = channel
  · rw [if_pos h, beq_iff_eq.2 h.symm]
  · rw [if_neg h, beq_false_of_ne (Ne.symm h)]
    rfl

/-- A request takes the level of its channel down to the requested one, if it is not lower, and leaves all other
channels alone. -/
theorem find?_request (levels : Levels) (c : String) (s : Severity) (channel : String) :
    (levels.request c s).find? channel
      = if c = channel then some (((levels.find? c).map (min · s)).getD s) else levels.find? channel := by
  induction levels with
  | nil => exact find?_cons c s [] channel
  | cons e others ih =>
    obtain ⟨d, t⟩ := e
    by_cases hd : d = c
    · subst hd
      rw [request, if_pos rfl]
      simp only [find?_cons, if_true]
      by_cases hchannel : d = channel
      · rw [if_pos hchannel, if_pos hchannel]
        rfl
      · rw [if_neg hchannel, if_neg hchannel, if_neg hchannel]
    · rw [request, if_neg hd]
      simp only [find?_cons, ih, if_neg hd]
      by_cases hc : c = channel
      · subst hc
        rw [if_neg hd, if_pos rfl, if_pos rfl]
      · rw [if_neg hc, if_neg hc]

/-- The level of a channel in levels with distinct channels is the only one. -/
theorem lowest_of_find? : ∀ {levels : Levels}, (levels.map (·.1)).Nodup → levels.find? channel = some severity →
    Lowest levels channel severity
  | (c, s) :: others, distinct, hfind => by
    obtain ⟨hnew, hothers⟩ := List.nodup_cons.1 distinct
    rw [find?_cons] at hfind
    split at hfind
    · next hc =>
      obtain rfl : s = severity := Option.some.inj hfind
      subst hc
      refine ⟨List.mem_cons_self, fun other hother => ?_⟩
      rcases List.mem_cons.1 hother with heq | hmem
      · obtain rfl : other = s := congrArg Prod.snd heq
        exact Nat.le_refl _
      · exact absurd (List.mem_map_of_mem hmem) hnew
    · next hc =>
      obtain ⟨hmem, hleast⟩ := lowest_of_find? hothers hfind
      refine ⟨List.mem_cons_of_mem _ hmem, fun other hother => hleast other ?_⟩
      exact (List.mem_cons.1 hother).resolve_left fun heq => hc (congrArg Prod.fst heq).symm

/-- Levels of the same distinct channels in the same order are equal if they agree at each channel. -/
theorem eq_of_find?_eq : ∀ {levels levels' : Levels}, levels.map (·.1) = levels'.map (·.1) →
    (levels.map (·.1)).Nodup → (∀ channel, levels.find? channel = levels'.find? channel) → levels = levels'
  | [], [], _, _, _ => rfl
  | (c, s) :: others, (c', s') :: others', channels, distinct, agree => by
    obtain ⟨rfl, hchannels⟩ : c = c' ∧ others.map (·.1) = others'.map (·.1) := by simpa using channels
    obtain ⟨hnew, hothers⟩ := List.nodup_cons.1 distinct
    have hhead := agree c
    rw [find?_cons, find?_cons, if_pos rfl, if_pos rfl, Option.some.injEq] at hhead
    rw [hhead, eq_of_find?_eq hchannels hothers fun channel => ?_]
    by_cases hc : c = channel
    · subst hc
      rw [find?_eq_none_iff.2 hnew, find?_eq_none_iff.2 (hchannels ▸ hnew)]
    · have := agree channel
      rwa [find?_cons, find?_cons, if_neg hc, if_neg hc] at this

/-! ## What requests come to -/

/-- The levels that requests come to: the channels in the order of their first requests, each at the lowest severity
requested for it. -/
structure Merges (requests levels : Levels) : Prop where
  channels : levels.map (·.1) = (requests.map (·.1)).eraseDups
  lowest : ∀ channel severity, levels.find? channel = some severity → Lowest requests channel severity

theorem merges_nil : Merges [] [] := ⟨rfl, nofun⟩

theorem nodup_eraseDups (names : List String) : names.eraseDups.Nodup := by
  induction names using List.reverseRecOn with
  | nil => exact List.nodup_nil
  | append_singleton names name ih =>
    rw [Metadata.eraseDups_concat]
    split
    · exact ih
    · next hnew =>
      rw [← List.concat_eq_append]
      exact List.Nodup.concat hnew ih

theorem eraseDups_of_nodup {names : List String} (distinct : names.Nodup) : names.eraseDups = names := by
  induction names using List.reverseRecOn with
  | nil => rfl
  | append_singleton names name ih =>
    obtain ⟨hnames, -, hnew⟩ := List.nodup_append.1 distinct
    have hfresh : name ∉ names.eraseDups := fun h =>
      hnew name (List.mem_eraseDups.1 h) name List.mem_cons_self rfl
    rw [Metadata.eraseDups_concat, if_neg hfresh, ih hnames]

namespace Merges

variable {requests' levels' : Levels}

theorem nodup (h : Merges requests levels) : (levels.map (·.1)).Nodup := by
  rw [h.channels]
  exact nodup_eraseDups _

/-- The channels are the requested ones. -/
theorem mem_channels_iff (h : Merges requests levels) (channel : String) :
    channel ∈ levels.map (·.1) ↔ ∃ severity, (channel, severity) ∈ requests := by
  rw [h.channels, List.mem_eraseDups, List.mem_map]
  constructor
  · rintro ⟨⟨c, s⟩, hmem, rfl⟩
    exact ⟨s, hmem⟩
  · rintro ⟨s, hmem⟩
    exact ⟨_, hmem, rfl⟩

theorem not_requested (h : Merges requests levels) (hfind : levels.find? channel = none) (other : Severity) :
    (channel, other) ∉ requests :=
  fun hmem => find?_eq_none_iff.1 hfind ((h.mem_channels_iff channel).2 ⟨other, hmem⟩)

/-- The level of a channel is the lowest severity requested for it, and there is one for every requested channel. -/
theorem find?_eq_some_iff (h : Merges requests levels) :
    levels.find? channel = some severity ↔ Lowest requests channel severity := by
  refine ⟨h.lowest channel severity, fun hlowest => ?_⟩
  cases hfind : levels.find? channel with
  | none => exact absurd hlowest.1 (h.not_requested hfind severity)
  | some found => rw [(h.lowest channel found hfind).unique hlowest]

/-- **Neither the order of the requests nor their repetition changes the level of a channel.** -/
theorem find?_congr (h : Merges requests levels) (h' : Merges requests' levels')
    (same : ∀ e, e ∈ requests' ↔ e ∈ requests) (channel : String) :
    levels'.find? channel = levels.find? channel := by
  refine Option.ext fun severity => ?_
  rw [h.find?_eq_some_iff, h'.find?_eq_some_iff]
  simp only [Lowest, same]

/-- **Requests come to no other levels.** -/
theorem unique (h : Merges requests levels) (h' : Merges requests levels') : levels = levels' :=
  eq_of_find?_eq (h.channels.trans h'.channels.symm) h.nodup fun channel =>
    h'.find?_congr h (fun _ => Iff.rfl) channel

/-- Levels with distinct channels, taken as requests, come to themselves. -/
theorem refl (distinct : (levels.map (·.1)).Nodup) : Merges levels levels where
  channels := (eraseDups_of_nodup distinct).symm
  lowest _ _ hfind := lowest_of_find? distinct hfind

/-- One more request. -/
theorem request (h : Merges requests levels) (c : String) (s : Severity) :
    Merges (requests ++ [(c, s)]) (levels.request c s) where
  channels := by
    rw [channels_request, List.map_append, List.map_cons, List.map_nil, Metadata.eraseDups_concat, ← h.channels]
  lowest channel severity hfind := by
    rw [find?_request] at hfind
    split at hfind
    · next hc =>
      subst hc
      cases hold : levels.find? c with
      | none =>
        obtain rfl : s = severity := by simpa [hold] using hfind
        exact lowest_concat_of_new (h.not_requested hold) s
      | some t =>
        obtain rfl : min t s = severity := by simpa [hold] using hfind
        exact (h.lowest c t hold).concat s
    · next hc => exact (h.lowest channel severity hfind).concat_of_ne hc s

/-- **Requests on top of levels come to what all the requests together come to.** -/
theorem requestAll (h : Merges requests levels) (more : Levels) :
    Merges (requests ++ more) (levels.requestAll more) := by
  induction more generalizing requests levels with
  | nil => rwa [List.append_nil]
  | cons e more ih =>
    rw [List.append_cons]
    exact ih (h.request e.1 e.2)

end Merges

end Levels

end LogAssay
