import LogAssay.Proofs.TestId.Claiming
import Mathlib.Algebra.Group.Nat.Defs

/-!
# Runs of claims and releases

Ids are claimed and released in any order. A claim draws again as long as the id that it drew is held, so whether it
ends depends on the draws: `Meets` says that every claim of a run meets a draw whose id is not held. What is drawn
after the last claim does not matter (`run_feed`), so a run on a stream of draws is the run on any long enough
beginning of it.

## Main statements

* `length_ofDraw`, `isCapitalHexDigit_of_mem_ofDraw`: ids are numerals of four capital hexadecimal digits.
* `Sound.run`: every run keeps the ids that are held distinct and within the limit of the pool.
* `claims_and_releases`: what every claim and every release of a run does.
-/

namespace LogAssay

namespace Text

/-! ## Four digits -/

def IsCapitalHexDigit (c : Char) : Prop := c ∈ "0123456789ABCDEF".toList

theorem isCapitalHexDigit_hexDigit {n : Nat} (h : n < 16) : IsCapitalHexDigit (hexDigit 'A' n) :=
  (by unfold IsCapitalHexDigit; decide : ∀ n : Fin 16, IsCapitalHexDigit (hexDigit 'A' n)) ⟨n, h⟩

theorem isCapitalHexDigit_of_mem_hexNumeral {c : Char} (n : Nat) (hc : c ∈ hexNumeral 'A' n) :
    IsCapitalHexDigit c := by
  induction n using Nat.strongRecOn with
  | ind n ih =>
    rw [hexNumeral] at hc
    split at hc
    · next hn =>
      rw [List.mem_singleton.1 hc]
      exact isCapitalHexDigit_hexDigit hn
    · rcases List.mem_append.1 hc with hc | hc
      · exact ih (n / 16) (by omega) hc
      · rw [List.mem_singleton.1 hc]
        exact isCapitalHexDigit_hexDigit (Nat.mod_lt n (by decide))

/-- A number below a power of sixteen has no more digits than the power says. -/
theorem length_hexNumeral_le (ten : Char) : ∀ (width : Nat) {n : Nat}, n < 16 ^ (width + 1) →
    (hexNumeral ten n).length ≤ width + 1
  | 0, n, h => by
    rw [hexNumeral, if_pos (by omega)]
    exact Nat.le_refl 1
  | width + 1, n, h => by
    rw [hexNumeral]
    split
    · simp
    · have hrest := length_hexNumeral_le ten width (n := n / 16) (by rw [Nat.pow_succ] at h; omega)
      rw [List.length_append, List.length_singleton]
      omega

theorem length_padded {width : Nat} {numeral : List Char} (h : numeral.length ≤ width) :
    (padded width numeral).length = width := by
  rw [padded, List.length_append, List.length_replicate]
  omega

end Text

namespace TestId

theorem length_ofDraw {draw : Nat} (h : draw < 0x10000) : (ofDraw draw).length = 4 := by
  rw [ofDraw, String.length_ofList]
  exact Text.length_padded (Text.length_hexNumeral_le 'A' 3 h)

theorem isCapitalHexDigit_of_mem_ofDraw {draw : Nat} {c : Char} (hc : c ∈ (ofDraw draw).toList) :
    Text.IsCapitalHexDigit c := by
  rw [ofDraw, String.toList_ofList, Text.upperHex, Text.padded, List.mem_append] at hc
  rcases hc with hc | hc
  · rw [(List.mem_replicate.1 hc).2]
    exact Text.isCapitalHexDigit_hexDigit (n := 0) (by decide)
  · exact Text.isCapitalHexDigit_of_mem_hexNumeral draw hc

/-! ## Drawing -/

theorem exists_takeFree?_eq {held : List String} {draws : List Nat} {draw : Nat} (hmem : draw ∈ draws)
    (hfree : ofDraw draw ∉ held) : ∃ taken, takeFree? held draws = some taken := by
  induction draws with
  | nil => exact absurd hmem List.not_mem_nil
  | cons d draws ih =>
    rw [takeFree?]
    split
    · next hd =>
      refine ih ((List.mem_cons.1 hmem).resolve_left ?_)
      rintro rfl
      exact hfree (by simpa using hd)
    · exact ⟨_, rfl⟩

/-- What is drawn later does not matter. -/
theorem takeFree?_append {held : List String} {draws others : List Nat} {id : String}
    (h : takeFree? held draws = some (id, others)) (more : List Nat) :
    takeFree? held (draws ++ more) = some (id, others ++ more) := by
  induction draws with
  | nil => cases h
  | cons d draws ih =>
    rw [List.cons_append, takeFree?]
    rw [takeFree?] at h
    split
    · next hd =>
      rw [if_pos hd] at h
      exact ih h
    · next hd =>
      rw [if_neg hd] at h
      cases h
      rfl

namespace Pool

/-! ## Runs -/

/-- What is asked of a pool. -/
inductive Call where
  | claim
  | release (id : String)

def after (p : Pool) : Call → Pool
  | .claim => p.claim.2.1
  | .release id => p.release id

/-- The ids that a call gives. -/
def given (p : Pool) : Call → List String
  | .claim => [p.claim.1]
  | .release _ => []

def reported (p : Pool) : Call → List Diagnostic
  | .claim => p.claim.2.2
  | .release _ => []

/-- The pool after calls. -/
def run (p : Pool) (calls : List Call) : Pool := calls.foldl after p

/-- The ids that calls give, in order. -/
def ids : Pool → List Call → List String
  | _, [] => []
  | p, call :: calls => p.given call ++ ids (p.after call) calls

/-- What is reported during calls. -/
def reports : Pool → List Call → List Diagnostic
  | _, [] => []
  | p, call :: calls => p.reported call ++ reports (p.after call) calls

/-- A claim meets a draw whose id is not held, if there is room for one. -/
def Serves (p : Pool) : Call → Prop
  | .claim => p.held.length < p.limit → ∃ draw ∈ p.draws.scripted, ofDraw draw ∉ p.held
  | .release _ => True

/-- Every claim of a run meets a draw whose id is not held. -/
def Meets : Pool → List Call → Prop
  | _, [] => True
  | p, call :: calls => p.Serves call ∧ Meets (p.after call) calls

instance (p : Pool) : ∀ call, Decidable (p.Serves call)
  | .claim => inferInstanceAs (Decidable (_ → _))
  | .release _ => inferInstanceAs (Decidable True)

instance decidableMeets : ∀ (p : Pool) (calls : List Call), Decidable (p.Meets calls)
  | _, [] => inferInstanceAs (Decidable True)
  | p, call :: calls =>
    have := decidableMeets (p.after call) calls
    inferInstanceAs (Decidable (_ ∧ _))

/-- The new pool with the first draws of a stream. -/
def fed (stream : Nat → Nat) (n : Nat) : Pool := { draws := { scripted := (List.range n).map stream } }

variable {p : Pool}

/-! ## One claim -/

/-- **All that a claim can do**: from a pool with room, it takes the id of the first draw that is not held; a full
pool gives the empty id. -/
theorem claim_cases (h : p.Serves .claim) :
    (p.held.length < p.limit ∧ ∃ vain draw others, p.draws.scripted = vain ++ draw :: others ∧
      (∀ d ∈ vain, ofDraw d ∈ p.held) ∧ ofDraw draw ∉ p.held ∧
      p.claim = (ofDraw draw,
        { p with held := p.held ++ [ofDraw draw], draws := { p.draws with scripted := others } }, [])) ∨
    (p.limit ≤ p.held.length ∧ p.claim = ("", { p with exhaustionReported := true },
      if p.exhaustionReported then [] else [.testIdsExhausted])) := by
  by_cases hroom : p.held.length < p.limit
  · obtain ⟨free, hmem, hfree⟩ := h hroom
    obtain ⟨⟨id, others⟩, htaken⟩ := exists_takeFree?_eq hmem hfree
    obtain ⟨vain, draw, hdraws, hvain, rfl, hid⟩ := takeFree?_eq_some htaken
    refine .inl ⟨hroom, vain, draw, others, hdraws, hvain, hid, ?_⟩
    rw [claim, if_pos hroom, Draws.take, htaken]
  · refine .inr ⟨Nat.le_of_not_lt hroom, ?_⟩
    rw [claim, if_neg hroom]

/-! ## What is drawn later -/

/-- The pool with more draws to come. -/
def feed (p : Pool) (more : List Nat) : Pool :=
  { p with draws := { p.draws with scripted := p.draws.scripted ++ more } }

theorem Serves.feed {call : Call} (h : p.Serves call) (more : List Nat) : (p.feed more).Serves call := by
  cases call with
  | claim =>
    intro hroom
    obtain ⟨draw, hmem, hfree⟩ := h hroom
    exact ⟨draw, List.mem_append_left _ hmem, hfree⟩
  | release id => trivial

theorem claim_feed (h : p.Serves .claim) (more : List Nat) :
    (p.feed more).claim = (p.claim.1, p.claim.2.1.feed more, p.claim.2.2) := by
  by_cases hroom : p.held.length < p.limit
  · obtain ⟨free, hmem, hfree⟩ := h hroom
    obtain ⟨⟨id, others⟩, htaken⟩ := exists_takeFree?_eq hmem hfree
    have htaken' : takeFree? (p.feed more).held (p.feed more).draws.scripted = some (id, others ++ more) :=
      takeFree?_append htaken more
    have hroom' : (p.feed more).held.length < (p.feed more).limit := hroom
    rw [claim, claim, if_pos hroom, if_pos hroom', Draws.take, Draws.take, htaken, htaken']
    rfl
  · have hfull : ¬(p.feed more).held.length < (p.feed more).limit := hroom
    rw [claim, claim, if_neg hroom, if_neg hfull]
    rfl

theorem after_feed {call : Call} (h : p.Serves call) (more : List Nat) :
    (p.feed more).after call = (p.after call).feed more ∧ (p.feed more).given call = p.given call := by
  cases call with
  | claim =>
    rw [after, after, given, given, claim_feed h]
    exact ⟨rfl, rfl⟩
  | release id =>
    refine ⟨?_, rfl⟩
    show (p.feed more).release id = (p.release id).feed more
    rw [release, release]
    split
    · rfl
    · rfl

/-- **What is drawn after the last claim of a run does not matter.** -/
theorem run_feed (more : List Nat) : ∀ {p : Pool} {calls : List Call}, p.Meets calls →
    (p.feed more).Meets calls ∧ (p.feed more).ids calls = p.ids calls
  | _, [], _ => ⟨trivial, rfl⟩
  | p, call :: calls, h => by
    obtain ⟨hafter, hgiven⟩ := after_feed h.1 more
    obtain ⟨hmeets, hids⟩ := run_feed more h.2
    rw [← hafter] at hmeets hids
    refine ⟨⟨h.1.feed more, hmeets⟩, ?_⟩
    rw [ids, ids, hgiven, hids]

theorem fed_of_le (stream : Nat → Nat) {n m : Nat} (h : n ≤ m) : ∃ more, fed stream m = (fed stream n).feed more := by
  obtain ⟨k, rfl⟩ := Nat.exists_eq_add_of_le h
  refine ⟨((List.range k).map (n + ·)).map stream, ?_⟩
  rw [fed, List.range_add, List.map_append]
  rfl

/-! ## What every run keeps -/

/-- The ids that are held are distinct ids of draws, and there are no more of them than the limit says. -/
structure Sound (p : Pool) : Prop where
  unique : p.held.Nodup
  length_le : p.held.length ≤ p.limit
  drawn : ∀ id ∈ p.held, ∃ draw < 0x10000, id = ofDraw draw
  below : ∀ draw ∈ p.draws.scripted, draw < 0x10000

theorem Sound.ne_empty (h : p.Sound) {id : String} (hid : id ∈ p.held) : id ≠ "" := by
  obtain ⟨draw, -, rfl⟩ := h.drawn id hid
  exact ofDraw_ne_empty draw

theorem Sound.claim (h : p.Sound) (serves : p.Serves .claim) : p.claim.2.1.Sound := by
  rcases claim_cases serves with ⟨hroom, vain, draw, others, hdraws, -, hfree, hclaim⟩ | ⟨-, hclaim⟩
  · rw [hclaim]
    have hbelow : ∀ d ∈ draw :: others, d < 0x10000 := by
      intro d hd
      exact h.below d (hdraws ▸ List.mem_append_right _ hd)
    refine ⟨List.nodup_append.2 ⟨h.unique, List.nodup_singleton _, ?_⟩, ?_, ?_,
      fun d hd => hbelow d (List.mem_cons_of_mem _ hd)⟩
    · rintro a ha b hb rfl
      exact hfree (List.mem_singleton.1 hb ▸ ha)
    · show (p.held ++ [ofDraw draw]).length ≤ p.limit
      rw [List.length_append]
      exact hroom
    · intro id hid
      rcases List.mem_append.1 hid with hid | hid
      · exact h.drawn id hid
      · exact ⟨draw, hbelow draw (by simp), List.mem_singleton.1 hid⟩
  · rw [hclaim]
    exact ⟨h.unique, h.length_le, h.drawn, h.below⟩

theorem mem_held_release (h : p.Sound) (id other : String) :
    other ∈ (p.release id).held ↔ other ∈ p.held ∧ other ≠ id := by
  rw [release]
  split
  · next hid =>
    rw [hid]
    exact ⟨fun hother => ⟨hother, h.ne_empty hother⟩, And.left⟩
  · rw [List.mem_filter, decide_eq_true_eq]

theorem Sound.release (h : p.Sound) (id : String) : (p.release id).Sound := by
  rw [Pool.release]
  split
  · exact h
  · refine ⟨h.unique.filter _, ?_, fun other hother => h.drawn other (List.mem_filter.1 hother).1, h.below⟩
    exact Nat.le_trans (List.length_filter_le _ _) h.length_le

theorem limit_after (p : Pool) (call : Call) : (p.after call).limit = p.limit := by
  cases call with
  | claim =>
    show p.claim.2.1.limit = p.limit
    rw [Pool.claim]
    split
    · rfl
    · rfl
  | release id =>
    show (p.release id).limit = p.limit
    rw [Pool.release]
    split
    · rfl
    · rfl

theorem Sound.after (h : p.Sound) {call : Call} (serves : p.Serves call) : (p.after call).Sound := by
  cases call with
  | claim => exact h.claim serves
  | release id => exact h.release id

/-- **Every run keeps the ids that are held distinct and within the limit.** -/
theorem Sound.run : ∀ {p : Pool} {before rest : List Call}, p.Sound → p.Meets (before ++ rest) →
    (p.run before).Sound ∧ (p.run before).Meets rest ∧ (p.run before).limit = p.limit
  | _, [], _, h, hmeets => ⟨h, hmeets, rfl⟩
  | p, call :: before, rest, h, hmeets => by
    obtain ⟨hsound, hrest, hlimit⟩ := Sound.run (h.after hmeets.1) hmeets.2
    exact ⟨hsound, hrest, hlimit.trans (p.limit_after call)⟩

theorem sound_fed {stream : Nat → Nat} (below : ∀ i, stream i < 0x10000) (n : Nat) : (fed stream n).Sound where
  unique := List.nodup_nil
  length_le := Nat.zero_le _
  drawn id hid := absurd hid List.not_mem_nil
  below draw hdraw := by
    obtain ⟨i, -, rfl⟩ := List.mem_map.1 hdraw
    exact below i

/-! ## Exhaustion -/

/-- Once the empty id has been given, exhaustion has been reported. -/
theorem exhaustionReported_after {call : Call} (serves : p.Serves call) :
    (p.after call).exhaustionReported = (p.exhaustionReported || decide ("" ∈ p.given call)) := by
  cases call with
  | claim =>
    show p.claim.2.1.exhaustionReported = (p.exhaustionReported || decide ("" ∈ [p.claim.1]))
    rcases claim_cases serves with ⟨-, vain, draw, others, -, -, -, hclaim⟩ | ⟨-, hclaim⟩
    · rw [hclaim]
      simp [(ofDraw_ne_empty draw).symm]
    · rw [hclaim]
      simp
  | release id =>
    show (p.release id).exhaustionReported = _
    rw [Pool.release, given]
    split
    · simp
    · simp

theorem exhaustionReported_run : ∀ {p : Pool} {before rest : List Call}, p.Meets (before ++ rest) →
    (p.run before).exhaustionReported = (p.exhaustionReported || decide ("" ∈ p.ids before))
  | p, [], _, _ => by simp [run, ids]
  | p, call :: before, rest, h => by
    refine (exhaustionReported_run h.2).trans ?_
    rw [exhaustionReported_after h.1, ids, Bool.or_assoc]
    simp

/-- **Exhaustion is reported at most once in a run**: if the empty id is given in it, and was not before. -/
theorem reports_eq : ∀ {p : Pool} {calls : List Call}, p.Meets calls →
    p.reports calls = if p.exhaustionReported then [] else if "" ∈ p.ids calls then [.testIdsExhausted] else []
  | p, [], _ => by simp [reports, ids]
  | p, .release id :: calls, h => by
    have hflag : (p.after (.release id)).exhaustionReported = p.exhaustionReported := by
      rw [exhaustionReported_after h.1, given]
      simp
    rw [reports, reports_eq h.2, hflag]
    rfl
  | p, .claim :: calls, h => by
    rw [reports, reports_eq h.2, exhaustionReported_after h.1, ids]
    rcases claim_cases h.1 with ⟨-, vain, draw, others, -, -, -, hclaim⟩ | ⟨-, hclaim⟩
    · simp [reported, given, hclaim, (ofDraw_ne_empty draw).symm]
    · simp [reported, given, hclaim]

/-! ## Every call of a run -/

/-- What a claim gives and leaves, after some ids have been given. -/
structure Claims (p : Pool) (earlier : List String) : Prop where
  /-- The claim draws in vain until it meets the id that it takes. -/
  ends : p.claim.1 ≠ "" → ∃ vain draw others, p.draws.scripted = vain ++ draw :: others ∧
    (∀ d ∈ vain, ofDraw d ∈ p.held) ∧ p.claim.1 = ofDraw draw ∧ p.claim.2.1.draws.scripted = others
  digits : p.claim.1 ≠ "" → p.claim.1.length = 4 ∧ ∀ c ∈ p.claim.1.toList, Text.IsCapitalHexDigit c
  fresh : p.claim.1 ≠ "" → p.claim.1 ∉ p.held ∧ p.claim.2.1.held = p.held ++ [p.claim.1]
  empty_iff : p.claim.1 = "" ↔ p.held.length = p.limit
  unchanged : p.claim.1 = "" → p.claim.2.1.held = p.held ∧ p.claim.2.1.draws = p.draws
  reports : p.claim.2.2 = if p.claim.1 = "" ∧ "" ∉ earlier then [.testIdsExhausted] else []

/-- What releasing an id leaves. An id that was held can be claimed again, for it can be drawn again. -/
structure Releases (p : Pool) (id : String) : Prop where
  held : ∀ other, other ∈ (p.release id).held ↔ other ∈ p.held ∧ other ≠ id
  again : id ∈ p.held → ∃ draw < 0x10000, ∀ others,
    (Pool.claim { p.release id with draws := { scripted := draw :: others } }).1 = id

/-- A claim takes a new id, unless the pool is full. -/
theorem Sound.claims (h : p.Sound) (serves : p.Serves .claim) {earlier : List String}
    (hflag : p.exhaustionReported = decide ("" ∈ earlier)) : p.Claims earlier := by
  rcases claim_cases serves with ⟨hroom, vain, draw, others, hdraws, hvain, hfree, hclaim⟩ | ⟨hfull, hclaim⟩
  · have hne : p.claim.1 ≠ "" := by
      rw [hclaim]
      exact ofDraw_ne_empty draw
    have hid : p.claim.1 = ofDraw draw := by rw [hclaim]
    have hbelow : draw < 0x10000 := h.below draw (hdraws ▸ List.mem_append_right _ List.mem_cons_self)
    refine ⟨fun _ => ⟨vain, draw, others, hdraws, hvain, hid, by rw [hclaim]⟩, fun _ => ?_, fun _ => ?_,
      ⟨fun hempty => absurd hempty hne, fun hlength => by omega⟩, fun hempty => absurd hempty hne, ?_⟩
    · rw [hid]
      exact ⟨length_ofDraw hbelow, fun c hc => isCapitalHexDigit_of_mem_ofDraw hc⟩
    · rw [hclaim]
      exact ⟨hfree, rfl⟩
    · rw [if_neg fun hempty => hne hempty.1, hclaim]
  · have hempty : p.claim.1 = "" := by rw [hclaim]
    refine ⟨fun hne => absurd hempty hne, fun hne => absurd hempty hne, fun hne => absurd hempty hne,
      ⟨fun _ => Nat.le_antisymm h.length_le hfull, fun _ => hempty⟩, fun _ => by rw [hclaim]; exact ⟨rfl, rfl⟩, ?_⟩
    rw [hclaim, hflag]
    by_cases hearlier : "" ∈ earlier
    · simp [hearlier]
    · simp [hearlier]

/-- What is released can be claimed again. -/
theorem Sound.releases (h : p.Sound) (id : String) : p.Releases id where
  held := mem_held_release h id
  again hid := by
    obtain ⟨draw, hbelow, rfl⟩ := h.drawn id hid
    refine ⟨draw, hbelow, fun others => ?_⟩
    have hne : ofDraw draw ∉ (p.release (ofDraw draw)).held := fun hmem =>
      ((mem_held_release h _ _).1 hmem).2 rfl
    have hroom : (p.release (ofDraw draw)).held.length < p.limit := by
      rw [Pool.release, if_neg (ofDraw_ne_empty draw)]
      refine Nat.lt_of_lt_of_le (List.length_filter_lt_length_iff_exists.2 ?_) h.length_le
      exact ⟨ofDraw draw, hid, by simp⟩
    have hlimit : (p.release (ofDraw draw)).limit = p.limit := p.limit_after (.release _)
    rw [Pool.claim, if_pos (by rw [← hlimit] at hroom; exact hroom), Draws.take, takeFree?]
    simp [hne]

/-- **Claims and releases.** Let a new pool draw from a stream, of which the first draws are enough for every claim of a
run to meet an id that is not held. However many more are drawn from:

* the run gives the same ids;
* exhaustion is reported at most once, and only if a claim gives the empty id;
* at every point the ids that are held are distinct, and there are at most 4096 of them;
* a claim ends; it gives four digits that were not held before and are held then, unless 4096 ids are held: then
  it gives the empty id and leaves the pool as it is, and the first such claim is the one that is reported;
* a release gives back that id alone, which can be claimed again. -/
theorem claims_and_releases {stream : Nat → Nat} (below : ∀ i, stream i < 0x10000) {calls : List Call} {n : Nat}
    (meets : (fed stream n).Meets calls) :
    ∀ m ≥ n,
      let start := fed stream m
      start.ids calls = (fed stream n).ids calls ∧
      start.reports calls = (if "" ∈ start.ids calls then [.testIdsExhausted] else []) ∧
      ∀ before rest, calls = before ++ rest →
        let p := start.run before
        p.held.Nodup ∧ p.held.length ≤ 4096 ∧ p.limit = 4096 ∧
          ∀ call others, rest = call :: others →
            match call with
            | .claim => p.Claims (start.ids before)
            | .release id => p.Releases id := by
  intro m hm start
  obtain ⟨more, hmore⟩ := fed_of_le stream hm
  obtain ⟨hmeets, hids⟩ := run_feed more meets
  rw [← hmore] at hmeets hids
  refine ⟨hids, reports_eq hmeets, ?_⟩
  rintro before rest rfl p
  obtain ⟨hsound, hrest, hlimit⟩ := (sound_fed below m).run hmeets
  have hcapacity : p.limit = 4096 := hlimit
  refine ⟨hsound.unique, hcapacity ▸ hsound.length_le, hcapacity, ?_⟩
  rintro call others rfl
  cases call with
  | claim =>
    refine hsound.claims hrest.1 ?_
    rw [exhaustionReported_run hmeets]
    rfl
  | release id => exact hsound.releases id

/-- A stream that repeats itself: the fourth claim draws in vain first, and takes an id that was released. -/
theorem claims_and_releases_again :
    let stream := fun i => i % 3
    let calls : List Call := [.claim, .claim, .release "0001", .claim, .claim]
    ∀ m ≥ 5, (fed stream m).ids calls = ["0000", "0001", "0002", "0001"] ∧
      ((fed stream m).run calls).held.Nodup := by
  intro stream calls m hm
  have hmeets : (fed stream 5).Meets calls := by decide +kernel
  have hids : (fed stream 5).ids calls = ["0000", "0001", "0002", "0001"] := by decide +kernel
  obtain ⟨hsame, -, hpoints⟩ :=
    claims_and_releases (fun i => Nat.lt_trans (Nat.mod_lt i (by decide)) (by decide)) hmeets m hm
  exact ⟨hsame.trans hids, (hpoints calls [] (List.append_nil _).symm).1⟩

end Pool

end TestId

end LogAssay
