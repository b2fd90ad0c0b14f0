import LogAssay.Proofs.Capture.Counting

/-!
# Isolation of tests

An event that is logged under a test id, and does not bring ids of its own, carries this id and no other one,
whatever else it carries. So of all tests that run at the same time, only the one with this id gets it.

## Main statements

* `Tags.values_stamp`: a tag gives an event its value, if the event has none for it.
* `isolated`: an event goes to captures with the test id that it is logged under, and to all of these that it
  reaches.
-/

namespace LogAssay

open LoggerTree (Holder Staffed receive)

/-! ## The id of an event -/

namespace Tags

variable {m m' : Metadata} {key : String}

/-- A tag leaves the values of other keys alone. -/
theorem values_stampOne_of_ne {other : String} {value : Value} (h : stampOne m other value = .ok m')
    (hne : key ≠ other) : m'.values key = m.values key := by
  obtain ⟨agrees, -, h⟩ := exists_ok_of_bind h
  cases agrees with
  | true =>
    obtain rfl : m = m' := Except.ok.inj h
    rfl
  | false =>
    obtain ⟨s, -, h⟩ := exists_ok_of_bind h
    obtain rfl : m.add other [s] = m' := Except.ok.inj h
    exact Metadata.values_add_of_ne m _ hne

/-- A key without values gets that of its tag. -/
theorem values_stampOne_self {value : Value} (h : stampOne m key value = .ok m') (hnone : m.values key = []) :
    m'.values key = [value.widened] := by
  rw [stampOne, hnone] at h
  obtain ⟨agrees, hagrees, h⟩ := exists_ok_of_bind h
  obtain rfl : false = agrees := Except.ok.inj hagrees
  obtain ⟨s, hs, h⟩ := exists_ok_of_bind h
  obtain rfl : m.add key [s] = m' := Except.ok.inj h
  rw [Metadata.values_add_self, hnone, List.nil_append, (Value.widen_ok_iff.1 hs).2]

theorem values_stamp_of_notMem : ∀ {tags : Tags} {m : Metadata}, stamp m tags = .ok m' →
    key ∉ tags.map (·.1) → m'.values key = m.values key
  | [], m, h, _ => by
    obtain rfl : m = m' := Except.ok.inj h
    rfl
  | (other, value) :: tags, m, h, hkey => by
    rw [List.map_cons, List.mem_cons, not_or] at hkey
    obtain ⟨m₁, hfirst, hrest⟩ := exists_ok_of_bind h
    rw [values_stamp_of_notMem hrest hkey.2, values_stampOne_of_ne hfirst hkey.1]

/-- **A tag gives an event its value**, if the event has none for it. -/
theorem values_stamp {value : Value} : ∀ {tags : Tags} {m : Metadata}, stamp m tags = .ok m' →
    (tags.map (·.1)).Nodup → tags.find? key = some value → m.values key = [] → m'.values key = [value.widened]
  | [], _, _, _, hfind, _ => by cases hfind
  | (other, v) :: tags, m, h, unique, hfind, hnone => by
    rw [List.map_cons, List.nodup_cons] at unique
    obtain ⟨m₁, hfirst, hrest⟩ := exists_ok_of_bind h
    rw [find?, List.lookup_cons] at hfind
    by_cases hkey : key = other
    · -- no other tag has this key, so what is stamped later leaves its values alone
      subst hkey
      have hv : v = value := by simpa using hfind
      rw [values_stamp_of_notMem hrest unique.1, values_stampOne_self hfirst hnone, hv]
    · have hne : (key == other) = false := by simpa using hkey
      rw [hne] at hfind
      refine values_stamp hrest unique.2 hfind ?_
      rw [values_stampOne_of_ne hfirst hkey, hnone]

end Tags

namespace Event

/-- The metadata of a converted event is that of its message, with the tags. -/
theorem stamp_of_convert {e : Event} {tags : Tags} {r : Record} (h : (e.convert tags).outcome = .ok r) :
    ∃ text d, e.message.text = .ok text ∧ (Metadata.decode text).outcome = .ok d ∧
      Tags.stamp d.metadata tags = .ok r.metadata := by
  obtain ⟨text, d, time, metadata, htext, hdecoded, hstamp, rfl⟩ := exists_of_convert h
  exact ⟨text, d, htext, hdecoded, hstamp⟩

/-- Whatever metadata the message of an event brings, it does not say which test the event belongs to. -/
def IsUnclaimed (e : Event) : Prop :=
  ∀ text d, e.message.text = .ok text → (Metadata.decode text).outcome = .ok d →
    d.metadata.hasKey TestId.key = false

variable {e : Event} {tags : Tags} {a : String}

/-- An event that does not bring ids carries the one that it is logged under, and no other one. -/
theorem IsUnclaimed.values_convert (h : e.IsUnclaimed) (unique : (tags.map (·.1)).Nodup)
    (htag : tags.find? TestId.key = some (.text a)) {r : Record} (hr : (e.convert tags).outcome = .ok r) :
    r.metadata.values TestId.key = [.text a] := by
  obtain ⟨text, d, htext, hdecoded, hstamp⟩ := stamp_of_convert hr
  have hnone : d.metadata.values TestId.key = [] := by
    have hkey := h text d htext hdecoded
    rw [Metadata.hasKey, Option.isSome_eq_false_iff, Option.isNone_iff_eq_none] at hkey
    rw [Metadata.values, hkey]
    rfl
  exact Tags.values_stamp hstamp unique htag hnone

/-- **An event belongs to the test that it is logged under**, and to no other one. -/
theorem IsUnclaimed.recordFor_eq_some_iff (h : e.IsUnclaimed) (unique : (tags.map (·.1)).Nodup)
    (htag : tags.find? TestId.key = some (.text a)) {testId : String} (hid : testId ≠ "") {r : Record} :
    e.recordFor tags testId = some r ↔ testId = a ∧ (e.convert tags).outcome = .ok r := by
  rw [recordFor]
  cases hconvert : (e.convert tags).outcome with
  | error fault => simp
  | ok r' =>
    have hvalues := h.values_convert unique htag hconvert
    have hkey : r'.metadata.hasKey TestId.key = true := by
      rw [Metadata.values] at hvalues
      cases hfound : r'.metadata.values? TestId.key with
      | none =>
        rw [hfound] at hvalues
        cases hvalues
      | some vs => rw [Metadata.hasKey, hfound, Option.isSome_some]
    have haccepts : TestId.accepts r'.metadata testId = decide (testId = a) := by
      simp [TestId.accepts, hkey, hvalues, hid, Bool.beq_eq_decide_eq]
    show (if TestId.accepts r'.metadata testId = true then some r' else none) = some r ↔ _
    rw [haccepts]
    by_cases ha : testId = a
    · simp [ha]
    · simp [ha]

end Event

/-! ## Who gets it -/

namespace LoggerTree

variable {t : LoggerTree}

/-- A handler that an event may pass is that of a logger. -/
theorem exists_mem_handlers {path : List String} {y : Handler} (h : y ∈ t.handlersFrom path) :
    ∃ name, y ∈ (t.logger name).handlers := by
  rw [handlersFrom_eq_flatMap] at h
  obtain ⟨name, -, hname⟩ := List.mem_flatMap.1 h
  exact ⟨name, hname⟩

/-- What a handler hands over of an event. -/
theorem mem_captured_receive {tags : Tags} {e : Event} {latches : Site.Latches} {y : Handler} {r : Record} :
    (y.collector, r) ∈ (receive tags e latches y).captured ↔ e.recordFor tags y.testId = some r := by
  rw [captured_receive, Event.recordBy, Option.mem_toList, Option.map_eq_some_iff]
  constructor
  · rintro ⟨r', hr', heq⟩
    rw [hr', (Prod.mk.inj heq).2]
  · exact fun hr => ⟨r, hr, rfl⟩

/-- What is captured of an event comes from the handlers that take it, if its logger lets it through. -/
theorem mem_captured_log {tags : Tags} {e : Event} {latches : Site.Latches} {name : String} {c : Collector}
    {r : Record} : (c, r) ∈ (t.log tags latches name e).captured ↔
      t.isOpen name e.level = true ∧
        ∃ y ∈ t.takers name e.level, y.collector = c ∧ e.recordFor tags y.testId = some r := by
  unfold log
  split
  · next hopen =>
    rw [handle, captured_receiveAll, List.mem_filterMap]
    simp only [Option.map_eq_some_iff, Prod.mk.injEq]
    constructor
    · rintro ⟨y, hy, r', hr', hc, rfl⟩
      exact ⟨hopen, y, hy, hc, hr'⟩
    · rintro ⟨-, y, hy, hc, hr⟩
      exact ⟨y, hy, r, hr, hc, rfl⟩
  · next hclosed =>
    constructor
    · exact fun h => absurd h List.not_mem_nil
    · exact fun h => absurd h.1 hclosed

end LoggerTree

namespace Lab

namespace Sound

variable {t₀ : LoggerTree} {first : Nat} {s : Lab} {capture : Nat}

/-- The handlers of a capture are those of its open installations. -/
theorem exists_installed (h : Sound t₀ first s) (silent : t₀.Silent (.capture capture)) {channel : String}
    {y : Handler} (hy : y ∈ (s.around.tree.logger channel).handlers) (hcapture : y.collector = .capture capture) :
    ∃ x ∈ s.installed capture, ∃ z ∈ x.holders, z.handler = y := by
  rw [h.roster.kept channel, List.mem_append] at hy
  rcases hy with hy | hy
  · -- a handler from before all installations is for no capture
    exact absurd hcapture (silent channel y hy)
  · obtain ⟨z, hz, rfl⟩ := List.mem_map.1 hy
    obtain ⟨x, hx, hzx⟩ := List.mem_flatMap.1 (List.mem_filter.1 hz).1
    have hopen : x.hook.closed = false := by
      cases hclosed : x.hook.closed with
      | false => rfl
      | true =>
        rw [h.spent x hx hclosed] at hzx
        cases hzx
    have hsame : z.request.collector = .capture x.hook.capture :=
      (Installation.request_of_mem (h.holding x hx hopen) hzx).1
    have hnumber : x.hook.capture = capture := Collector.capture.inj (hsame.symm.trans hcapture)
    exact ⟨x, List.mem_filter.2 ⟨hx, decide_eq_true ⟨hopen, hnumber⟩⟩, z, hzx, rfl⟩

/-- A handler of an installation has its test id and hands over to its capture. -/
theorem handler_of_installed (h : Sound t₀ first s) {x : Installation} (hx : x ∈ s.installed capture)
    {z : Holder} (hz : z ∈ x.holders) :
    z.handler.collector = .capture capture ∧ z.handler.testId = x.hook.testId := by
  obtain ⟨hmem, hinstalled⟩ := List.mem_filter.1 hx
  obtain ⟨hopen, rfl⟩ := of_decide_eq_true hinstalled
  exact Installation.request_of_mem (h.holding x hmem hopen) hz

end Sound

/-- **Tests are isolated.** Of an event that is logged under a test id and does not bring ids of its own:

* every handler of a capture belongs to an installation, and hands the event over exactly if its id is the one
  that the event is logged under, and the event can be converted;
* a capture gets it exactly if one of its installations has this id, and the event reaches a handler of it. -/
theorem isolated {s₀ : Lab} (h₀ : s₀.IsInitial) (moves : List Move) (context : Nat) {a : String} {e : Event}
    (htag : ((s₀.run moves).tags context).find? TestId.key = some (.text a)) (hown : e.IsUnclaimed)
    (name : String) :
    let s := s₀.run moves
    let conversion := (e.convert (s.tags context)).outcome
    (∀ capture channel, ∀ y ∈ (s.around.tree.logger channel).handlers, y.collector = .capture capture →
        ∃ x ∈ s.installed capture, y.testId = x.hook.testId ∧ (y.testId ≠ "" → ∀ latches r,
          (.capture capture, r) ∈ (receive (s.tags context) e latches y).captured ↔
            y.testId = a ∧ conversion = .ok r)) ∧
      ∀ capture, (∀ x ∈ s.installed capture, x.hook.testId ≠ "") →
        ∃ fresh, (s.step (.log context name e)).received capture = s.received capture ++ fresh ∧
          ∀ r, r ∈ fresh ↔ conversion = .ok r ∧ s.around.tree.isOpen name e.level = true ∧
            ∃ x ∈ s.installed capture, x.hook.testId = a ∧
              ∃ z ∈ x.holders, z.handler ∈ s.around.tree.takers name e.level := by
  intro s conversion
  have hsound := h₀.sound_run moves
  have hrecord : ∀ {testId}, testId ≠ "" → ∀ {r}, e.recordFor (s.tags context) testId = some r ↔
      testId = a ∧ conversion = .ok r :=
    fun hid _ => hown.recordFor_eq_some_iff (hsound.tags context) htag hid
  constructor
  · intro capture channel y hy hcapture
    obtain ⟨x, hx, z, hz, rfl⟩ := hsound.exists_installed (h₀.silent capture) hy hcapture
    refine ⟨x, hx, (hsound.handler_of_installed hx hz).2, fun hid latches r => ?_⟩
    rw [← hcapture, LoggerTree.mem_captured_receive, hrecord hid]
  · intro capture hids
    refine ⟨_, s.received_log capture context name e, fun r => ?_⟩
    rw [Session.mem_arrivedFor, LoggerTree.mem_captured_log]
    constructor
    · rintro ⟨hopen, y, hy, hcapture, hr⟩
      obtain ⟨channel, hchannel⟩ := LoggerTree.exists_mem_handlers (List.mem_filter.1 hy).1
      obtain ⟨x, hx, z, hz, rfl⟩ := hsound.exists_installed (h₀.silent capture) hchannel hcapture
      have hid := (hsound.handler_of_installed hx hz).2
      rw [hid, hrecord (hids x hx)] at hr
      exact ⟨hr.2, hopen, x, hx, hr.1, z, hz, hy⟩
    · rintro ⟨hr, hopen, x, hx, ha, z, hz, htaken⟩
      obtain ⟨hcapture, hid⟩ := hsound.handler_of_installed hx hz
      refine ⟨hopen, z.handler, htaken, hcapture, ?_⟩
      rw [hid, hrecord (hids x hx)]
      exact ⟨ha, hr⟩

/-- Two tests capture `app` at the same time, under the ids `0000` and `0001`. What a third context logs there under
the second id goes to the second capture alone, whatever the tags and the message say besides. -/
theorem isolated_side_by_side :
    let tags : Tags := [("user", .text "ann"), (TestId.key, .text "0001")]
    let s := atRest.run [.install 0 0 [("app", .fine)] true, .install 1 1 [("app", .info)] true, .retag 2 tags]
    let after := s.step (.log 2 "app" (Session.plainEvent 20 "sent [CONTEXT user=bob ]"))
    after.received 0 = [] ∧
      (after.received 1).map (·.metadata.values "user") = [[.text "bob", .text "ann"]] := by
  intro tags s after
  have hown : (Session.plainEvent 20 "sent [CONTEXT user=bob ]").IsUnclaimed := by
    intro text d htext hdecoded
    have hmetadata : (Metadata.decode "sent [CONTEXT user=bob ]").outcome.toOption
        = some ⟨"sent", [("user", [.text "bob"])]⟩ := by decide +kernel
    rw [← show "sent [CONTEXT user=bob ]" = text from Except.ok.inj htext] at hdecoded
    rw [hdecoded] at hmetadata
    obtain rfl := Option.some.inj hmetadata
    rfl
  have hids : (s.hooks.map fun x => (x.hook.capture, x.hook.testId)) = [(0, "0000"), (1, "0001")] := by
    decide +kernel
  have hfirst : ∀ x ∈ s.installed 0, x.hook.testId = "0000" := by
    intro x hx
    obtain ⟨hmem, hcapture⟩ := List.mem_filter.1 hx
    have hpair : (x.hook.capture, x.hook.testId) ∈ [(0, "0000"), (1, "0001")] := hids ▸ List.mem_map_of_mem hmem
    rw [(of_decide_eq_true hcapture).2] at hpair
    simpa using hpair
  obtain ⟨fresh, hfresh, hmem⟩ := (isolated isInitial_atRest [.install 0 0 [("app", .fine)] true,
    .install 1 1 [("app", .info)] true, .retag 2 tags] 2 rfl hown "app").2 0
      fun x hx => by rw [hfirst x hx]; decide
  have hnone : fresh = [] := by
    rw [List.eq_nil_iff_forall_not_mem]
    intro r hr
    obtain ⟨-, -, x, hx, hid, -⟩ := (hmem r).1 hr
    exact absurd ((hfirst x hx).symm.trans hid) (by decide)
  refine ⟨?_, by decide +kernel⟩
  rw [hnone] at hfresh
  exact hfresh.trans (List.eq_nil_of_length_eq_zero (by decide +kernel))

end Lab

end LogAssay
