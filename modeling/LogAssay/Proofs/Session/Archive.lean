import LogAssay.Session.Command

/-!
# What is entered for a capture

At the end of every step, what has arrived for a capture goes to its buffer. `Collected` says what the latest
capture of a name holds by then, and `Collected.commit` what the end of a step adds.
-/

namespace LogAssay

namespace Session

/-! ## Entering -/

theorem toRecord_enter (archive : List Entry) (records : List Record) :
    (enter archive records).map Entry.toRecord = records := by
  rw [enter, List.map_map]
  show (records.zipIdx archive.length).map Prod.fst = records
  exact List.zipIdx_map_fst _ _

theorem foldl_collect (fresh : List Entry) : ∀ c : Capture,
    fresh.foldl Capture.collect c = { c with buffer := { c.buffer with items := c.buffer.items ++ fresh } } := by
  induction fresh with
  | nil => simp
  | cons e fresh ih =>
    intro c
    rw [List.foldl_cons, ih]
    simp [Capture.collect, Buffer.append]

/-- A capture gets the records that arrived for it, in their order. -/
theorem getElem?_enterCaptures (arrivals : List (Collector × Record)) :
    ∀ (archive : List Entry) (start : Nat) {captures : List (String × Capture)} {i : Nat} {name : String}
      {c : Capture}, captures[i]? = some (name, c) →
      ∃ fresh : List Entry, fresh.map Entry.toRecord = arrivedFor arrivals (start + i) ∧
        (enterCaptures arrivals archive start captures).1[i]? = some (name, fresh.foldl Capture.collect c)
  | archive, start, (n, first) :: captures, 0, name, c, h => by
    obtain ⟨rfl, rfl⟩ : n = name ∧ first = c := by simpa using h
    exact ⟨enter archive (arrivedFor arrivals start), toRecord_enter _ _, rfl⟩
  | archive, start, (n, first) :: captures, i + 1, name, c, h => by
    rw [List.getElem?_cons_succ] at h
    obtain ⟨fresh, hfresh, hcaptures⟩ := getElem?_enterCaptures arrivals
      (archive ++ enter archive (arrivedFor arrivals start)) (start + 1) h
    rw [Nat.add_assoc, Nat.add_comm 1 i] at hfresh
    exact ⟨fresh, hfresh, hcaptures⟩

theorem names_enterCaptures (arrivals : List (Collector × Record)) :
    ∀ (captures : List (String × Capture)) (archive : List Entry) (start : Nat),
      (enterCaptures arrivals archive start captures).1.map (·.1) = captures.map (·.1)
  | [], _, _ => rfl
  | (name, c) :: captures, archive, start => by
    rw [enterCaptures, List.map_cons, List.map_cons, names_enterCaptures arrivals captures]

/-! ## The latest capture of a name -/

theorem captureIndex?_congr {s s' : Session} (h : s'.captures.map (·.1) = s.captures.map (·.1))
    (name : String) : s'.captureIndex? name = s.captureIndex? name := by
  have hfind : ∀ s : Session, s.captures.reverse.findIdx? (·.1 = name)
      = (s.captures.map (·.1)).reverse.findIdx? (· = name) := by
    intro s
    rw [← List.map_reverse, List.findIdx?_map]
    rfl
  have hlength : s'.captures.length = s.captures.length := by
    rw [← List.length_map (f := fun p => p.1), h, List.length_map]
  rw [captureIndex?, captureIndex?, hfind, hfind, h, hlength]

/-- The latest capture of a name has a number, settings, and records in its buffer. -/
structure Collected (s : Session) (name : String) (index : Nat) (settings : Settings)
    (records : List Record) : Prop where
  latest : s.captureIndex? name = some index
  found : ∃ c, s.captures[index]? = some (name, c) ∧ c.settings = settings ∧ c.buffer.Consistent ∧
    c.buffer.items.map Entry.toRecord = records

namespace Collected

variable {s s' : Session} {name : String} {index : Nat} {settings : Settings} {records : List Record}

theorem congr (h : s.Collected name index settings records) (hcaptures : s'.captures = s.captures) :
    s'.Collected name index settings records where
  latest := by rw [captureIndex?_congr (s := s) (by rw [hcaptures]), h.latest]
  found := by rw [hcaptures]; exact h.found

theorem settings_eq (h : s.Collected name index settings records) : (s.capture name).settings = settings := by
  obtain ⟨c, hc, hsettings, -⟩ := h.found
  rw [capture, h.latest]
  simp only [hc]
  exact hsettings

/-- What is to be seen of a capture. -/
theorem entries_eq (h : s.Collected name index settings records) :
    (s.capture name).entries.map Entry.toRecord = records := by
  obtain ⟨c, hc, -, hconsistent, hrecords⟩ := h.found
  rw [capture, h.latest]
  simp only [hc]
  show c.entries.map Entry.toRecord = records
  rw [Capture.entries, Buffer.taken_snapshot hconsistent, hrecords]

/-- **The end of a step adds what has arrived for a capture.** -/
theorem commit (h : s.Collected name index settings records) :
    s.commit.2.Collected name index settings (records ++ arrivedFor s.around.arrivals index) where
  latest := by
    rw [captureIndex?_congr (names_enterCaptures _ _ _ _), h.latest]
  found := by
    obtain ⟨c, hc, hsettings, hconsistent, hrecords⟩ := h.found
    obtain ⟨fresh, hfresh, hentered⟩ := getElem?_enterCaptures s.around.arrivals _ 0 hc
    refine ⟨fresh.foldl Capture.collect c, hentered, ?_⟩
    rw [foldl_collect]
    refine ⟨hsettings, hconsistent.trans (List.prefix_append _ _), ?_⟩
    show (c.buffer.items ++ fresh).map Entry.toRecord = _
    rw [List.map_append, hrecords, hfresh, Nat.zero_add]

end Collected

end Session

end LogAssay
