import LogAssay.Diagnostic

/-!
# The pool of test ids

Tests claim ids from a pool and release them when they are done. An id is a draw in capital hexadecimal digits;
a draw whose id is held is drawn again. Draws are scripted up to some point and count up from then on. Once the
pool is full, claims get the empty id, which tells no tests apart, and the first such claim is reported.

## Main statement

* `takeFree?_eq_some`: the id that is taken belongs to the first draw whose id is not held.
-/

namespace LogAssay.TestId

/-- The id of a draw. -/
def ofDraw (draw : Nat) : String := String.ofList (Text.upperHex 4 draw)

/-- The draws to come: scripted ones first, then all numbers from the next one on. -/
structure Draws where
  scripted : List Nat := []
  next : Nat := 0
  deriving DecidableEq, Repr

/-- The id of the first draw whose id is not held, and the draws behind it. -/
def takeFree? (held : List String) : List Nat → Option (String × List Nat)
  | [] => none
  | draw :: others =>
    if held.contains (ofDraw draw) then takeFree? held others else some (ofDraw draw, others)

/-- The id that is taken belongs to the first draw whose id is not held. -/
theorem takeFree?_eq_some {held : List String} {draws others : List Nat} {id : String}
    (h : takeFree? held draws = some (id, others)) :
    ∃ taken draw, draws = taken ++ draw :: others ∧ (∀ d ∈ taken, ofDraw d ∈ held) ∧
      id = ofDraw draw ∧ id ∉ held := by
  induction draws with
  | nil => cases h
  | cons d ds ih =>
    rw [takeFree?] at h
    split at h
    · next hd =>
      obtain ⟨taken, draw, hds, hheld, hid⟩ := ih h
      refine ⟨d :: taken, draw, by rw [hds]; rfl, ?_, hid⟩
      intro x hx
      rcases List.mem_cons.1 hx with rfl | hx
      · simpa using hd
      · exact hheld x hx
    · next hd =>
      cases h
      exact ⟨[], d, rfl, by simp, rfl, by simpa using hd⟩

/-- The id of the first number from the next one on whose id is not held, within so many numbers, and the
number behind it. -/
def countFree (held : List String) : Nat → Nat → String × Nat
  | next, 0 => (ofDraw next, next + 1)
  | next, tries + 1 =>
    if held.contains (ofDraw next) then countFree held (next + 1) tries else (ofDraw next, next + 1)

/-- Takes an id that is not held. One more number than there are ids held is enough to find it. -/
def Draws.take (draws : Draws) (held : List String) : String × Draws :=
  match takeFree? held draws.scripted with
  | some (id, others) => (id, { draws with scripted := others })
  | none =>
    let (id, next) := countFree held draws.next held.length
    (id, ⟨[], next⟩)

/-- The ids that are held, and how more are drawn. -/
structure Pool where
  held : List String := []
  limit : Nat := 4096
  draws : Draws := {}
  exhaustionReported : Bool := false
  deriving DecidableEq, Repr

namespace Pool

/-- Claims an id; from a full pool, the empty one. -/
def claim (p : Pool) : String × Pool × List Diagnostic :=
  if p.held.length < p.limit then
    let (id, draws) := p.draws.take p.held
    (id, { p with held := p.held ++ [id], draws := draws }, [])
  else
    ("", { p with exhaustionReported := true },
      if p.exhaustionReported then [] else [.testIdsExhausted])

/-- Releases an id; the empty one is never held. -/
def release (p : Pool) (id : String) : Pool :=
  if id = "" then p else { p with held := p.held.filter (· ≠ id) }

def sorted (p : Pool) : List String := p.held.mergeSort fun a b => decide (a ≤ b)

end Pool

end LogAssay.TestId
