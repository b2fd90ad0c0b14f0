import LogAssay.Metadata.Block

/-!
# Scanning for pairs

The inside of a block is read by a scan that knows nothing of blocks: it looks for the next key, takes it as far
as it goes, then takes a value if one stands behind it, and goes on behind what it took. Characters that are no
part of a pair are passed over, and a quotation that never ends leaves its key bare.
-/

namespace LogAssay.Metadata

/-- The token behind a key, taken as far as it goes, and what stands behind it. -/
def takeValue (s : List Char) : Token × List Char :=
  match s with
  | '=' :: '"' :: rest =>
    match takeBody? rest with
    | some (body, rest) => (.quoted body, rest)
    | none => (.bare, s)
  | '=' :: c :: rest =>
    (.plain (c :: rest.takeWhile (!Text.isBlank ·)), rest.dropWhile (!Text.isBlank ·))
  | _ => (.bare, s)

theorem length_takeValue (s : List Char) : (takeValue s).2.length ≤ s.length := by
  unfold takeValue
  split
  · next r =>
    split
    · next hb =>
      have := length_takeBody? hb
      simp only [List.length_cons]
      omega
    · exact Nat.le_refl _
  · next r _ =>
    have := (List.dropWhile_suffix (l := r) (!Text.isBlank ·)).length_le
    simp only [List.length_cons]
    omega
  · exact Nat.le_refl _

/-- All pairs in a text, whatever stands between them. -/
def scan (s : List Char) : List Pair :=
  match _h : s.dropWhile (!isKeyChar ·) with
  | [] => []
  | c :: rest =>
    ⟨c :: rest.takeWhile isKeyChar, (takeValue (rest.dropWhile isKeyChar)).1⟩
      :: scan (takeValue (rest.dropWhile isKeyChar)).2
termination_by s.length
decreasing_by
  have skipped := (List.dropWhile_suffix (l := s) (!isKeyChar ·)).length_le
  have key := (List.dropWhile_suffix (l := rest) isKeyChar).length_le
  have value := length_takeValue (rest.dropWhile isKeyChar)
  rw [_h, List.length_cons] at skipped
  omega

end LogAssay.Metadata
