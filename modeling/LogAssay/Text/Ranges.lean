/-!
# Tables of code points

A property of characters is given by the runs of code points that have it, first and last of each run.
-/

namespace LogAssay.Text

/-- Whether a code point lies in one of the runs of a table. -/
def inRanges (table : List (Nat × Nat)) (n : Nat) : Bool :=
  table.any fun (first, last) => first ≤ n && n ≤ last

end LogAssay.Text
