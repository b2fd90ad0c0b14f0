import LogAssay.Predicate

/-!
# Fragments in order

A search for fragments takes the first occurrence of each, looks for the next one behind it, and never goes back.
Still it misses nothing: what stands behind any occurrence of a fragment is an end of what stands behind its first
one, and more text in front is only a longer gap.

## Main statements

* `Text.exists_standsFirst`: what is found is the first occurrence.
* `Text.StandsFirst.exists_skipped`: a later occurrence leaves an end of what the first one leaves.
* `Criterion.contains_iff_spaced`: the fragments are found exactly in the texts that consist of them and of gaps.
-/

namespace LogAssay

namespace Text

variable {fragment text front rest : List Char} {fragments : List (List Char)}

/-! ## First occurrences -/

/-- A fragment stands in a text, with a part of it in front and one behind, and does not occur before. -/
structure StandsFirst (fragment text front rest : List Char) : Prop where
  cut : text = front ++ fragment ++ rest
  first : ∀ front' rest', text = front' ++ fragment ++ rest' → front.length ≤ front'.length

theorem standsFirst_append (fragment rest : List Char) : StandsFirst fragment (fragment ++ rest) [] rest where
  cut := rfl
  first _ _ _ := Nat.zero_le _

/-- A text that does not begin with a fragment has its first occurrence where the rest of the text has it. -/
theorem StandsFirst.cons {c : Char} (h : StandsFirst fragment text front rest)
    (begins : without? fragment (c :: text) = none) : StandsFirst fragment (c :: text) (c :: front) rest where
  cut := by rw [h.cut]; rfl
  first front' rest' hcut := by
    cases front' with
    | nil =>
      rw [List.nil_append] at hcut
      rw [hcut, without?_append] at begins
      cases begins
    | cons d front' =>
      have htext : text = front' ++ fragment ++ rest' := (List.cons.inj hcut).2
      exact Nat.succ_le_succ (h.first front' rest' htext)

/-- **What is found is the first occurrence.** -/
theorem exists_standsFirst : ∀ {text : List Char}, behind? fragment text = some rest →
    ∃ front, StandsFirst fragment text front rest
  | [], h => by
    rw [behind?, without?_eq_some_iff] at h
    exact ⟨[], h ▸ standsFirst_append fragment rest⟩
  | c :: text, h => by
    rw [behind?] at h
    split at h
    · next behind hbehind =>
      obtain rfl := Option.some.inj h
      rw [without?_eq_some_iff.1 hbehind]
      exact ⟨[], standsFirst_append fragment behind⟩
    · next hnone =>
      obtain ⟨front, hfront⟩ := exists_standsFirst h
      exact ⟨c :: front, hfront.cons hnone⟩

theorem exists_behind?_eq (hcut : text = front ++ fragment ++ rest) : ∃ rest', behind? fragment text = some rest' := by
  have hoccurs : occursIn fragment text = true := (occursIn_iff fragment text).2 ⟨front, rest, hcut.symm⟩
  exact Option.isSome_iff_exists.1 hoccurs

/-- **A later occurrence leaves an end of what the first one leaves.** -/
theorem StandsFirst.exists_skipped (h : StandsFirst fragment text front rest) {front' rest' : List Char}
    (hcut : text = front' ++ fragment ++ rest') : ∃ skipped, rest = skipped ++ rest' := by
  have hfront : front.length ≤ front'.length := h.first front' rest' hcut
  have hlength : rest'.length ≤ rest.length := by
    have htwo := congrArg List.length (h.cut.symm.trans hcut)
    simp only [List.length_append] at htwo
    omega
  have hrest : rest <:+ text := ⟨front ++ fragment, h.cut.symm⟩
  have hrest' : rest' <:+ text := ⟨front' ++ fragment, hcut.symm⟩
  obtain ⟨skipped, hskipped⟩ := List.suffix_of_suffix_length_le hrest' hrest hlength
  exact ⟨skipped, hskipped.symm⟩

/-! ## Gaps and fragments -/

/-- A text consists of fragments in order, with a gap in front and one behind each of them. -/
def IsSpaced (fragments : List (List Char)) (text : List Char) : Prop :=
  ∃ gap gaps, gaps.length = fragments.length ∧ text = gap ++ (List.zipWith (· ++ ·) fragments gaps).flatten

theorem isSpaced_nil (text : List Char) : IsSpaced [] text := ⟨text, [], rfl, (List.append_nil text).symm⟩

theorem isSpaced_cons_iff : IsSpaced (fragment :: fragments) text ↔
    ∃ front rest, text = front ++ fragment ++ rest ∧ IsSpaced fragments rest := by
  constructor
  · rintro ⟨gap, gaps, hlength, htext⟩
    cases gaps with
    | nil => cases hlength
    | cons next gaps =>
      refine ⟨gap, _, ?_, next, gaps, Nat.succ.inj hlength, rfl⟩
      rw [htext, List.zipWith_cons_cons, List.flatten_cons]
      simp only [List.append_assoc]
  · rintro ⟨front, rest, htext, gap, gaps, hlength, hrest⟩
    refine ⟨front, gap :: gaps, congrArg Nat.succ hlength, ?_⟩
    rw [htext, hrest, List.zipWith_cons_cons, List.flatten_cons]
    simp only [List.append_assoc]

/-- More text in front makes the first gap longer. -/
theorem IsSpaced.append (h : IsSpaced fragments text) (front : List Char) : IsSpaced fragments (front ++ text) := by
  obtain ⟨gap, gaps, hlength, htext⟩ := h
  exact ⟨front ++ gap, gaps, hlength, by rw [htext, List.append_assoc]⟩

/-- Fragments are found one behind the other, each at its first occurrence behind the one before. -/
def IsPlacedFirst : List (List Char) → List Char → Prop
  | [], _ => True
  | fragment :: others, text => ∃ front rest, StandsFirst fragment text front rest ∧ IsPlacedFirst others rest

theorem IsPlacedFirst.isSpaced : ∀ {fragments : List (List Char)} {text : List Char},
    IsPlacedFirst fragments text → IsSpaced fragments text
  | [], text, _ => isSpaced_nil text
  | _ :: _, _, ⟨front, rest, hfirst, hothers⟩ => isSpaced_cons_iff.2 ⟨front, rest, hfirst.cut, hothers.isSpaced⟩

/-- The same on texts and on lists of characters. -/
theorem isSpaced_toList_iff {fs : List String} {s : String} : IsSpaced (fs.map String.toList) s.toList ↔
    ∃ (gap : String) (gaps : List String), gaps.length = fs.length ∧
      s = gap ++ String.join (List.zipWith (· ++ ·) fs gaps) := by
  have hjoin (fs gaps : List String) : (String.join (List.zipWith (· ++ ·) fs gaps)).toList
      = (List.zipWith (· ++ ·) (fs.map String.toList) (gaps.map String.toList)).flatten := by
    rw [String.toList_join, List.zipWith_map, List.flatMap_def, List.map_zipWith]
    simp only [String.toList_append]
  constructor
  · rintro ⟨gap, gaps, hlength, htext⟩
    refine ⟨String.ofList gap, gaps.map String.ofList, by simpa using hlength, String.toList_inj.1 ?_⟩
    rw [String.toList_append, hjoin, htext]
    simp [Function.comp_def]
  · rintro ⟨gap, gaps, hlength, rfl⟩
    refine ⟨gap.toList, gaps.map String.toList, by simpa using hlength, ?_⟩
    rw [String.toList_append, hjoin]

end Text

/-! ## The search -/

open Text (IsSpaced IsPlacedFirst)

/-- What is found is found at first occurrences. -/
theorem isPlacedFirst_of_containsInOrder : ∀ {fragments : List (List Char)} {text : List Char},
    containsInOrder fragments text = true → IsPlacedFirst fragments text
  | [], _, _ => trivial
  | fragment :: others, text, h => by
    rw [containsInOrder] at h
    split at h
    · next rest hrest =>
      obtain ⟨front, hfirst⟩ := Text.exists_standsFirst hrest
      exact ⟨front, rest, hfirst, isPlacedFirst_of_containsInOrder h⟩
    · cases h

/-- Wherever the fragments stand, they are found. The search may pass an earlier occurrence of a fragment, which only
leaves it more text to go on with. -/
theorem containsInOrder_of_isSpaced : ∀ {fragments : List (List Char)} {text : List Char},
    IsSpaced fragments text → containsInOrder fragments text = true
  | [], _, _ => rfl
  | fragment :: others, text, h => by
    obtain ⟨front', rest', hcut, hothers⟩ := Text.isSpaced_cons_iff.1 h
    obtain ⟨rest, hrest⟩ := Text.exists_behind?_eq hcut
    obtain ⟨front, hfirst⟩ := Text.exists_standsFirst hrest
    obtain ⟨skipped, rfl⟩ := hfirst.exists_skipped hcut
    rw [containsInOrder, hrest]
    exact containsInOrder_of_isSpaced (hothers.append skipped)

theorem containsInOrder_iff_isSpaced (fragments : List (List Char)) (text : List Char) :
    containsInOrder fragments text = true ↔ IsSpaced fragments text :=
  ⟨fun h => (isPlacedFirst_of_containsInOrder h).isSpaced, containsInOrder_of_isSpaced⟩

theorem containsInOrder_iff_isPlacedFirst (fragments : List (List Char)) (text : List Char) :
    containsInOrder fragments text = true ↔ IsPlacedFirst fragments text :=
  ⟨isPlacedFirst_of_containsInOrder, fun h => containsInOrder_of_isSpaced h.isSpaced⟩

namespace Criterion

/-- **Fragments are found wherever they are.** A predicate for fragments, of which there is at least one and none is
empty, holds for an entry exactly if the message consists of the fragments in order, with a gap in front and one
behind each of them. So it misses none by taking the first occurrence of each fragment. -/
theorem contains_iff_spaced (fs : List String) (given : fs ≠ []) (nonempty : "" ∉ fs) :
    ∃ p, (fragments fs).build = .ok p ∧ ∀ e : Entry, ∃ found, p.test e = .ok found ∧
      (found = true ↔ ∃ (gap : String) (gaps : List String), gaps.length = fs.length ∧
        e.message = gap ++ String.join (List.zipWith (· ++ ·) fs gaps)) ∧
      (found = true ↔ IsPlacedFirst (fs.map String.toList) e.message.toList) := by
  have hbuild : ¬(fs.isEmpty || fs.any (· == "")) = true := by
    simpa [given] using nonempty
  refine ⟨_, if_neg hbuild, fun e => ⟨_, rfl, ?_, containsInOrder_iff_isPlacedFirst _ _⟩⟩
  rw [← Text.isSpaced_toList_iff]
  exact containsInOrder_iff_isSpaced _ _

/-- The occurrences of the first fragment overlap each other, and all but the first one overlap the second fragment. -/
theorem contains_iff_spaced_overlapping :
    ["aa", "aab"] ≠ [] ∧ "" ∉ ["aa", "aab"] ∧
      ∃ p, (fragments ["aa", "aab"]).build = .ok p ∧ ∀ e : Entry, e.message = "aaaab" → p.test e = .ok true := by
  have hnonempty : "" ∉ ["aa", "aab"] := by decide
  obtain ⟨p, hbuild, hp⟩ := contains_iff_spaced ["aa", "aab"] (by decide) hnonempty
  refine ⟨by decide, hnonempty, p, hbuild, fun e he => ?_⟩
  obtain ⟨found, htest, hspaced, -⟩ := hp e
  have hfound : found = true := hspaced.2 ⟨"", ["", ""], rfl, by rw [he]; rfl⟩
  rw [htest, hfound]

end Criterion

end LogAssay
