/-!
# Cutting text

Texts are cut at every separator, at the first one or at the last one. Cutting at every separator is
undone by joining with it, and no piece contains it.
-/

namespace LogAssay.Text

/-- The pieces between the separators; one piece more than there are separators. -/
def pieces (separator : Char) : List Char → List (List Char)
  | [] => [[]]
  | c :: rest =>
    if c = separator then [] :: pieces separator rest
    else match pieces separator rest with
      | [] => [[c]]
      | first :: others => (c :: first) :: others

def join (separator : Char) : List (List Char) → List Char
  | [] => []
  | [piece] => piece
  | piece :: others => piece ++ separator :: join separator others

theorem pieces_ne_nil (separator : Char) : ∀ s : List Char, pieces separator s ≠ []
  | [] => by simp [pieces]
  | c :: rest => by
    unfold pieces
    split
    · simp
    · split <;> simp

/-- Joining undoes cutting. -/
theorem join_pieces (separator : Char) : ∀ s : List Char, join separator (pieces separator s) = s
  | [] => rfl
  | c :: rest => by
    have ih := join_pieces separator rest
    unfold pieces
    split
    · next h =>
      subst h
      cases hp : pieces c rest with
      | nil => exact absurd hp (pieces_ne_nil _ _)
      | cons p ps => rw [hp] at ih; simp [join, ih]
    · cases hp : pieces separator rest with
      | nil => exact absurd hp (pieces_ne_nil _ _)
      | cons p ps =>
        rw [hp] at ih
        cases ps with
        | nil => simpa [join] using ih
        | cons q qs => simpa [join] using ih

/-- No piece contains the separator. -/
theorem not_mem_of_mem_pieces {separator : Char} : ∀ {s p : List Char},
    p ∈ pieces separator s → separator ∉ p
  | [], p, h => by simp [pieces] at h; simp [h]
  | c :: rest, p, h => by
    unfold pieces at h
    split at h
    · next hc =>
      rcases List.mem_cons.1 h with rfl | h
      · simp
      · exact not_mem_of_mem_pieces h
    · next hc =>
      cases hp : pieces separator rest with
      | nil => exact absurd hp (pieces_ne_nil _ _)
      | cons q qs =>
        rw [hp] at h
        rcases List.mem_cons.1 h with rfl | h
        · have : separator ∉ q := not_mem_of_mem_pieces (by rw [hp]; simp)
          simp only [List.mem_cons, not_or]
          exact ⟨fun e => hc e.symm, this⟩
        · exact not_mem_of_mem_pieces (s := rest) (by rw [hp]; simp [h])

/-- A run of characters of a kind is taken up to the first character of another kind. -/
theorem takeWhile_run {p : Char → Bool} {s rest : List Char} (h : ∀ x ∈ s, p x = true)
    (hrest : ∀ c ∈ rest.head?, p c = false) : (s ++ rest).takeWhile p = s := by
  rw [List.takeWhile_append_of_pos h]
  cases rest with
  | nil => simp
  | cons c r => rw [List.takeWhile_cons_of_neg (by simp [hrest c rfl]), List.append_nil]

theorem dropWhile_run {p : Char → Bool} {s rest : List Char} (h : ∀ x ∈ s, p x = true)
    (hrest : ∀ c ∈ rest.head?, p c = false) : (s ++ rest).dropWhile p = rest := by
  rw [List.dropWhile_append_of_pos h]
  cases rest with
  | nil => simp
  | cons c r => rw [List.dropWhile_cons_of_neg (by simp [hrest c rfl])]

/-- What stands before and after the first separator, if there is one. -/
def cut? (separator : Char) : List Char → Option (List Char × List Char)
  | [] => none
  | c :: rest =>
    if c = separator then some ([], rest)
    else (cut? separator rest).map fun (before, after) => (c :: before, after)

theorem cut?_cons_of_ne {separator c : Char} (hc : c ≠ separator) (s : List Char) :
    cut? separator (c :: s) = (cut? separator s).map fun (before, after) => (c :: before, after) := if_neg hc

theorem cut?_append {separator : Char} : ∀ {before : List Char}, separator ∉ before → ∀ after : List Char,
    cut? separator (before ++ separator :: after) = some (before, after)
  | [], _, after => if_pos rfl
  | c :: before, h, after => by
    rw [List.mem_cons, not_or] at h
    rw [List.cons_append, cut?_cons_of_ne (Ne.symm h.1), cut?_append h.2 after]
    rfl

theorem cut?_eq_some_iff {separator : Char} {s before after : List Char} :
    cut? separator s = some (before, after) ↔ separator ∉ before ∧ s = before ++ separator :: after := by
  refine ⟨fun h => ?_, fun ⟨hbefore, hs⟩ => hs ▸ cut?_append hbefore after⟩
  induction s generalizing before with
  | nil => cases h
  | cons c s ih =>
    by_cases hc : c = separator
    · rw [cut?, if_pos hc] at h
      cases h
      exact ⟨List.not_mem_nil, by rw [hc, List.nil_append]⟩
    · rw [cut?_cons_of_ne hc] at h
      obtain ⟨⟨front, rest⟩, hcut, h⟩ := Option.map_eq_some_iff.1 h
      cases h
      obtain ⟨hfront, hs⟩ := ih hcut
      exact ⟨List.not_mem_cons_of_ne_of_not_mem (Ne.symm hc) hfront, by rw [hs, List.cons_append]⟩

theorem notMem_of_cut?_eq_none {separator : Char} {s : List Char} (h : cut? separator s = none) : separator ∉ s := by
  intro hmem
  obtain ⟨before, after, rfl, hbefore⟩ := List.eq_append_cons_of_mem hmem
  rw [cut?_append hbefore] at h
  cases h

/-- What stands behind the last separator; the whole text if there is none. -/
def behindLast (separator : Char) (s : List Char) : List Char :=
  (s.reverse.takeWhile (· ≠ separator)).reverse

/-- The text without the given beginning, if it begins so. -/
def without? : List Char → List Char → Option (List Char)
  | [], s => some s
  | _ :: _, [] => none
  | b :: beginning, c :: s => if b = c then without? beginning s else none

@[simp] theorem without?_append (beginning s : List Char) :
    without? beginning (beginning ++ s) = some s := by
  induction beginning with
  | nil => rfl
  | cons b r ih => simp [without?, ih]

theorem without?_eq_some_iff {beginning s r : List Char} :
    without? beginning s = some r ↔ s = beginning ++ r := by
  induction beginning generalizing s with
  | nil => simp [without?]
  | cons b t ih =>
    cases s with
    | nil => simp [without?]
    | cons c s =>
      by_cases h : b = c
      · subst h; simp [without?, ih]
      · simp [without?, h, Ne.symm h]

/-- What stands behind the first occurrence of a fragment, if it occurs. -/
def behind? (fragment : List Char) : List Char → Option (List Char)
  | [] => without? fragment []
  | c :: s =>
    match without? fragment (c :: s) with
    | some rest => some rest
    | none => behind? fragment s

/-- Whether a fragment occurs in a text. -/
def occursIn (fragment s : List Char) : Bool := (behind? fragment s).isSome

theorem occursIn_iff (fragment s : List Char) : occursIn fragment s = true ↔ fragment <:+: s := by
  have hbegins (s : List Char) : (without? fragment s).isSome = true ↔ fragment <+: s := by
    simp only [Option.isSome_iff_exists, without?_eq_some_iff]
    exact ⟨fun ⟨r, h⟩ => ⟨r, h.symm⟩, fun ⟨r, h⟩ => ⟨r, h.symm⟩⟩
  unfold occursIn
  induction s with
  | nil => rw [behind?, hbegins, List.prefix_nil, List.infix_nil]
  | cons c s ih =>
    rw [behind?, List.infix_cons_iff, ← hbegins]
    cases without? fragment (c :: s) with
    | some rest => simp
    | none => simpa using ih

end LogAssay.Text
