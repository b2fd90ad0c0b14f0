import LogAssay.Metadata.Escape

/-!
# Quoted values from left to right

What stands between two quotes means something character by character, from the left. Reading it jumps from one
backslash to the next instead and takes all between them as it is. The two agree on every text, also on one that no
block can hold: a jump passes only characters that mean themselves, and of a run of backslashes the first escapes the
second, the third the fourth, and so on.

## Main statements

* `Means.append`: a jump over characters that mean themselves.
* `means_unescape`: what is read is what the text means.
* `unescape_left_to_right`: a text has one meaning, which is what is read, and of every problem with it one report is
  made, with one warning behind them.
-/

namespace LogAssay.Metadata

/-! ## Meaning -/

/-- The letters that are known behind a backslash, with the character that each stands for. -/
def escapes : List (Char × Char) := [('\\', '\\'), ('"', '"'), ('n', '\n'), ('r', '\r'), ('t', '\t')]

/-- What the inside of a quotation means, and the problems with it in their order. -/
inductive Means : List Char → List Char → List EscapeProblem → Prop where
  | nil : Means [] [] []
  | char {c : Char} {s text : List Char} {problems : List EscapeProblem} (hc : c ≠ '\\')
    (hs : Means s text problems) : Means (c :: s) (c :: text) problems
  | escape {letter meant : Char} {s text : List Char} {problems : List EscapeProblem}
    (hletter : (letter, meant) ∈ escapes) (hs : Means s text problems) :
    Means ('\\' :: letter :: s) (meant :: text) problems
  | unknown {c : Char} {s text : List Char} {problems : List EscapeProblem}
    (hc : ∀ meant, (c, meant) ∉ escapes) (hs : Means s text problems) :
    Means ('\\' :: c :: s) (c :: text) (.unknown c :: problems)
  | trailing : Means ['\\'] ['\\'] [.trailing]

theorem escaped?_eq_some_iff {letter meant : Char} : escaped? letter = some meant ↔ (letter, meant) ∈ escapes := by
  constructor
  · intro h
    unfold escaped? at h
    repeat' split at h
    all_goals first
      | (obtain rfl := Option.some.inj h; subst_vars; decide)
      | cases h
  · intro h
    simp only [escapes, List.mem_cons, Prod.mk.injEq, List.not_mem_nil, or_false] at h
    rcases h with ⟨rfl, rfl⟩ | ⟨rfl, rfl⟩ | ⟨rfl, rfl⟩ | ⟨rfl, rfl⟩ | ⟨rfl, rfl⟩ <;> rfl

theorem escaped?_eq_none_iff {c : Char} : escaped? c = none ↔ ∀ meant, (c, meant) ∉ escapes := by
  simp only [Option.eq_none_iff_forall_ne_some, ne_eq, escaped?_eq_some_iff]

namespace Means

variable {s text text' : List Char} {problems problems' : List EscapeProblem}

/-- A text has one meaning at most. -/
theorem unique (h : Means s text problems) (h' : Means s text' problems') : text = text' ∧ problems = problems' := by
  induction h generalizing text' problems' with
  | nil => cases h'; exact ⟨rfl, rfl⟩
  | char hc _ ih =>
    cases h' with
    | char _ hs =>
      obtain ⟨rfl, rfl⟩ := ih hs
      exact ⟨rfl, rfl⟩
    | escape | unknown | trailing => exact absurd rfl hc
  | escape hletter _ ih =>
    cases h' with
    | char hc => exact absurd rfl hc
    | escape hletter' hs =>
      obtain ⟨rfl, rfl⟩ := ih hs
      obtain rfl := Option.some.inj ((escaped?_eq_some_iff.2 hletter).symm.trans (escaped?_eq_some_iff.2 hletter'))
      exact ⟨rfl, rfl⟩
    | unknown hc => exact absurd hletter (hc _)
  | unknown hc _ ih =>
    cases h' with
    | char hc' => exact absurd rfl hc'
    | escape hletter => exact absurd hletter (hc _)
    | unknown _ hs =>
      obtain ⟨rfl, rfl⟩ := ih hs
      exact ⟨rfl, rfl⟩
  | trailing =>
    cases h' with
    | char hc => exact absurd rfl hc
    | trailing => exact ⟨rfl, rfl⟩

/-- **A jump.** Characters up to the next backslash mean themselves. -/
theorem append (h : Means s text problems) : ∀ {front : List Char}, '\\' ∉ front →
    Means (front ++ s) (front ++ text) problems
  | [], _ => h
  | c :: front, hfront => by
    rw [List.mem_cons, not_or] at hfront
    exact .char (Ne.symm hfront.1) (append h hfront.2)

end Means

/-! ## Reading -/

/-- **What is read is what the text means.** Each turn of the reading is a jump and what comes behind it: nothing, a
backslash at the end, or a backslash with a character and the reading of the rest. -/
theorem means_unescape (body : List Char) : Means body (unescape body).1 (unescape body).2 := by
  induction body using unescape.induct with
  | case1 body hcut =>
    rw [unescape_of_cut?_none hcut]
    have hmeans := Means.nil.append (Text.notMem_of_cut?_eq_none hcut)
    rwa [List.append_nil] at hmeans
  | case2 body front hcut =>
    obtain ⟨hfront, hbody⟩ := Text.cut?_eq_some_iff.1 hcut
    rw [unescape_of_cut?_end hcut, hbody]
    exact Means.trailing.append hfront
  | case3 body front c rest hcut text problems hrest meant hmeant ih =>
    obtain ⟨hfront, hbody⟩ := Text.cut?_eq_some_iff.1 hcut
    rw [unescape_of_cut?_cons hcut, hmeant, if_neg (Option.some_ne_none meant), hbody]
    exact (Means.escape (escaped?_eq_some_iff.1 hmeant) ih).append hfront
  | case4 body front c rest hcut text problems hrest hnone ih =>
    obtain ⟨hfront, hbody⟩ := Text.cut?_eq_some_iff.1 hcut
    rw [unescape_of_cut?_cons hcut, hnone, if_pos rfl, hbody]
    exact (Means.unknown (escaped?_eq_none_iff.1 hnone) ih).append hfront

theorem means_iff {body text : List Char} {problems : List EscapeProblem} :
    Means body text problems ↔ text = (unescape body).1 ∧ problems = (unescape body).2 := by
  constructor
  · exact fun h => h.unique (means_unescape body)
  · rintro ⟨rfl, rfl⟩
    exact means_unescape body

/-! ## Reports -/

theorem unescapeReports_of_problems {raw : String} {body : List Char} (h : (unescape body).2 ≠ []) :
    unescapeReports raw body
      = (unescape body).2.map (·.diagnostic raw) ++ [.doubtfulText raw (String.ofList (unescape body).1)] := by
  unfold unescapeReports
  simp only
  rw [if_neg (by simpa using h)]

theorem unescapeReports_of_clean {raw : String} {body : List Char} (h : (unescape body).2 = []) :
    unescapeReports raw body = [] := by
  unfold unescapeReports
  simp only
  rw [h]
  rfl

theorem EscapeProblem.weight_diagnostic (problem : EscapeProblem) (raw : String) :
    (problem.diagnostic raw).weight = .debug := by
  cases problem <;> rfl

/-- **Quoted values are read from left to right.** Whatever stands between the quotes, it has one meaning, and this is
what is read. Each problem is reported at the lowest weight, in order, and behind the reports stands one warning
exactly if there is any. What was written by escaping a text is read as the text, with nothing to report. -/
theorem unescape_left_to_right (raw : String) (body : List Char) :
    ∃ text problems, unescape body = (text, problems) ∧
      (∀ t ps, Means body t ps ↔ t = text ∧ ps = problems) ∧
      (∃ debugs warnings, unescapeReports raw body = debugs ++ warnings ∧
        debugs = problems.map (·.diagnostic raw) ∧ (∀ report ∈ debugs, report.weight = .debug) ∧
        warnings = (if problems = [] then [] else [.doubtfulText raw (String.ofList text)]) ∧
        ∀ report ∈ warnings, report.weight = .warning) ∧
      ∀ s, unescape (escape s) = (s, []) ∧ unescapeReports raw (escape s) = [] := by
  refine ⟨_, _, rfl, fun _ _ => means_iff, ⟨_, _, ?_, rfl, ?_, rfl, ?_⟩, fun s => ?_⟩
  · by_cases h : (unescape body).2 = []
    · rw [unescapeReports_of_clean h, if_pos h, h]
      rfl
    · rw [unescapeReports_of_problems h, if_neg h]
  · intro report hreport
    obtain ⟨problem, -, rfl⟩ := List.mem_map.1 hreport
    exact problem.weight_diagnostic raw
  · intro report hreport
    split at hreport
    · cases hreport
    · rw [List.mem_singleton.1 hreport]
      rfl
  · have hread := unescape_escape s
    exact ⟨hread, unescapeReports_of_clean (by rw [hread])⟩

/-- A run of three backslashes, the last of which escapes a letter that needs none, and one at the end. -/
example : unescape "a\\\\\\q\\".toList = ("a\\q\\".toList, [.unknown 'q', .trailing]) := by cbv

end LogAssay.Metadata
