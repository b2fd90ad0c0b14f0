import LogAssay.Metadata.Decode
import LogAssay.Proofs.Number.Text
import LogAssay.Record

/-!
# Failure texts line by line

A failed assertion is told in lines: what was expected, a heading, and one line for each entry at fault up to a bound.
The lines can be told apart again, although messages, keys and texts are arbitrary: of a message no more is shown than
what stands before its first line end, and metadata is shown in literals, in which every line feed is escaped. The only
texts that are shown as they are, and have to be on one line each, are names: those of the classes, the call site's and
the cause's, of the function and of the level.

## Main statements

* `isLine_quoted`: the literal of a text is on one line, whatever the text.
* `Record.isLine_shown_iff`: where the names of a call site and its level are on one line, a record is shown on one line
  iff the name of its cause's class is.
* `Record.isBeginning_beginning`: what is shown of a message is the longest beginning that may be shown.
* `failure_lines`: the lines of a failure text, and what each of them is.
-/

namespace LogAssay

/-- Whether a text has no line feed. -/
def IsLine (s : String) : Prop := '\n' ∉ s.toList

instance (s : String) : Decidable (IsLine s) := inferInstanceAs (Decidable ('\n' ∉ s.toList))

/-- The lines of a text: what stands between its line feeds. -/
def lines (s : String) : List String := (s.toList.splitOn '\n').map String.ofList

@[simp] theorem isLine_ofList {s : List Char} : IsLine (String.ofList s) ↔ '\n' ∉ s := by
  rw [IsLine, String.toList_ofList]

@[simp] theorem isLine_append {s t : String} : IsLine (s ++ t) ↔ IsLine s ∧ IsLine t := by
  rw [IsLine, String.toList_append, List.mem_append, not_or]
  rfl

/-- Lines with a separator between them are on one line, if the separator is. -/
theorem isLine_intercalate (separator : String) (hseparator : IsLine separator) : ∀ {ss : List String},
    (∀ s ∈ ss, IsLine s) → IsLine (separator.intercalate ss)
  | [], _ => by simp [IsLine]
  | [s], h => by simpa using h s List.mem_cons_self
  | s :: t :: ss, h => by
    have hrest := isLine_intercalate separator hseparator fun x hx => h x (List.mem_cons_of_mem s hx)
    rw [String.intercalate_cons_cons]
    simp only [isLine_append]
    exact ⟨⟨h s List.mem_cons_self, hseparator⟩, hrest⟩

/-- **Lines joined by line feeds are the lines of the text.** -/
theorem lines_intercalate {ss : List String} (hne : ss ≠ []) (h : ∀ s ∈ ss, IsLine s) :
    lines ("\n".intercalate ss) = ss := by
  have hsplit : ("\n".intercalate ss).toList.splitOn '\n' = ss.map String.toList := by
    rw [String.toList_intercalate]
    refine List.splitOn_intercalate '\n' (fun l hl => ?_) (mt List.map_eq_nil_iff.1 hne)
    obtain ⟨s, hs, rfl⟩ := List.mem_map.1 hl
    exact h s hs
  rw [lines, hsplit, List.map_map]
  simp [Function.comp_def]

/-! ## Literals -/

namespace Text

theorem newline_notMem_hexNumeral (n : Nat) : '\n' ∉ hexNumeral 'a' n := by
  have hdigit : ∀ m : Fin 16, hexDigit 'a' m ≠ '\n' := by decide
  induction n using hexNumeral.induct with
  | case1 n hn =>
    rw [hexNumeral, if_pos hn, List.mem_singleton]
    exact (hdigit ⟨n, hn⟩).symm
  | case2 n hn ih =>
    rw [hexNumeral, if_neg hn, List.mem_append, List.mem_singleton, not_or]
    exact ⟨ih, (hdigit ⟨n % 16, Nat.mod_lt n (by decide)⟩).symm⟩

theorem newline_notMem_hex (width n : Nat) : '\n' ∉ hex width n := by
  rw [hex, padded, List.mem_append, not_or]
  refine ⟨fun h => ?_, newline_notMem_hexNumeral n⟩
  cases List.eq_of_mem_replicate h

theorem newline_notMem_codePointEscape (n : Nat) : '\n' ∉ codePointEscape n := by
  rw [codePointEscape]
  split_ifs <;> simp [newline_notMem_hex]

/-- A line feed is escaped like every other character that may not stand for itself. -/
theorem newline_notMem_literalChar {quote : Char} (hquote : quote ≠ '\n') (c : Char) :
    '\n' ∉ literalChar quote c := by
  rw [literalChar]
  split_ifs with hescaped hfeed hreturn htab hprintable
  · rcases hescaped with rfl | rfl
    · simpa using hquote.symm
    · decide
  · decide
  · decide
  · decide
  · simpa using Ne.symm hfeed
  · exact newline_notMem_codePointEscape c.toNat

theorem enclosingQuote_ne_newline (s : List Char) : enclosingQuote s ≠ '\n' := by
  rw [enclosingQuote]
  split_ifs <;> decide

theorem newline_notMem_literal (s : List Char) : '\n' ∉ literal s := by
  have hquote := enclosingQuote_ne_newline s
  simp only [literal, List.cons_append, List.mem_cons, List.mem_append, List.mem_flatMap, List.not_mem_nil, or_false,
    not_or, not_exists, not_and]
  exact ⟨hquote.symm, fun c _ => newline_notMem_literalChar hquote c, hquote.symm⟩

theorem newline_notMem_behindLast {separator : Char} {s : List Char} (h : '\n' ∉ s) :
    '\n' ∉ behindLast separator s := by
  intro hmem
  rw [behindLast, List.mem_reverse] at hmem
  exact h (List.mem_reverse.1 ((List.takeWhile_sublist _).mem hmem))

end Text

/-- **The literal of a text is on one line**, whatever the text. -/
theorem isLine_quoted (s : String) : IsLine s.quoted := isLine_ofList.2 (Text.newline_notMem_literal s.toList)

theorem newline_notMem_ofNat (n : Nat) : '\n' ∉ Decimal.ofNat n := fun h => by
  cases Decimal.isDigit_of_mem_ofNat h

theorem isLine_int (i : Int) : IsLine i.numeral := by
  rw [Int.numeral, isLine_ofList, Decimal.ofInt]
  split_ifs <;> simp [newline_notMem_ofNat]

theorem isLine_float (x : Binary64) : IsLine x.numeral := by
  rw [Binary64.numeral, isLine_ofList]
  cases x with
  | nan => decide
  | infinite negative => cases negative <;> decide
  | finite negative u hu =>
    obtain ⟨c, r, htext, hchars⟩ := Binary64.exists_cons_text negative hu
    rw [htext]
    intro hmem
    rcases hchars '\n' hmem with h | h | h | h | h <;> cases h

theorem Scalar.isLine_literal (s : Scalar) : IsLine s.literal := by
  cases s with
  | bool b => cases b <;> decide
  | int i => exact isLine_int i
  | float x => exact isLine_float x
  | text t => exact isLine_quoted t

namespace Record

theorem isLine_literals (vs : List Scalar) : ∀ s ∈ Value.literals (vs.map Value.scalar), IsLine s := by
  induction vs with
  | nil => exact fun s hs => absurd hs List.not_mem_nil
  | cons v vs ih =>
    intro s hs
    rcases List.mem_cons.1 hs with rfl | hs
    · exact v.isLine_literal
    · exact ih s hs

theorem isLine_entryLiterals (m : Metadata) :
    ∀ s ∈ Value.entryLiterals (m.map fun (key, vs) => (.text key, .list (vs.map Value.scalar))), IsLine s := by
  induction m with
  | nil => exact fun s hs => absurd hs List.not_mem_nil
  | cons e m ih =>
    intro s hs
    rcases List.mem_cons.1 hs with rfl | hs
    · have hvalues := isLine_intercalate ", " (by decide) (isLine_literals e.2)
      show IsLine (e.1.quoted ++ ": " ++ ("[" ++ ", ".intercalate _ ++ "]"))
      simp only [isLine_append]
      exact ⟨⟨isLine_quoted e.1, by decide⟩, ⟨by decide, hvalues⟩, by decide⟩
    · exact ih s hs

theorem isLine_metadata (m : Metadata) : IsLine (metadataValue m).literal := by
  have hentries := isLine_intercalate ", " (by decide) (isLine_entryLiterals m)
  show IsLine ("\x7b" ++ ", ".intercalate _ ++ "\x7d")
  simp only [isLine_append]
  exact ⟨⟨by decide, hentries⟩, by decide⟩

/-! ## Messages -/

/-- The longest beginning of a message that may be shown: at most thirty characters, and no line end. -/
structure IsBeginning (message shown : List Char) : Prop where
  begins : shown <+: message
  length_le : shown.length ≤ 30
  unbroken : '\n' ∉ shown ∧ '\r' ∉ shown
  longest : ∀ other, other <+: message → other.length ≤ 30 → '\n' ∉ other → '\r' ∉ other → other <+: shown

/-- A beginning of a text whose characters pass a test is a beginning of the run of such characters. -/
theorem prefix_takeWhile {p : Char → Bool} {other s : List Char} (hbegins : other <+: s) (h : ∀ c ∈ other, p c = true) :
    other <+: s.takeWhile p := by
  obtain ⟨rest, rfl⟩ := hbegins
  rw [List.takeWhile_append_of_pos h]
  exact List.prefix_append other _

/-- **What is shown of a message is the longest beginning that may be shown.** -/
theorem isBeginning_beginning (message : List Char) : IsBeginning message (beginning message) where
  begins := (List.takeWhile_prefix _).trans (List.take_prefix _ message)
  length_le := Nat.le_trans (List.takeWhile_prefix _).length_le (List.length_take_le _ message)
  unbroken := by
    have hpassed : ∀ c ∈ beginning message, (c != '\n' && c != '\r') = true := List.all_eq_true.1 List.all_takeWhile
    exact ⟨fun h => absurd (hpassed _ h) (by decide), fun h => absurd (hpassed _ h) (by decide)⟩
  longest other hbegins hlength hfeed hreturn := by
    refine prefix_takeWhile (List.prefix_take_iff.2 ⟨hbegins, hlength⟩) fun c hc => ?_
    rw [Bool.and_eq_true, bne_iff_ne, bne_iff_ne]
    exact ⟨fun h => hfeed (h ▸ hc), fun h => hreturn (h ▸ hc)⟩

/-- A message is shown as its beginning, with dots behind it unless that is all. -/
theorem shortened_eq (message : String) : shortened message
    = String.ofList (beginning message.toList) ++ if beginning message.toList = message.toList then "" else "..." := by
  have hall : (beginning message.toList).length = message.length ↔ beginning message.toList = message.toList := by
    rw [← String.length_toList]
    exact ⟨(isBeginning_beginning message.toList).begins.eq_of_length, congrArg List.length⟩
  rw [shortened]
  simp only [hall]
  split_ifs with h
  · rw [h, String.ofList_toList, String.append_empty]
  · rfl

theorem isLine_shortened (message : String) : IsLine (shortened message) := by
  rw [shortened_eq, isLine_append, isLine_ofList]
  refine ⟨(isBeginning_beginning message.toList).unbroken.1, ?_⟩
  split_ifs <;> decide

/-! ## Records -/

/-- The class names that a record is shown with: of its call site and, if it has a cause, of the cause. -/
def classNames (r : Record) : List String := r.className :: (r.cause.map fun c => c.type.name).toList

/-- A record whose names are on one line each and whose integers are not too long to be written. -/
structure IsWritable (r : Record) : Prop where
  classNames : ∀ name ∈ r.classNames, IsLine name
  methodName : IsLine r.methodName
  levelName : IsLine r.levelName
  numerals : ∀ e ∈ r.metadata, ∀ i, Scalar.int i ∈ e.2 → (Decimal.ofNat i.natAbs).length ≤ Decimal.maxDigits

variable {r : Record}

/-- The level of a record as it is shown, with the severity if that has another name. -/
def shownLevel (r : Record) : String :=
  if r.levelName = r.severity.name then r.levelName else r.levelName ++ "(" ++ r.severity.name ++ ")"

theorem isLine_snippet (hlevel : IsLine r.levelName) : IsLine r.snippet := by
  have hseverity : IsLine r.severity.name := by cases r.severity <;> decide
  have hshown : IsLine r.shownLevel := by
    rw [shownLevel]
    split_ifs
    · exact hlevel
    · simp only [isLine_append]
      exact ⟨⟨⟨hlevel, by decide⟩, hseverity⟩, by decide⟩
  show IsLine (r.shownLevel ++ ": \"" ++ shortened r.message ++ "\"")
  simp only [isLine_append]
  exact ⟨⟨⟨hshown, by decide⟩, isLine_shortened r.message⟩, by decide⟩

/-- **What a cause can do to the line of a record.** Whatever the message and the metadata, only the name of the cause's
class can break the line, and it does if it has a line feed. -/
theorem isLine_shown_iff (hclass : IsLine r.className) (hmethod : IsLine r.methodName) (hlevel : IsLine r.levelName) :
    IsLine r.shown.text ↔ ∀ c ∈ r.cause, IsLine c.type.name := by
  have hsite : '\n' ∉ Text.behindLast '.' (Text.behindLast ':' r.className.toList) :=
    Text.newline_notMem_behindLast (Text.newline_notMem_behindLast hclass)
  have hcontext : IsLine (if r.metadata.isEmpty then "" else ", context=" ++ (metadataValue r.metadata).literal) := by
    split_ifs
    · decide
    · exact isLine_append.2 ⟨by decide, isLine_metadata r.metadata⟩
  simp only [shown, isLine_append, isLine_ofList, hsite, hmethod, isLine_snippet hlevel, hcontext]
  cases r.cause with
  | none => simp [IsLine]
  | some c => simp [IsLine]

/-- A record is shown on one line, whatever its message and its metadata. -/
theorem IsWritable.isLine_shown (h : r.IsWritable) : IsLine r.shown.text := by
  refine (isLine_shown_iff (h.classNames _ List.mem_cons_self) h.methodName h.levelName).2 fun c hc => ?_
  refine h.classNames _ (List.mem_cons_of_mem _ ?_)
  rw [Option.mem_def.1 hc]
  exact List.mem_singleton_self _

theorem IsWritable.writable_shown (h : r.IsWritable) : r.shown.writable = true := by
  show (metadataValue r.metadata).isWritable = true
  rw [metadataValue, Value.isWritable, Value.entriesWritable_iff, List.forall_mem_map]
  refine fun e he => ⟨rfl, ?_⟩
  rw [Value.isWritable, Value.allWritable_iff, List.forall_mem_map]
  intro v hv
  cases v with
  | int i => exact decide_eq_true (h.numerals e he i hv)
  | bool _ => rfl
  | float _ => rfl
  | text _ => rfl

end Record

/-! ## Failure texts -/

/-- The heading over the entries at fault. -/
def heading (count : Nat) : String :=
  if count ≤ Fault.sampleSize then "failing logs:" else "first few failing logs:"

theorem sample_of_ne_nil {failing : List String} (hne : failing ≠ []) :
    Fault.sample failing = heading failing.length :: (failing.take 10).map ("  " ++ ·) := by
  rw [Fault.sample, if_neg (by simpa using hne), heading]
  by_cases hfew : failing.length ≤ Fault.sampleSize
  · simp only [if_pos hfew]
    rfl
  · simp only [if_neg hfew]
    rfl

theorem isLine_sample {failing : List String} (h : ∀ s ∈ failing, IsLine s) : ∀ s ∈ Fault.sample failing, IsLine s := by
  intro s hs
  by_cases hne : failing = []
  · rw [hne] at hs
    cases hs
  · rw [sample_of_ne_nil hne] at hs
    rcases List.mem_cons.1 hs with rfl | hs
    · rw [heading]
      split_ifs <;> decide
    · obtain ⟨shown, hshown, rfl⟩ := List.mem_map.1 hs
      exact isLine_append.2 ⟨by decide, h shown (List.mem_of_mem_take hshown)⟩

variable {records : List Record} {label expectation : String}

/-- What is raised for a failed assertion is the assertion, if all that it shows can be written. -/
theorem raised_assertion (hrecords : ∀ r ∈ records, r.IsWritable) :
    (Fault.assertion label expectation (records.map Record.shown)).raised
      = .assertion label expectation (records.map Record.shown) := by
  have hsample : ((records.map Record.shown).take Fault.sampleSize).all (·.writable) = true := by
    refine List.all_eq_true.2 fun shown hshown => ?_
    obtain ⟨r, hr, rfl⟩ := List.mem_map.1 (List.mem_of_mem_take hshown)
    exact (hrecords r hr).writable_shown
  exact if_pos (Bool.and_eq_true_iff.2 ⟨rfl, hsample⟩)

/-- A failure text has a line for what was expected and one for each line of the sample. -/
theorem lines_assertion (hlabel : IsLine label) (hexpectation : IsLine expectation)
    (hrecords : ∀ r ∈ records, r.IsWritable) :
    lines (Fault.assertion label expectation (records.map Record.shown)).message
      = (label ++ ": " ++ expectation) :: Fault.sample (records.map fun r => r.shown.text) := by
  show lines ("\n".intercalate ((label ++ ": " ++ expectation)
    :: Fault.sample ((records.map Record.shown).map Wording.text))) = _
  rw [List.map_map]
  refine lines_intercalate (List.cons_ne_nil _ _) fun s hs => ?_
  rcases List.mem_cons.1 hs with rfl | hs
  · simp only [isLine_append]
    exact ⟨⟨hlabel, by decide⟩, hexpectation⟩
  · refine isLine_sample (fun shown hshown => ?_) s hs
    obtain ⟨r, hr, rfl⟩ := List.mem_map.1 hshown
    exact (hrecords r hr).isLine_shown

def torn : Record where
  className := "app:Worker"
  methodName := "run"
  levelName := "INFO"
  severity := .info
  timestamp := { micros := 0 }
  thread := .scalar (.int 1)
  message := "first\r\nsecond"
  metadata := [("k\n", [.text "x\ny", .int 7])]
  cause := some ⟨.derived "Quota exceeded" 3 [.runtime, .os], 0⟩

end LogAssay
