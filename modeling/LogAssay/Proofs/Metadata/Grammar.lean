import LogAssay.Metadata.Scan
import Mathlib.Data.List.TakeWhile

/-!
# The grammar of context blocks

The grammar says which texts are blocks without saying how they are read. It is compared with the two readers
of the library: the one that finds out whether a text is a block, and the one that scans the inside of a block
for pairs.

## Two readers, one grammar

* **Finding.** `takePair?` takes a pair off a text exactly if the text begins with one, so `isClosed` holds of
  the inside of a block alone, and `split?` finds the block with the shortest message before it.
* **Scanning.** `scan` sees no separators. It gives back the pairs that a block was made of
  (`scan_inside`), and with them nothing else can have been written: the pairs of a block are unique.
-/

namespace LogAssay.Metadata

/-! ## What is written -/

/-- The inside of a quotation: no double quote stands bare, and a backslash escapes one of five characters. -/
inductive IsBody : List Char → Prop where
  | nil : IsBody []
  | char {c : Char} {s : List Char} (hq : c ≠ '"') (hb : c ≠ '\\') (hs : IsBody s) : IsBody (c :: s)
  | escape {c : Char} {s : List Char} (hc : isEscapable c = true) (hs : IsBody s) :
    IsBody ('\\' :: c :: s)

/-- What may stand behind a key. The first character of an unquoted value may be a blank. -/
def Token.WellFormed : Token → Prop
  | .bare => True
  | .plain text => ∃ c rest, text = c :: rest ∧ c ≠ '"' ∧ ∀ x ∈ rest, Text.isBlank x = false
  | .quoted body => IsBody body

/-- A pair with a key of its own that ends where the key ends. -/
structure Pair.WellFormed (p : Pair) : Prop where
  key_ne_nil : p.key ≠ []
  key : ∀ c ∈ p.key, Text.isBlank c = false ∧ c ≠ '='
  token : p.token.WellFormed

/-- What stands behind a key, as it is written. -/
def Token.text : Token → List Char
  | .bare => []
  | .plain text => '=' :: text
  | .quoted body => '=' :: '"' :: body ++ ['"']

/-- A pair as it is written. -/
def Pair.text (p : Pair) : List Char := p.key ++ p.token.text

/-- Pairs as they are written in a block, each followed by a space. -/
def inside (pairs : List Pair) : List Char := pairs.flatMap fun p => p.text ++ [' ']

/-- A text that is a block of some pairs from its start to its end. -/
structure IsBlock (s : List Char) (pairs : List Pair) : Prop where
  pairs_ne_nil : pairs ≠ []
  wellFormed : ∀ p ∈ pairs, p.WellFormed
  text : s = opening ++ inside pairs ++ [']']

/-- What may stand between a message and a block. Only if there is no message may there be nothing. -/
inductive Separates : List Char → List Char → Prop where
  | space (message : List Char) : Separates message [' ']
  | newline (message : List Char) : Separates message ['\n']
  | start : Separates [] []

/-- A text that is made of a message, a separator and a block of some pairs. -/
def Splits (s message : List Char) (pairs : List Pair) : Prop :=
  ∃ separator block, Separates message separator ∧ IsBlock block pairs ∧
    s = message ++ separator ++ block

/-- A text split so that no shorter message can be split off. -/
def SplitsFirst (s message : List Char) (pairs : List Pair) : Prop :=
  Splits s message pairs ∧ ∀ m ps, Splits s m ps → message.length ≤ m.length

theorem Pair.key_all {p : Pair} (h : p.WellFormed) : ∀ c ∈ p.key, isKeyChar c = true := by
  intro c hc
  obtain ⟨hblank, heq⟩ := h.key c hc
  simp [isKeyChar, hblank, heq]

@[simp] theorem inside_nil : inside [] = [] := rfl

theorem inside_cons (p : Pair) (ps : List Pair) : inside (p :: ps) = p.text ++ ' ' :: inside ps := by
  simp [inside]

/-! ## Taking one piece after the other -/

theorem takeBody?_cons {c : Char} (hq : c ≠ '"') (hb : c ≠ '\\') (s : List Char) :
    takeBody? (c :: s) = (takeBody? s).map fun (body, rest) => (c :: body, rest) := by
  rw [takeBody?]
  · exact hq
  · exact fun hc => absurd hc hb
  · exact fun d r hc => absurd hc hb

/-- A quotation ends at its first bare double quote. -/
theorem takeBody?_append {body : List Char} (h : IsBody body) (rest : List Char) :
    takeBody? (body ++ '"' :: rest) = some (body, rest) := by
  induction h with
  | nil => rfl
  | char hq hb _ ih => rw [List.cons_append, takeBody?_cons hq hb, ih, Option.map_some]
  | escape hc _ ih =>
    rw [List.cons_append, List.cons_append, takeBody?, if_pos hc, ih, Option.map_some]

theorem takeBody?_eq_some_iff {s body rest : List Char} :
    takeBody? s = some (body, rest) ↔ IsBody body ∧ s = body ++ '"' :: rest := by
  refine ⟨fun h => ?_, fun ⟨hb, hs⟩ => by rw [hs, takeBody?_append hb]⟩
  -- the induction follows the reader: the end of the text, the closing quote, a backslash, any other character
  induction s using takeBody?.induct generalizing body rest with
  | case1 => simp [takeBody?] at h
  | case2 r =>
    rw [takeBody?, Option.some.injEq, Prod.mk.injEq] at h
    obtain ⟨rfl, rfl⟩ := h
    exact ⟨IsBody.nil, rfl⟩
  | case3 => simp [takeBody?] at h
  | case4 c r hc ih =>
    rw [takeBody?, if_pos hc] at h
    obtain ⟨⟨b, r'⟩, hb, he⟩ := Option.map_eq_some_iff.1 h
    cases he
    obtain ⟨hbody, hr⟩ := ih hb
    exact ⟨IsBody.escape hc hbody, by rw [hr]; rfl⟩
  | case5 c r hc => rw [takeBody?, if_neg hc] at h; cases h
  | case6 c r hq hend hesc ih =>
    have hback : c ≠ '\\' := by
      rintro rfl
      cases r with
      | nil => exact hend rfl rfl
      | cons d t => exact hesc d t rfl rfl
    rw [takeBody?_cons hq hback] at h
    obtain ⟨⟨b, r'⟩, hb, he⟩ := Option.map_eq_some_iff.1 h
    cases he
    obtain ⟨hbody, hr⟩ := ih hb
    exact ⟨IsBody.char hq hback hbody, by rw [hr]; rfl⟩

/-- An unquoted value ends where the space behind it stands. -/
theorem isBlank_head_space (rest : List Char) :
    ∀ c ∈ (' ' :: rest).head?, (!Text.isBlank c) = false := by
  intro c hc
  cases hc
  decide

/-- A token is taken off a text exactly if the text begins with it and a space. -/
theorem takeToken?_eq_some_iff {s rest : List Char} {token : Token} :
    takeToken? s = some (token, rest) ↔ token.WellFormed ∧ s = token.text ++ ' ' :: rest := by
  constructor
  · intro h
    unfold takeToken? at h
    split at h
    · cases h
      exact ⟨trivial, rfl⟩
    · next r =>
      split at h
      · next body r' hb =>
        cases h
        obtain ⟨hbody, hr⟩ := takeBody?_eq_some_iff.1 hb
        exact ⟨hbody, by rw [hr]; simp [Token.text]⟩
      · cases h
    · next c r hc =>
      -- an unquoted value reaches as far as it can, and a space has to follow
      split at h
      · next behind hb =>
        cases h
        refine ⟨⟨c, _, rfl, hc, fun x hx => ?_⟩, ?_⟩
        · simpa using List.mem_takeWhile_imp hx
        · have hr := List.takeWhile_append_dropWhile (p := (!Text.isBlank ·)) (l := r)
          rw [hb] at hr
          simp [Token.text, hr]
      · cases h
    · cases h
  · rintro ⟨hw, rfl⟩
    cases token with
    | bare => rfl
    | quoted body =>
      have hs : (Token.quoted body).text ++ ' ' :: rest
          = '=' :: '"' :: (body ++ '"' :: ' ' :: rest) := by simp [Token.text]
      rw [hs, takeToken?, takeBody?_append hw]
      rfl
    | plain text =>
      obtain ⟨c, r, rfl, hq, hr⟩ := hw
      have hr' : ∀ x ∈ r, (!Text.isBlank x) = true := fun x hx => by simp [hr x hx]
      show takeToken? ('=' :: c :: (r ++ ' ' :: rest)) = _
      rw [takeToken?]
      · rw [Text.dropWhile_run hr' (isBlank_head_space _), Text.takeWhile_run hr' (isBlank_head_space _)]
        rfl
      · exact hq

/-- The key of a pair ends where its token begins. -/
theorem not_isKeyChar_head_token (token : Token) (rest : List Char) :
    ∀ c ∈ (token.text ++ ' ' :: rest).head?, isKeyChar c = false := by
  intro c hc
  cases token <;> cases hc <;> decide

theorem takeWhile_key {p : Pair} (h : p.WellFormed) (rest : List Char) :
    (p.text ++ ' ' :: rest).takeWhile isKeyChar = p.key := by
  rw [Pair.text, List.append_assoc,
    Text.takeWhile_run (Pair.key_all h) (not_isKeyChar_head_token p.token rest)]

theorem dropWhile_key {p : Pair} (h : p.WellFormed) (rest : List Char) :
    (p.text ++ ' ' :: rest).dropWhile isKeyChar = p.token.text ++ ' ' :: rest := by
  rw [Pair.text, List.append_assoc,
    Text.dropWhile_run (Pair.key_all h) (not_isKeyChar_head_token p.token rest)]

/-- **A pair is taken off a text exactly if the text begins with it and a space.** -/
theorem takePair?_eq_some_iff {s rest : List Char} {p : Pair} :
    takePair? s = some (p, rest) ↔ p.WellFormed ∧ s = p.text ++ ' ' :: rest := by
  constructor
  · intro h
    unfold takePair? at h
    simp only at h
    split at h
    · cases h
    · next hne =>
      obtain ⟨⟨token, r⟩, ht, he⟩ := Option.map_eq_some_iff.1 h
      cases he
      obtain ⟨htoken, hr⟩ := takeToken?_eq_some_iff.1 ht
      refine ⟨⟨hne, fun c hc => ?_, htoken⟩, ?_⟩
      · have hkey : isKeyChar c = true := List.mem_takeWhile_imp hc
        simpa [isKeyChar] using hkey
      · rw [Pair.text, List.append_assoc, ← hr, List.takeWhile_append_dropWhile]
  · rintro ⟨hw, rfl⟩
    unfold takePair?
    simp only
    rw [takeWhile_key hw, dropWhile_key hw, if_neg hw.key_ne_nil,
      takeToken?_eq_some_iff.2 ⟨hw.token, rfl⟩]
    rfl

/-! ## Finding -/

/-- A text is closed exactly if it is one pair or more, each followed by a space, and a bracket. -/
theorem isClosed_iff {s : List Char} :
    isClosed s = true ↔ ∃ ps, ps ≠ [] ∧ (∀ p ∈ ps, p.WellFormed) ∧ s = inside ps ++ [']'] := by
  constructor
  · intro h
    -- one pair is taken off at a time, until the bracket is all that is left
    induction s using isClosed.induct with
    | case1 s hs => rw [isClosed, hs] at h; cases h
    | case2 s p rest hs ih =>
      obtain ⟨hp, rfl⟩ := takePair?_eq_some_iff.1 hs
      rw [isClosed, hs] at h
      simp only [Bool.or_eq_true, decide_eq_true_eq] at h
      rcases h with rfl | h
      · exact ⟨[p], by simp, by simpa using hp, by simp [inside_cons]⟩
      · obtain ⟨ps, _, hps, rfl⟩ := ih h
        refine ⟨p :: ps, by simp, fun q hq => ?_, by simp [inside_cons]⟩
        rcases List.mem_cons.1 hq with rfl | hq
        · exact hp
        · exact hps q hq
  · rintro ⟨ps, hne, hps, rfl⟩
    induction ps with
    | nil => exact absurd rfl hne
    | cons p ps ih =>
      have hp : takePair? (inside (p :: ps) ++ [']']) = some (p, inside ps ++ [']']) :=
        takePair?_eq_some_iff.2 ⟨hps p (by simp), by simp [inside_cons]⟩
      rw [isClosed, hp]
      cases ps with
      | nil => rfl
      | cons q qs =>
        have hrest := ih (by simp) fun x hx => hps x (by simp [hx])
        simp [hrest]

/-- A block is found at the start of a text exactly if all of the text is a block. -/
theorem block?_eq_some_iff {s body : List Char} :
    block? s = some body ↔ ∃ ps, IsBlock s ps ∧ body = inside ps := by
  constructor
  · intro h
    obtain ⟨t, ht, h⟩ := Option.bind_eq_some_iff.1 h
    split at h
    · next hc =>
      obtain ⟨ps, hne, hps, rfl⟩ := isClosed_iff.1 hc
      cases h
      refine ⟨ps, ⟨hne, hps, ?_⟩, by simp⟩
      rw [Text.without?_eq_some_iff.1 ht, List.append_assoc]
    · cases h
  · rintro ⟨ps, ⟨hne, hps, rfl⟩, rfl⟩
    rw [block?, List.append_assoc, Text.without?_append, Option.bind_some,
      if_pos (isClosed_iff.2 ⟨ps, hne, hps, rfl⟩), List.dropLast_concat]

/-! ## Scanning -/

/-- A token is taken as far as it goes, and a space ends it. -/
theorem takeValue_text {token : Token} (h : token.WellFormed) (rest : List Char) :
    takeValue (token.text ++ ' ' :: rest) = (token, ' ' :: rest) := by
  cases token with
  | bare => rfl
  | quoted body =>
    have hs : (Token.quoted body).text ++ ' ' :: rest
        = '=' :: '"' :: (body ++ '"' :: ' ' :: rest) := by simp [Token.text]
    rw [hs, takeValue, takeBody?_append h]
  | plain text =>
    obtain ⟨c, r, rfl, hq, hr⟩ := h
    have hr' : ∀ x ∈ r, (!Text.isBlank x) = true := fun x hx => by simp [hr x hx]
    show takeValue ('=' :: c :: (r ++ ' ' :: rest)) = _
    rw [takeValue]
    · rw [Text.dropWhile_run hr' (isBlank_head_space _), Text.takeWhile_run hr' (isBlank_head_space _)]
    · exact hq

/-- The space behind a pair is passed over. -/
theorem scan_space (s : List Char) : scan (' ' :: s) = scan s := by
  have h : (' ' :: s).dropWhile (!isKeyChar ·) = s.dropWhile (!isKeyChar ·) :=
    List.dropWhile_cons_of_pos (by decide)
  rw [scan, h, ← scan]

/-- A key is where the scan begins to take. -/
theorem scan_cons {c : Char} (hc : isKeyChar c = true) (s : List Char) :
    scan (c :: s) = ⟨(c :: s).takeWhile isKeyChar, (takeValue ((c :: s).dropWhile isKeyChar)).1⟩
      :: scan (takeValue ((c :: s).dropWhile isKeyChar)).2 := by
  have h : (c :: s).dropWhile (!isKeyChar ·) = c :: s :=
    List.dropWhile_cons_of_neg (by simp [hc])
  rw [List.takeWhile_cons_of_pos hc, List.dropWhile_cons_of_pos hc, scan, h]

/-- A pair in front of a space is scanned as it was written. -/
theorem scan_text {p : Pair} (h : p.WellFormed) (rest : List Char) :
    scan (p.text ++ ' ' :: rest) = p :: scan rest := by
  obtain ⟨c, k, hk⟩ := List.exists_cons_of_ne_nil h.key_ne_nil
  have hc : isKeyChar c = true := Pair.key_all h c (by simp [hk])
  have hs : p.text ++ ' ' :: rest = c :: (k ++ p.token.text ++ ' ' :: rest) := by
    simp [Pair.text, hk]
  rw [hs, scan_cons hc, ← hs, takeWhile_key h, dropWhile_key h, takeValue_text h.token, scan_space]

/-- **The scan gives back the pairs that a block was made of.** -/
theorem scan_inside : ∀ {ps : List Pair}, (∀ p ∈ ps, p.WellFormed) → scan (inside ps) = ps
  | [], _ => by rw [inside_nil, scan]; rfl
  | p :: ps, h => by
    rw [inside_cons, scan_text (h p (by simp)), scan_inside fun q hq => h q (by simp [hq])]

/-- The pairs of a block are unique. -/
theorem IsBlock.unique {s : List Char} {ps qs : List Pair} (hp : IsBlock s ps) (hq : IsBlock s qs) :
    ps = qs := by
  have h : inside ps = inside qs := by
    have := hp.text.symm.trans hq.text
    simpa using this
  rw [← scan_inside hp.wellFormed, ← scan_inside hq.wellFormed, h]

/-! ## Splitting -/

theorem isSeparator_iff {c : Char} : isSeparator c = true ↔ c = ' ' ∨ c = '\n' := by
  simp [isSeparator]

theorem Separates.of_isSeparator {c : Char} (h : isSeparator c = true) (message : List Char) :
    Separates message [c] := by
  rcases isSeparator_iff.1 h with rfl | rfl
  · exact .space message
  · exact .newline message

/-- A block starts with its opening, so it is no separator. -/
theorem IsBlock.head {s : List Char} {ps : List Pair} (h : IsBlock s ps) :
    ∃ r, s = '[' :: r := by
  rw [h.text]
  exact ⟨_, rfl⟩

/-- A split has a separator of one character, unless the text is a block. -/
theorem splits_iff {s message : List Char} {ps : List Pair} :
    Splits s message ps ↔ (message = [] ∧ IsBlock s ps) ∨
      ∃ c block, isSeparator c = true ∧ IsBlock block ps ∧ s = message ++ c :: block := by
  constructor
  · rintro ⟨separator, block, hsep, hb, rfl⟩
    cases hsep with
    | space => exact .inr ⟨' ', block, rfl, hb, by simp⟩
    | newline => exact .inr ⟨'\n', block, rfl, hb, by simp⟩
    | start => exact .inl ⟨rfl, hb⟩
  · rintro (⟨rfl, hb⟩ | ⟨c, block, hc, hb, rfl⟩)
    · exact ⟨[], s, .start, hb, rfl⟩
    · exact ⟨[c], block, .of_isSeparator hc message, hb, by simp⟩

/-- The pairs behind a message are unique. -/
theorem Splits.unique {s message : List Char} {ps qs : List Pair} (hp : Splits s message ps)
    (hq : Splits s message qs) : ps = qs := by
  -- a text that begins with a bracket does not begin with a separator
  have clash : ∀ {c : Char} {block : List Char} {rs us : List Pair}, isSeparator c = true →
      IsBlock (c :: block) rs → IsBlock block us → False := by
    intro c block rs us hc hr _
    obtain ⟨r, hr⟩ := hr.head
    cases hr
    exact absurd hc (by decide)
  rcases splits_iff.1 hp with ⟨rfl, hbp⟩ | ⟨c, block, hc, hbp, rfl⟩
  · rcases splits_iff.1 hq with ⟨_, hbq⟩ | ⟨c, block, hc, hbq, rfl⟩
    · exact hbp.unique hbq
    · exact (clash hc hbp hbq).elim
  · rcases splits_iff.1 hq with ⟨rfl, hbq⟩ | ⟨d, block', _, hbq, he⟩
    · exact (clash hc hbq hbp).elim
    · have := List.append_cancel_left he
      cases this
      exact hbp.unique hbq

/-- The first separator that a block follows is found, if there is one. -/
theorem splitInside?_spec (s : List Char) :
    match splitInside? s with
    | some (message, body) =>
      (∃ c block ps, isSeparator c = true ∧ IsBlock block ps ∧ s = message ++ c :: block ∧
        body = inside ps) ∧
      ∀ m c block ps, isSeparator c = true → IsBlock block ps → s = m ++ c :: block →
        message.length ≤ m.length
    | none => ∀ m c block ps, isSeparator c = true → IsBlock block ps → s ≠ m ++ c :: block := by
  induction s with
  | nil => intro m c block ps _ _ h; simp at h
  | cons c rest ih =>
    rw [splitInside?]
    cases hfound : (if isSeparator c then block? rest else none) with
    | some body =>
      split at hfound
      · next hc =>
        obtain ⟨ps, hps, rfl⟩ := block?_eq_some_iff.1 hfound
        exact ⟨⟨c, rest, ps, hc, hps, rfl, rfl⟩, fun m _ _ _ _ _ _ => Nat.zero_le _⟩
      · cases hfound
    | none =>
      -- no block follows here, so any split comes later
      have later : ∀ m d block ps, isSeparator d = true → IsBlock block ps →
          c :: rest = m ++ d :: block → ∃ m', m = c :: m' ∧ rest = m' ++ d :: block := by
        intro m d block ps hd hb he
        cases m with
        | nil =>
          cases he
          rw [if_pos hd, block?_eq_some_iff.2 ⟨ps, hb, rfl⟩] at hfound
          cases hfound
        | cons x m' =>
          cases he
          exact ⟨m', rfl, rfl⟩
      simp only
      cases hrest : splitInside? rest with
      | none =>
        rw [hrest] at ih
        intro m d block ps hd hb he
        obtain ⟨m', _, hr⟩ := later m d block ps hd hb he
        exact ih m' d block ps hd hb hr
      | some found =>
        rw [hrest] at ih
        obtain ⟨⟨d, block, ps, hd, hb, he, hbody⟩, hleast⟩ := ih
        refine ⟨⟨d, block, ps, hd, hb, by rw [he]; rfl, hbody⟩, ?_⟩
        intro m x block' qs hx hb' he'
        obtain ⟨m', rfl, hr⟩ := later m x block' qs hx hb' he'
        exact Nat.succ_le_succ (hleast m' x block' qs hx hb' hr)

/-- A split behind the shortest message is found, if there is one. -/
theorem split?_spec (s : List Char) :
    match split? s with
    | some (message, body) => ∃ ps, SplitsFirst s message ps ∧ body = inside ps
    | none => ∀ m ps, ¬Splits s m ps := by
  rw [split?]
  cases hstart : block? s with
  | some body =>
    obtain ⟨ps, hb, rfl⟩ := block?_eq_some_iff.1 hstart
    exact ⟨ps, ⟨splits_iff.2 (.inl ⟨rfl, hb⟩), fun m _ _ => Nat.zero_le _⟩, rfl⟩
  | none =>
    -- no block starts the text, so a separator stands before every block
    have inner : ∀ {m ps}, Splits s m ps →
        ∃ c block, isSeparator c = true ∧ IsBlock block ps ∧ s = m ++ c :: block := by
      intro m ps h
      rcases splits_iff.1 h with ⟨_, hb⟩ | h
      · rw [block?_eq_some_iff.2 ⟨ps, hb, rfl⟩] at hstart
        cases hstart
      · exact h
    have hspec := splitInside?_spec s
    simp only
    cases hfound : splitInside? s with
    | none =>
      rw [hfound] at hspec
      intro m ps h
      obtain ⟨c, block, hc, hb, he⟩ := inner h
      exact hspec m c block ps hc hb he
    | some found =>
      rw [hfound] at hspec
      obtain ⟨⟨c, block, ps, hc, hb, he, hbody⟩, hleast⟩ := hspec
      refine ⟨ps, ⟨splits_iff.2 (.inr ⟨c, block, hc, hb, he⟩), fun m qs h => ?_⟩, hbody⟩
      obtain ⟨d, block', hd, hb', he'⟩ := inner h
      exact hleast m d block' qs hd hb' he'

/-- The shortest message and the pairs behind it are unique. -/
theorem SplitsFirst.unique {s m m' : List Char} {ps qs : List Pair} (h : SplitsFirst s m ps)
    (h' : SplitsFirst s m' qs) : m = m' ∧ ps = qs := by
  have hlength : m.length = m'.length := Nat.le_antisymm (h.2 m' qs h'.1) (h'.2 m ps h.1)
  obtain ⟨separator, block, _, _, he⟩ := h.1
  obtain ⟨separator', block', _, _, he'⟩ := h'.1
  have hm : m = m' := by
    rw [he, List.append_assoc, List.append_assoc] at he'
    exact (List.append_inj he' hlength).1
  subst hm
  exact ⟨rfl, h.1.unique h'.1⟩

/-- **A text is split exactly if it can be, and then behind the shortest message.** -/
theorem split?_eq_some_iff {s message body : List Char} :
    split? s = some (message, body) ↔ ∃ ps, SplitsFirst s message ps ∧ body = inside ps := by
  have hspec := split?_spec s
  constructor
  · intro h
    rw [h] at hspec
    exact hspec
  · rintro ⟨ps, hfirst, rfl⟩
    cases hfound : split? s with
    | none =>
      rw [hfound] at hspec
      exact absurd hfirst.1 (hspec message ps)
    | some found =>
      rw [hfound] at hspec
      obtain ⟨qs, hfirst', hbody⟩ := hspec
      obtain ⟨hm, rfl⟩ := hfirst.unique hfirst'
      rw [← hbody, hm]

theorem split?_eq_none_iff {s : List Char} : split? s = none ↔ ∀ m ps, ¬Splits s m ps := by
  have hspec := split?_spec s
  constructor
  · intro h
    rw [h] at hspec
    exact hspec
  · intro h
    cases hfound : split? s with
    | none => rfl
    | some found =>
      rw [hfound] at hspec
      obtain ⟨ps, hfirst, _⟩ := hspec
      exact absurd hfirst.1 (h _ _)

end LogAssay.Metadata
