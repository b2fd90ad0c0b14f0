import LogAssay.Proofs.Capture.Installing
import LogAssay.Proofs.Settings.Merging
import LogAssay.Session.Command
import Mathlib.Data.List.DropRight

/-!
# Requesting levels

A request for a level is spelled in a call, in a line or in a marker (`Levels.Asked`). All of them are read alike, so
requests give the levels that they come to, however they are spelled. An installation requests levels on top of those
of its capture, and attaches what all of them come to together.

## Main statements

* `withLevel_asked`, `ofLinesFrom_asked`, `ofMarkersFrom_asked`: each way of spelling requests adds them one after the
  other.
* `requests_merge_alike`: what requests come to in settings, in lines, in markers and in installations.
-/

namespace LogAssay

/-! ## Lines -/

namespace Text

theorem trim_rdropWhile (s : List Char) : trim (s.rdropWhile isBlank) = trim s := by
  induction s using List.reverseRecOn with
  | nil => rfl
  | append_singleton s c ih =>
    by_cases hc : isBlank c = true
    · rw [List.rdropWhile_concat_pos _ _ _ hc, ih]
      show (s.dropWhile isBlank).rdropWhile isBlank = ((s ++ [c]).dropWhile isBlank).rdropWhile isBlank
      rw [List.dropWhile_append]
      split
      · next hblank => simp [List.isEmpty_iff.1 hblank, hc]
      · rw [List.rdropWhile_concat_pos _ _ _ hc]
    · rw [List.rdropWhile_concat_neg _ _ _ hc]

/-- What is left of a line with a channel that does not begin with a blank: blanks go at the end of the level only. -/
theorem trim_line {channel : List Char} (first : ∀ c ∈ channel.head?, isBlank c = false) (level : List Char) :
    trim (channel ++ '=' :: level) = channel ++ '=' :: level.rdropWhile isBlank := by
  have hequals : ¬isBlank '=' = true := by decide
  have hfront : (channel ++ '=' :: level).dropWhile isBlank = channel ++ '=' :: level := by
    cases channel with
    | nil => exact List.dropWhile_cons_of_neg hequals
    | cons c rest => exact List.dropWhile_cons_of_neg (by simp [first c rfl])
  show ((channel ++ '=' :: level).dropWhile isBlank).rdropWhile isBlank = _
  rw [hfront]
  clear hfront
  induction level using List.reverseRecOn with
  | nil => exact List.rdropWhile_concat_neg _ _ _ hequals
  | append_singleton level c ih =>
    rw [← List.cons_append, ← List.append_assoc, List.rdropWhile_concat, List.rdropWhile_concat]
    split
    · exact ih
    · rw [List.append_assoc, List.cons_append]

end Text

/-! ## Spelled requests -/

namespace Levels

/-- A request as it may be spelled: in a call or a marker by a value that means the severity, in a line by a level name
that does. The channel has no equals sign and no blanks at its ends, and does not begin as a comment. -/
structure Asked where
  channel : String
  severity : Severity
  value : Value
  level : String
  value_means : Severity.ofValue value = .ok severity
  level_means : Severity.ofName? level = some severity
  no_equals : '=' ∉ channel.toList
  no_blank_first : ∀ c ∈ channel.toList.head?, Text.isBlank c = false
  no_blank_last : ∀ c ∈ channel.toList.getLast?, Text.isBlank c = false
  no_comment : channel.toList.head? ≠ some '#'

namespace Asked

def request (a : Asked) : String × Severity := (a.channel, a.severity)

/-- The arguments of a call. -/
def arguments (a : Asked) : Value × Value := (.text a.channel, a.value)

def line (a : Asked) : String := a.channel ++ "=" ++ a.level

/-- The arguments of a marker. -/
def marker (a : Asked) : List Value := [.text a.channel, a.value]

theorem requestValue_eq (a : Asked) (levels : Levels) :
    levels.requestValue (.text a.channel) a.value = .ok (levels.request a.channel a.severity) := by
  rw [requestValue, a.value_means]
  rfl

/-- A line is read as the request that it spells. -/
theorem lineRequest_eq (a : Asked) : lineRequest a.line.toList = .ok (some a.request) := by
  have hline : a.line.toList = a.channel.toList ++ '=' :: a.level.toList := by
    rw [line, String.toList_append, String.toList_append, List.append_assoc]
    rfl
  have hlevel : Severity.ofValue (.text (String.ofList (a.level.toList.rdropWhile Text.isBlank))) = .ok a.severity := by
    have hname := a.level_means
    rw [Severity.ofName?] at hname
    simp only [Severity.ofValue, Severity.ofName?, String.toList_ofList, Text.trim_rdropWhile, hname]
  have hrequest : ¬(a.channel.toList ++ '=' :: a.level.toList.rdropWhile Text.isBlank = [] ∨
      (a.channel.toList ++ '=' :: a.level.toList.rdropWhile Text.isBlank).head? = some '#') := by
    rintro (hempty | hcomment)
    · simp at hempty
    · refine a.no_comment ?_
      cases hchannel : a.channel.toList with
      | nil => simp [hchannel] at hcomment
      | cons c rest =>
        rw [hchannel] at hcomment
        exact hcomment
  rw [lineRequest, hline, Text.trim_line a.no_blank_first, if_neg hrequest, Text.cut?_append a.no_equals]
  simp only [hlevel, Text.trim_eq_self a.no_blank_first a.no_blank_last, String.ofList_toList]
  rfl

end Asked

/-- Calls add their requests one after the other. -/
theorem withLevel_asked (asked : List Asked) (settings : Settings) :
    asked.foldlM (fun settings a => settings.withLevel (.text a.channel) a.value) settings
      = .ok { settings with levels := settings.levels.requestAll (asked.map Asked.request) } := by
  induction asked generalizing settings with
  | nil => rfl
  | cons a asked ih =>
    have hfirst : settings.withLevel (.text a.channel) a.value
        = .ok { settings with levels := settings.levels.request a.channel a.severity } := by
      rw [Settings.withLevel, a.requestValue_eq]
      rfl
    rw [List.foldlM_cons, hfirst]
    exact ih _

theorem requestValues_asked (asked : List Asked) (levels : Levels) :
    levels.requestValues (asked.map Asked.arguments) = .ok (levels.requestAll (asked.map Asked.request)) := by
  induction asked generalizing levels with
  | nil => rfl
  | cons a asked ih =>
    rw [List.map_cons, Asked.arguments, requestValues, a.requestValue_eq]
    exact ih _

/-- Lines add their requests one after the other. -/
theorem ofLinesFrom_asked (asked : List Asked) (levels : Levels) :
    levels.ofLinesFrom (asked.map Asked.line) = .ok (levels.requestAll (asked.map Asked.request)) := by
  induction asked generalizing levels with
  | nil => rfl
  | cons a asked ih =>
    rw [List.map_cons, ofLinesFrom, a.lineRequest_eq]
    exact ih _

/-- Levels as markers give them. -/
def named (levels : Levels) : MarkerLevels := levels.map fun (channel, severity) => (.text channel, severity)

theorem named_request (levels : Levels) (channel : String) (severity : Severity) :
    levels.named.request (.text channel) severity = (levels.request channel severity).named := by
  induction levels with
  | nil => rfl
  | cons e others ih =>
    obtain ⟨c, s⟩ := e
    have heq : (Value.text c).eq (.text channel) = (c == channel) := by simp [Value.eq, Scalar.eq]
    show MarkerLevels.request ((.text c, s) :: named others) (.text channel) severity = _
    rw [MarkerLevels.request, request, heq, ih]
    by_cases hc : c = channel
    · rw [if_pos (beq_iff_eq.2 hc), if_pos hc]
      rfl
    · rw [if_neg (by simpa using hc), if_neg hc]
      rfl

/-- Markers add their requests one after the other. -/
theorem ofMarkersFrom_asked (asked : List Asked) (levels : Levels) :
    levels.named.ofMarkersFrom (asked.map Asked.marker)
      = .ok (levels.requestAll (asked.map Asked.request)).named := by
  induction asked generalizing levels with
  | nil => rfl
  | cons a asked ih =>
    have hcheck : MarkerLevels.check (.text a.channel) = .ok () := rfl
    rw [List.map_cons, Asked.marker, MarkerLevels.ofMarkersFrom, a.value_means, hcheck]
    show MarkerLevels.ofMarkersFrom (levels.named.request (.text a.channel) a.severity) _ = _
    rw [named_request]
    exact ih _

end Levels

/-! ## Installing -/

namespace Session

/-- Choosing a factory leaves the captures alone. -/
theorem captures_factoryOf (settings : Settings) (s : Session) :
    ((factoryOf settings).result s).2.captures = s.captures := by
  rcases factoryOf_ok settings s with ⟨factory, -, h⟩ | ⟨-, s', h, hcaptures⟩
  · rw [h]
  · rw [h]
    exact hcaptures

/-- What an installation attaches for requests: the root at the default severity if nothing is requested, or else what
the requests come to. -/
def Attaches (requests levels : Levels) : Prop :=
  if requests = [] then levels = [("", .info)] else Levels.Merges requests levels

theorem attaches_installedLevels {requests levels : Levels} (h : Levels.Merges requests levels) :
    Attaches requests (installedLevels levels) := by
  rw [Attaches, installedLevels]
  split
  · next hnone =>
    subst hnone
    rw [h.unique Levels.merges_nil]
    rfl
  · next hsome =>
    obtain ⟨e, he⟩ := List.exists_mem_of_ne_nil requests hsome
    have hchannel := (h.mem_channels_iff e.1).2 ⟨e.2, he⟩
    have hlevels : levels ≠ [] := by
      rintro rfl
      cases hchannel
    rw [if_neg (by simpa using hlevels)]
    exact h

/-- What an installation gives that attaches levels for a capture, with the interceptor of a factory and the test id
that is claimed once the factory is chosen: the first fault, or a hook with all the recorders. -/
def Installs (s₁ : Session) (factory : Factory) (name : String) (index : Nat) (useTestId : Bool) (levels : Levels)
    (outcome : Except Fault Reply) (s' : Session) : Prop :=
  let attaching := Hook.attaching (Surroundings.reporting (Surroundings.backendOf factory)) levels useTestId index
    s₁.scene
  (∃ fault, attaching.1 = some fault ∧ outcome = .error fault) ∨
    ∃ hook, attaching.1 = none ∧ outcome = .ok (.installed (Hook.claim useTestId s₁.pool).1 false) ∧
      s'.hooks.get name = some hook ∧ hook.recorders = attaching.2.1

/-- An installation with requested levels attaches what they and the requests that its capture was configured with come
to together. -/
theorem carryOut_install_asked (asked : List Levels.Asked) {s : Session} {capture : String} {index : Nat}
    (hindex : s.captureIndex? capture = some index) {configured : Levels}
    (hconfigured : Levels.Merges configured (s.capture capture).settings.levels) (name : String) :
    let own := (s.capture capture).settings
    let installing := (carryOut (.install name capture (asked.map Levels.Asked.arguments))).result s
    installing.2.captures = s.captures ∧
      ∃ levels factory s₁, Attaches (configured ++ asked.map Levels.Asked.request) levels ∧
        (factoryOf own).result s = (.ok factory, s₁) ∧
        Installs s₁ factory name index own.useTestId levels installing.1 installing.2 := by
  intro own installing
  have hsettings : own.withLevels (asked.map Levels.Asked.arguments)
      = .ok { own with levels := own.levels.requestAll (asked.map Levels.Asked.request) } := by
    rw [Settings.withLevels, Levels.requestValues_asked]
    rfl
  have hattaches := attaches_installedLevels (hconfigured.requestAll (asked.map Levels.Asked.request))
  have hrun : installing = (install index own (asked.map Levels.Asked.arguments) >>= fun hook => do
      modify fun s => { s with hooks := s.hooks.put name (some hook) }
      return .installed hook.testId hook.closed : Act Session Reply).result s := by
    show (carryOut (.install name capture _)).result s = _
    rw [carryOut, Act.result_bind_ok (Act.result_get s)]
    simp only [hindex]
    rfl
  rcases install_cases own index (asked.map Levels.Asked.arguments) s with
    ⟨fault, hfault, -⟩ | ⟨final, factory, s₁, hfinal, hfactory, hinstall⟩
  · cases hsettings.symm.trans hfault
  · cases hsettings.symm.trans hfinal
    have hcaptures := captures_factoryOf own s
    rw [show (factoryOf own).result s = _ from hfactory] at hcaptures
    rcases hattach : Hook.attaching (Surroundings.reporting (Surroundings.backendOf factory))
        (installedLevels (own.levels.requestAll (asked.map Levels.Asked.request))) own.useTestId index s₁.scene with
      ⟨failure, rs, station⟩
    cases failure with
    | some fault =>
      rw [Hook.install_taken_back hattach] at hinstall
      rw [hrun, Act.result_bind_error hinstall]
      exact ⟨hcaptures, _, factory, s₁, hattaches, hfactory, .inl ⟨fault, congrArg Prod.fst hattach, rfl⟩⟩
    | none =>
      rw [Hook.install_attached hattach] at hinstall
      rw [hrun, Act.result_bind_ok hinstall, Act.result_bind_ok (Act.result_modify _ _), Act.result_pure]
      exact ⟨hcaptures, _, factory, s₁, hattaches, hfactory, .inr ⟨_, congrArg Prod.fst hattach, rfl,
        Directory.get_put_self _ _ _, congrArg (·.2.1) hattach.symm⟩⟩

/-- **All ways of requesting levels merge alike.** For every list of requests, by successive steps of settings, in
lines or by markers:

* each way gives the same levels in the same order: the channels in the order of their first requests, each at the
  lowest severity requested for it;
* requests that are the same but for their order and repetition give the same level for every channel;
* an installation attaches what they and the requests that its capture was configured with come to together, or the root
  at its default severity if there are none at all, and leaves the captures as they are. Levels with distinct channels
  are as if configured by themselves (`Levels.Merges.refl`). -/
theorem requests_merge_alike (asked : List Levels.Asked) :
    (∃ levels, Levels.Merges (asked.map Levels.Asked.request) levels ∧
      (∀ settings : Settings,
        asked.foldlM (fun settings a => settings.withLevel (.text a.channel) a.value) { settings with levels := [] }
          = .ok { settings with levels := levels }) ∧
      Levels.ofLines (asked.map Levels.Asked.line) = .ok levels ∧
      MarkerLevels.ofMarkers (asked.map Levels.Asked.marker)
        = .ok (levels.map fun (channel, severity) => (.text channel, severity)) ∧
      ∀ others : List Levels.Asked,
        (∀ r, r ∈ others.map Levels.Asked.request ↔ r ∈ asked.map Levels.Asked.request) →
        ∃ levels', Levels.ofLines (others.map Levels.Asked.line) = .ok levels' ∧
          ∀ channel, levels'.find? channel = levels.find? channel) ∧
    ∀ (s : Session) (name capture : String) (index : Nat) (configured : Levels),
      s.captureIndex? capture = some index →
      Levels.Merges configured (s.capture capture).settings.levels →
      let own := (s.capture capture).settings
      let installing := (carryOut (.install name capture (asked.map Levels.Asked.arguments))).result s
      installing.2.captures = s.captures ∧
        ∃ levels factory s₁, Attaches (configured ++ asked.map Levels.Asked.request) levels ∧
          (factoryOf own).result s = (.ok factory, s₁) ∧
          Installs s₁ factory name index own.useTestId levels installing.1 installing.2 := by
  have hmerges (asked : List Levels.Asked) := Levels.merges_nil.requestAll (asked.map Levels.Asked.request)
  refine ⟨⟨_, hmerges asked, fun settings => Levels.withLevel_asked asked _, Levels.ofLinesFrom_asked asked [],
    Levels.ofMarkersFrom_asked asked [], fun others same => ?_⟩, ?_⟩
  · exact ⟨_, Levels.ofLinesFrom_asked others [], (hmerges asked).find?_congr (hmerges others) same⟩
  · intro s name capture index configured hindex hconfigured
    exact carryOut_install_asked asked hindex hconfigured name

/-- A channel that is requested twice, the root, and a channel that the capture brings along. -/
theorem requests_merge_alike_twice :
    let own : Levels := [("app", .info), ("db", .info)]
    let s : Session := {
      around := { now := ⟨0⟩ }
      captures := [("c", { settings := { levels := own, useTestId := false, factory := some .standard } })] }
    let installing := (carryOut (.install "h" "c"
      [(.text "app", .text "severe"), (.text "", .severity .finest), (.text "app", .text "Debug")])).result s
    Levels.ofLines ["app= ERROR", "=trace ", "app=fine"] = .ok [("app", .fine), ("", .finest)] ∧
      s.captureIndex? "c" = some 0 ∧ Levels.Merges own (s.capture "c").settings.levels ∧
      Attaches (own ++ [("app", .severe), ("", .finest), ("app", .fine)])
        [("app", .fine), ("db", .info), ("", .finest)] ∧
      installing.1 = .ok (.installed "" false) ∧ ∃ hook, installing.2.hooks.get "h" = some hook ∧
        hook.recorders.map (·.channel) = ["app", "db", ""] := by
  intro own s installing
  have hfirst : ∀ c ∈ "app".toList.head?, Text.isBlank c = false := by
    rintro _ ⟨⟩
    rfl
  have hlast : ∀ c ∈ "app".toList.getLast?, Text.isBlank c = false := by
    rintro _ ⟨⟩
    rfl
  let asked : List Levels.Asked := [
    ⟨"app", .severe, .text "severe", " ERROR", by rfl, by rfl, by decide, hfirst, hlast, by decide⟩,
    ⟨"", .finest, .severity .finest, "trace ", by rfl, by rfl, by decide, nofun, nofun, by decide⟩,
    ⟨"app", .fine, .text "Debug", "fine", by rfl, by rfl, by decide, hfirst, hlast, by decide⟩]
  have hindex : s.captureIndex? "c" = some 0 := rfl
  have hown : Levels.Merges own own := .refl (by decide)
  obtain ⟨⟨levels, hmerges, -, hlines, -⟩, hinstall⟩ := requests_merge_alike asked
  obtain rfl := hmerges.unique (Levels.merges_nil.requestAll _)
  obtain ⟨-, attached, factory, s₁, hattaches, hfactory, hinstalls⟩ := hinstall s "h" "c" 0 own hindex hown
  obtain rfl := Levels.Merges.unique hattaches (hown.requestAll _)
  cases hfactory
  refine ⟨hlines, hindex, hown, hattaches, ?_⟩
  rcases hinstalls with ⟨fault, hfails, -⟩ | ⟨hook, -, houtcome, hhook, hrecorders⟩
  · cases hfails
  · exact ⟨houtcome, hook, hhook, by rw [hrecorders]; rfl⟩

end Session

end LogAssay
