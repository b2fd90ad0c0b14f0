import LogAssay.Query.Script
import LogAssay.Session.Basic

/-!
# Session steps

A session is driven by commands. Each one gives a reply or a fault, together with what was noticed and captured
meanwhile. A fault leaves in place what the command had done until then. A command on a name that was never
given does nothing.
-/

namespace LogAssay

/-- Modes of a hub. -/
inductive HubMode where
  | working
  /-- No logger can be had. -/
  | withoutLoggers
  /-- Events are dropped. -/
  | dropping
  /-- Handlers cannot be removed. -/
  | clinging
  deriving DecidableEq, Repr

def HubMode.refusal : HubMode → Dispatch.Call → Option Fault
  | withoutLoggers, .getLogger name => some (.noBackend name)
  | clinging, .removeHandler name => some (.cannotRemove name)
  | _, _ => none

def HubMode.enter (mode : HubMode) (hub : Dispatch.Hub) : Dispatch.Hub :=
  { hub with refusal := mode.refusal, drops := decide (mode = .dropping) }

/-- How a hook is closed. -/
inductive Ending where
  /-- In its own context, with or without a check. -/
  | plain (verify : Bool)
  /-- By leaving its block after an error. -/
  | afterError (key : String)
  /-- In another context. -/
  | elsewhere (verify : Bool)
  deriving DecidableEq, Repr

/-- A script of operations on queries, made when all entries that it may refer to are there. -/
abbrev Script := List Entry → List Query.Step

def Script.question (script : Script) : Question Query := fun archive q => q.follow (script archive)

/-- A script that is run for its failure. -/
def Script.verification (script : Script) : Question Unit := fun archive q =>
  (q.follow (script archive)).map fun _ => ()

/-- What a session can be told to do. -/
inductive Command where
  | setLevel (logger : String) (level : Int)
  | setPassing (logger : String) (passesOn : Bool)
  | log (logger : String) (event : Event)
  | handle (logger : String) (event : Event)
  | enterScope (name : String) (tags : Tags)
  | leaveScope (name : String)
  | showTags
  | annotate (message : Tags.Message)
  | attach (name interceptor channel : String) (severity : Severity) (testId : String)
  /-- Closes a recorder, or uses it for the time of an empty block. -/
  | close (name : String) (asBlock : Bool)
  | notes (interceptor : String)
  | hubLevel (logger : String) (level : Value)
  | hubMode (mode : HubMode)
  | hubLog (logger level message : String)
  | hubDispatch (logger : String) (record : Dispatch.Fields)
  | feed (name : String) (gate : Dispatch.Gate) (records : List Dispatch.Fields)
  | feedDirectly
  | makeCapture (name : String) (settings : Option Value) (factory : Option Factory)
  | install (name capture : String) (extra : List (Value × Value))
  | closeHook (name : String) (ending : Ending)
  | ask (capture : String) (matchers : Except Fault (List Matcher)) (steps : List Query.Step)
  | entryAt (capture : String) (index : Int)
  | checkOrder (capture : String) (entries : List Entry)
  | verify (capture : String) (script : Script)
  | verifyValue (value : Value)
  | clearVerifications (capture : String)
  | expect (capture : String) (entries : List Entry)
  /-- Says how many entries an expectation is to match. The expectation is made on the spot, unless its name is
  that of one which was made before. -/
  | expectCount (name : Option String) (capture : String) (script : Script) (amount : Amount) (bound : Int)
  | claim
  | release (testId : String)
  | claimed
  | startTest (name : String) (markers : List (List Value)) (lines : List String) (useTestId : Value)
  | finishTest (name : String) (reports : List (String × Bool))

/-- What a session replies. -/
inductive Reply where
  | done
  | agreed
  | text (s : String)
  | texts (ss : List String)
  | tags (t : Tags)
  | annotated (text : String) (argumentsCleared : Bool)
  | recorder (b : Bool) (shown : String)
  | fed
  | installed (testId : String) (closed : Bool)
  /-- A hook's closing, which may have failed without leaving the hook open. -/
  | closing (outcome : Except Fault Unit) (closed : Bool)
  | asked (q : Query) (outcomes : List (Except Fault Query.Outcome))
  | entry (e : Entry)
  | settings (s : Settings)

namespace Session

/-- Hands records to a handler of its own, one after the other. -/
def feed (name : String) (gate : Dispatch.Gate) : List Dispatch.Fields → Act Session Unit
  | [] => return
  | record :: others => do
    onSurroundings do
      let s ← get
      Surroundings.accept (Dispatch.Hub.handOver s.now record [⟨gate, 0, .named name⟩])
    feed name gate others

/-- The settings of a new capture. -/
def settingsFrom (settings : Option Value) (factory : Option Factory) : Except Fault Settings := do
  let s : Settings ← match settings with
    | some v => Settings.ofValue v
    | none => pure {}
  return match factory with
    | some f => s.withFactory (some f)
    | none => s

/-- Makes a new capture under a name; its number. -/
def addCapture (name : String) (settings : Settings) : Act Session Nat := do
  let s ← get
  let fresh : Capture := { settings := settings }
  set { s with captures := s.captures ++ [(name, fresh)] }
  return s.captures.length

def endHook (ending : Ending) (h : Hook Detachment) :
    Act Session (Except Fault Unit × Hook Detachment) :=
  match ending with
  | .plain verify => closeHook true verify h
  | .elsewhere verify => closeHook false verify h
  | .afterError key => do
    let (outcome, h) ← closeHook true false h
    return (outcome >>= fun () => .error (.body key), h)

/-- The expectation of a name, with the number of its capture, or else a new one. -/
def expectationFor (s : Session) (name : Option String) (capture : String) (script : Script) :
    Option (Nat × OpenExpectation) :=
  match name.bind s.expectations.get with
  | some known => some known
  | none => (s.captureIndex? capture).map fun index => (index, ⟨script.question, false⟩)

/-- Keeps an expectation under its name, if it has one. -/
def keepExpectation (name : Option String) (index : Nat) (o : OpenExpectation) : Act Session Unit :=
  match name with
  | some name => modify fun s => { s with expectations := s.expectations.put name (some (index, o)) }
  | none => return

/-- Whether the body of a test failed, by its reports. -/
def bodyFailed (reports : List (String × Bool)) : Bool :=
  ((reports.filter (·.1 = "call")).getLast?.map (·.2)).getD false

/-- Starts a test: makes its capture and installs it. Only an installed capture is kept. -/
def startTest (name : String) (markers : List (List Value)) (lines : List String)
    (useTestId : Value) : Act Session Settings := do
  let before := (← get).captures
  let settings ← Act.ofExcept (Settings.ofOptions lines useTestId)
  let extra ← Act.ofExcept (MarkerLevels.ofMarkers markers)
  let index ← addCapture name settings
  let hook ← tryCatch (install index settings extra.toValues) fun fault => do
    modify fun s => { s with captures := before }
    throw fault
  modify fun s => { s with tests := s.tests.put name (some hook) }
  return settings

/-- Finishes a test: closes its hook, with a check if the body of the test did not fail. -/
def finishTest (name : String) (reports : List (String × Bool)) : Act Session Unit := do
  match (← get).tests.get name with
  | none => return
  | some h =>
    let (outcome, h) ← endHook (.plain !(bodyFailed reports)) h
    modify fun s => { s with tests := s.tests.put name (some h) }
    Act.ofExcept outcome

def carryOut : Command → Act Session Reply
  | .setLevel logger level => do
    modify fun s => { s with around := { s.around with tree := s.around.tree.setLevel logger level } }
    return .done
  | .setPassing logger passesOn => do
    modify fun s => { s with around := { s.around with
      tree := s.around.tree.setPassing logger passesOn } }
    return .done
  | .log logger event => do
    modify fun s => { s with around := s.around.log s.tags logger event }
    return .done
  | .handle logger event => do
    modify fun s => { s with around := s.around.handle s.tags logger event }
    return .done
  | .enterScope name tags => do
    let s ← get
    let inner := s.tags.within tags
    set { s with tags := inner, scopes := s.scopes.put name (some s.tags) }
    return .tags inner
  | .leaveScope name => do
    let s ← get
    let outer := (s.scopes.get name).getD s.tags
    set { s with tags := outer, scopes := s.scopes.put name none }
    return .tags outer
  | .showTags => do return .tags (← get).tags
  | .annotate message => do
    let tags := (← get).tags
    let annotated ← Act.ofExcept (Tags.annotate tags message)
    let text ← Act.ofExcept annotated.text
    return .annotated text !tags.isEmpty
  | .attach name interceptor channel severity testId => do
    return .text (← attach name interceptor channel severity testId).shown
  | .close name asBlock => do
    let before := (← get).recorders.get name
    let after ← close name
    match before, after with
    | some (_, before), some after =>
      return if asBlock then .recorder true before.shown else .recorder after.closed after.shown
    | _, _ => return .done
  | .notes interceptor => do return .texts ((← get).around.notes.get interceptor)
  | .hubLevel logger level => do
    onSurroundings (Surroundings.onHub (Dispatch.Hub.setLevel logger level))
    return .done
  | .hubMode mode => do
    modify fun s => { s with around := { s.around with hub := mode.enter s.around.hub } }
    return .done
  | .hubLog logger level message => do
    onSurroundings (Surroundings.hubLog logger level message)
    return .done
  | .hubDispatch logger record => do
    onSurroundings (Surroundings.hubDispatch logger record)
    return .done
  | .feed name gate records => do
    feed name gate records
    return .fed
  | .feedDirectly => do
    modify fun s => { s with around := { s.around with
      notices := s.around.notices ++ [.caution .directHandling] } }
    return .done
  | .makeCapture name settings factory => do
    let _ ← addCapture name (← Act.ofExcept (settingsFrom settings factory))
    return .done
  | .install name capture extra => do
    let s ← get
    match s.captureIndex? capture with
    | none => return .done
    | some index =>
      let hook ← install index (s.capture capture).settings extra
      modify fun s => { s with hooks := s.hooks.put name (some hook) }
      return .installed hook.testId hook.closed
  | .closeHook name ending => do
    match (← get).hooks.get name with
    | none => return .done
    | some h =>
      let (outcome, h) ← endHook ending h
      modify fun s => { s with hooks := s.hooks.put name (some h) }
      return .closing outcome h.closed
  | .ask capture matchers steps => do
    let matchers ← Act.ofExcept matchers
    let q ← Act.ofExcept (((← get).capture capture).query.matching matchers)
    return .asked q (q.runScript steps)
  | .entryAt capture index => do
    return .entry (← Act.ofExcept (((← get).capture capture).log index))
  | .checkOrder capture entries => do
    Act.ofExcept (((← get).capture capture).checkOrder entries)
    return .done
  | .verify capture script => do
    changeCapture capture (·.verify script.verification)
    return .agreed
  | .verifyValue value => throw (.notCallable value.kindName)
  | .clearVerifications capture => do
    changeCapture capture Capture.clearVerifications
    return .done
  | .expect capture entries => do
    changeCapture capture (·.expect entries)
    return .done
  | .expectCount name capture script amount bound => do
    let s ← get
    match s.expectationFor name capture script with
    | none => return .done
    | some (index, o) =>
      keepExpectation name index o
      let e ← Act.ofExcept (o.set amount bound)
      keepExpectation name index { o with isSet := true }
      modify fun s => { s with captures := s.captures.modify index fun (n, c) => (n, c.expectCount e) }
      return .done
  | .claim => do
    let s ← get
    let (id, pool, reports) := s.pool.claim
    set { s with pool := pool }
    report reports
    return .text id
  | .release testId => do
    modify fun s => { s with pool := s.pool.release testId }
    return .done
  | .claimed => do return .texts (← get).pool.sorted
  | .startTest name markers lines useTestId => do
    return .settings (← startTest name markers lines useTestId)
  | .finishTest name reports => do
    finishTest name reports
    return .done

/-- What a step of a session shows. -/
structure Answer where
  outcome : Except Fault Reply
  notices : List Notice
  /-- The entries captured, with the names of those who captured them. -/
  captured : List (String × Entry)

/-- Carries a command out and enters in the archive what was captured. -/
def step (s : Session) (command : Command) : Answer × Session :=
  let (outcome, s) := (carryOut command).result s
  let (captured, s) := s.commit
  (⟨outcome, s.around.notices, captured⟩, { s with around := { s.around with notices := [] } })

end Session

end LogAssay
