import LogAssay.Fault

/-!
# Notices

What the library reports about its own work instead of failing: *diagnostics*, which are log events of their
own, and *cautions*, which warn about a use or a name that it does not know. Notices are values; whoever
runs an operation collects them in order.
-/

namespace LogAssay

/-- The weight of a diagnostic. -/
inductive Weight where
  | debug
  | info
  | warning
  deriving DecidableEq, Repr

def Weight.name : Weight → String
  | debug => "DEBUG"
  | info => "INFO"
  | warning => "WARNING"

/-- The level of the events of a weight. -/
def Weight.level : Weight → Int
  | debug => 10
  | info => 20
  | warning => 30

/-- A report on how an operation went. -/
inductive Diagnostic where
  /-- An unquoted metadata value is of no known type and was kept as it stands. -/
  | keptLiteral (text : String)
  /-- A quoted metadata value ends in a backslash. -/
  | trailingBackslash (raw : String)
  /-- A quoted metadata value escapes a character that needs no escape. -/
  | unknownEscape (escaped : Char) (raw : String)
  /-- A quoted metadata value had problems, so its text is doubtful. -/
  | doubtfulText (raw unescaped : String)
  /-- A channel could not be detached. -/
  | detachFailed (channel : String) (fault : Fault)
  /-- A factory failed its self-test. -/
  | probeFailed (factory : String) (fault : Fault)
  /-- Several factories have full support. -/
  | severalCapable (chosen : String)
  /-- The best factory has partial support only. -/
  | partialSupport (chosen : String)
  /-- No factory has any support. -/
  | noSupport
  /-- Too many test ids are in use. -/
  | testIdsExhausted

namespace Diagnostic

def channel : Diagnostic → String
  | keptLiteral _ | trailingBackslash _ | unknownEscape _ _ | doubtfulText _ _ => "logwitness.metadata"
  | detachFailed _ _ | probeFailed _ _ => "logwitness.interceptor"
  | severalCapable _ | partialSupport _ | noSupport => "logwitness.loader"
  | testIdsExhausted => "logwitness.api"

/-- The function that a diagnostic is logged in. -/
def function : Diagnostic → String
  | keptLiteral _ => "_parse_unquoted"
  | trailingBackslash _ | unknownEscape _ _ | doubtfulText _ _ => "_unescape"
  | detachFailed _ _ => "Recorder.close"
  | probeFailed _ _ => "probe_support"
  | severalCapable _ | partialSupport _ | noSupport => "select_best"
  | testIdsExhausted => "claim_test_id"

def weight : Diagnostic → Weight
  | keptLiteral _ | trailingBackslash _ | unknownEscape _ _ | detachFailed _ _ | probeFailed _ _ =>
    .debug
  | severalCapable _ => .info
  | doubtfulText _ _ | partialSupport _ | noSupport | testIdsExhausted => .warning

def message : Diagnostic → String
  | keptLiteral text =>
    "Failed to parse metadata value '" ++ text ++ "' from log message\n"
      ++ "It was expected to be one of boolean, integer or float"
  | trailingBackslash raw => "Unexpected trailing backslash found in value string: " ++ raw
  | unknownEscape escaped raw =>
    "Unexpected escaped character '\\" ++ escaped.toString ++ "' in metadata value string: " ++ raw
  | doubtfulText raw unescaped =>
    "Problems found while parsing metadata value string: '" ++ raw ++ "'\n" ++ "Unescaped value '"
      ++ unescaped ++ "' may not be accurate and could affect test results. "
      ++ "To debug further, enable DEBUG logging for: logwitness.metadata"
  | detachFailed channel _ => "Failed to detach from channel " ++ channel.quoted
  | probeFailed factory _ => "Self-test of " ++ factory ++ " failed"
  | severalCapable chosen => "Multiple capable log interceptors found; using " ++ chosen
  | partialSupport chosen =>
    "Log interceptor " ++ chosen ++ " only has partial capture support.\n"
      ++ "Logging tests may fail spuriously!"
  | noSupport => "No suitable log interceptor detected; logging tests are likely to fail!"
  | testIdsExhausted =>
    "Too many test ids were claimed; returning an empty id.\n"
      ++ "This may cause multi-threaded logging test failures."

/-- The failure that a diagnostic reports, if it reports one. -/
def fault? : Diagnostic → Option Fault
  | detachFailed _ fault | probeFailed _ fault => some fault
  | _ => none

end Diagnostic

/-- A warning about a use or a name that is not known. -/
inductive Caution where
  /-- A qualified name has a component outside the naming convention. -/
  | classConvention (qualifiedName : String)
  /-- The nearest function of a qualified name lies outside the naming convention. -/
  | methodConvention (qualifiedName : String)
  /-- A record handler was called in the way that it offers for form's sake only. -/
  | directHandling
  deriving DecidableEq, Repr

def Caution.message : Caution → String
  | classConvention name => "Unknown synthetic class naming convention: " ++ name
  | methodConvention name => "Unknown synthetic method naming convention: " ++ name
  | directHandling =>
    "RecordCollectorHandler.handle() was called directly; "
      ++ "this is a no-op, handle_record() should be used instead"

/-- Something reported during an operation. -/
inductive Notice where
  | diagnostic (d : Diagnostic)
  | caution (c : Caution)

/-- What came of reading something: the reports on it, and the result or what prevented it. -/
structure Reported (α : Type) where
  reports : List Diagnostic
  outcome : Except Fault α

/-- A result read further, without more reports. -/
def Reported.andThen {α β : Type} (r : Reported α) (f : α → Except Fault β) : Reported β :=
  ⟨r.reports, r.outcome >>= f⟩

end LogAssay
