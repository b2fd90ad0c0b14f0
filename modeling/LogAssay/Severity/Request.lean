import LogAssay.Fault

/-!
# Requested severities

A severity is requested by a severity or by a level name. Severities compare with severities only.
-/

namespace LogAssay.Severity

/-- The class that a value requests. -/
def ofValue : Value → Except Fault Severity
  | .severity s => .ok s
  | .scalar (.text name) =>
    match ofName? name with
    | some s => .ok s
    | none => .error (.severityName name)
  | v => .error (.severityKind v.kindName)

/-- Whether a class lies below another one. -/
def below (s : Severity) : Value → Except Fault Bool
  | .severity other => .ok (decide (s < other))
  | v => .error (.severityOrder v.fullKindName)

end LogAssay.Severity
