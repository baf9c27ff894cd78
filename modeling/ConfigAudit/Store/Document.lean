/-
# Stored documents

Definitions of rules and groups of devices are stored as written documents and read back.  Keys
become texts, and pairs become lists; what has no written form cannot be stored.

* `storedForm` : a value after it has been written and read back.
-/
import ConfigAudit.Script.Json
import ConfigAudit.Store.Basic

namespace ConfigAudit

/-- A value after it has been written and read back. -/
def storedForm (v : Value) : Except DatabaseFault Value :=
  match Json.write v with
  | .ok s => .ok ((Json.read s).getD .null)
  | .error (.unwritable kind) => .error (.unwritable kind)
  | .error .integerSize =>
    .error (.outage ("(builtins.ValueError) " ++ ValueFault.integerSize.message))
  | .error f => .error (.outage ("(builtins.TypeError) " ++ f.message))

/-- The groups of a policy as they are stored: in order, each once. -/
def storedTargets (v : Value) : Except ValueFault (List Value) := do
  Value.sorted (← v.memberSet)

end ConfigAudit
