/-
# Validating rules

A definition is looked at without any device, so that mistakes show before an audit.

* `Rule.validate` : accepts a rule, or says what is wrong with it.
-/
import ConfigAudit.Rule.Kind
import ConfigAudit.Script.Python

namespace ConfigAudit

/-! ## Scripts -/

/-- Whether a byte is a blank; of the bytes only basic blanks are. -/
def isBlankByte (b : UInt8) : Bool := b == 0x20 || (0x09 ≤ b && b ≤ 0x0d)

/-- A script that has something in it. -/
def checkScriptText (l : Language) (script name : Value) : Except Fault Unit := do
  let blank ← match script.asText?, script with
    | some s, _ => pure (Text.isBlankText s)
    | none, .bytes bs => pure (bs.all isBlankByte)
    | none, v => if v.truthy then throw (.value (.noOperation v.fullKind "strip")) else pure true
  if blank then throw (.rule (.emptyScript l.name) name)

/-- Has a script read, in this process or by its interpreter. -/
def readScript (g : Setting) (l : Language) (script name : Value) : Except Fault Unit :=
  match l with
  | .javascript => (g.sandbox l).readWith g.interpreter script name
  | .python => match Python.defect? script with
    | .error f => .error f
    | .ok none => .ok ()
    | .ok (some defect) => .error (.rule defect name)

/-! ## Rules -/

namespace Rule

/-- Accepts a rule, or says what is wrong with it. -/
def validate (g : Setting) (r : Rule) : Except Fault Unit :=
  match r.body with
  | .text t => t.validate r.name
  | .script l script => do
    checkScriptText l script r.name
    readScript g l script r.name
  | .standIn reason => .error (.rule (.unusable reason) r.name)
  | _ => .ok ()

/-- The calls of interpreters that a validation makes. -/
def validationCalls (g : Setting) (r : Rule) : List Invocation :=
  match r.body with
  | .script .javascript script =>
    match checkScriptText .javascript script r.name, (g.sandbox .javascript).readCall script with
    | .ok (), .ok i => [i]
    | _, _ => []
  | _ => []

end Rule

end ConfigAudit
