/-
# Policies

A policy is a named sequence of rules for some groups of devices, or for all.

* `Policy.appliesTo` : whether a device is in scope;
* `Policy.check` : the results of all rules on a device;
* `Policy.record` : the document form.
-/
import ConfigAudit.Rule.Kind

namespace ConfigAudit

/-- A policy. -/
structure Policy where
  /-- Its id. -/
  id : Value
  /-- Its name. -/
  name : Value
  /-- The groups of devices that it is for; all devices if there are none. -/
  targets : List Value
  /-- Its rules. -/
  rules : List Rule

namespace Policy

/-- Whether a device is in scope. -/
def appliesTo (p : Policy) (d : Device) : Bool :=
  p.targets.isEmpty || p.targets.any fun t => t.isIn d.groups

/-- The first rule with a name. -/
def find? (p : Policy) (name : Value) : Option Rule :=
  p.rules.find? fun r => Value.equal r.name name

/-- Adds a rule behind the others; names are not used twice. -/
def add (p : Policy) (r : Rule) : Except Fault Policy :=
  if (p.find? r.name).isSome then .error (Fault.duplicateRule p.name r.name).worded
  else .ok { p with rules := p.rules ++ [r] }

/-- The results of all rules on a device, with the notes left on the way. -/
def check (g : Setting) (p : Policy) (s : Subject) : Journal × List CheckResult :=
  let all := p.rules.map fun r => r.checkSafely g s
  (all.flatMap Prod.fst, all.map Prod.snd)

/-- The document form of a policy. -/
def record (p : Policy) : Except ValueFault Value := do
  return .record [("id", p.id), ("name", p.name), ("target_groups", .list (← Value.sorted p.targets)),
    ("rules", .list (p.rules.map Rule.record))]

/-- A policy as it is shown to developers. -/
def quoted (p : Policy) : String :=
  "<Policy id=" ++ p.id.plain ++ " name=" ++ p.name.quoted ++ " rules=" ++
    toString p.rules.length ++ ">"

/-- A policy without target groups is for every device. -/
theorem appliesTo_of_no_targets (p : Policy) (d : Device) (h : p.targets = []) :
    p.appliesTo d = true := by simp [appliesTo, h]

end Policy

end ConfigAudit
