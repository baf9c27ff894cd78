/-
# Plans of audits

An audit checks rules on devices.  Its plan lists the checks device by device, for each device
policy by policy, and for each policy rule by rule; a rule that several policies share is checked
once for each device.

* `Job` : one check;
* `plan` : the checks of an audit, in order.
-/
import ConfigAudit.Policy.Basic

namespace ConfigAudit

/-- One check of an audit. -/
structure Job where
  /-- The device. -/
  subject : Subject
  /-- The rule. -/
  rule : Rule

/-- Keeps the rules that count as new, given those seen before. -/
def fresh (seen : List Rule) : List Rule → Except ValueFault (List Rule)
  | [] => .ok []
  | r :: rest => do
    discard r.id.asKey
    if seen.any (r.same ·) then fresh seen rest
    else return r :: (← fresh (r :: seen) rest)

/-- The rules of all policies that a device is in scope of. -/
def rulesFor (policies : List Policy) (d : Device) : List Rule :=
  (policies.filter (·.appliesTo d)).flatMap (·.rules)

/-- The checks of one device. -/
def planFor (policies : List Policy) (s : Subject) : Except ValueFault (List Job) := do
  return (← fresh [] (rulesFor policies s.device)).map fun r => ⟨s, r⟩

/-- The checks of an audit. -/
def plan (policies : List Policy) : List Subject → Except ValueFault (List Job)
  | [] => .ok []
  | s :: rest => do return (← planFor policies s) ++ (← plan policies rest)

end ConfigAudit
