/-
# Operations on a store

* `Operation`, `Answer` : what a store can be asked to change, and what it answers;
* `Session.perform` : an operation, on the object that is passed to it;
* `Session.next`, `Session.after` : the session after an operation, and after several in a row.
-/
import ConfigAudit.Store.Exemptions

namespace ConfigAudit

/-- What a store can be asked to change. -/
inductive Operation where
  /-- To create a policy. -/
  | createPolicy (name targets : Value)
  /-- To delete a policy. -/
  | deletePolicy (id : Value)
  /-- To add a rule to a policy. -/
  | addRule (policy : Value) (r : Rule)
  /-- To change a rule. -/
  | updateRule (r : Rule)
  /-- To delete a rule. -/
  | deleteRule (id : Value)
  /-- To enter an exemption. -/
  | addExemption (e : Exemption)
  /-- To remove an exemption. -/
  | removeExemption (rule device : Value)

/-- The object that is passed to an operation. -/
def Operation.passed : Operation → Passed
  | addRule _ r | updateRule r => .rule r
  | addExemption e => .exemption e
  | createPolicy .. | deletePolicy _ | deleteRule _ | removeExemption .. => .nothing

/-- What an operation answers. -/
inductive Answer where
  /-- Nothing but that it is done. -/
  | done
  /-- The policy. -/
  | policy (p : Policy)
  /-- The rule. -/
  | rule (r : Rule)
  /-- A number of exemptions. -/
  | count (n : Nat)
  /-- The exemption. -/
  | exemption (e : Exemption)
  /-- Whether something was there. -/
  | flag (b : Bool)

namespace Session

variable (g : Setting) (w : Weather)

/-- The steps of an operation. -/
def steps : Operation → Work Fault Answer
  | .createPolicy name targets => return .policy (← createPolicy w name targets)
  | .deletePolicy id => do
    deletePolicy w id
    return .done
  | .addRule policy r => return .rule (← addRule g w policy r)
  | .updateRule r => return .rule (← updateRule g w r)
  | .deleteRule id => return .count (← deleteRule w id)
  | .addExemption e => return .exemption (← addExemption w e)
  | .removeExemption rule device => return .flag (← removeExemption w rule device)

/-- Carries out an operation on the object that is passed to it. -/
def perform (op : Operation) (s : Session) : EStateM.Result Fault Session Answer :=
  steps g w op { s with passed := op.passed }

/-- The session after an operation, whatever has come of it. -/
def next (s : Session) (op : Operation) : Session :=
  match perform g w op s with
  | .ok _ s' => s'
  | .error _ s' => s'

/-- The session after operations in a row. -/
def after (s : Session) (ops : List Operation) : Session := ops.foldl (next g w) s

end Session

end ConfigAudit
