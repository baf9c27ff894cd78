/-
# Stored policies

* `Session.createPolicy`, `Session.deletePolicy` : changes;
* `Session.loadPolicies` : policies with their rules.

A policy that has been created is read back from its row.
-/
import ConfigAudit.Store.Session

namespace ConfigAudit

namespace Session

variable (w : Weather)

/-- Finds the policy of an id. -/
def findPolicy (id : Value) : Work Fault PolicyRow := do
  let key ← reporting (fun f => ((StoreTask.loadPolicy id).report f).worded) do
    reach w .get
    answer (columnInteger? id)
  match key.bind (← read).policy? with
  | some p => return p
  | none => throw (.storage (.policyNotFound id))

/-- Creates a policy without rules. -/
def createPolicy (name targets : Value) : Work Fault Policy := do
  let groups ← answer (liftM (storedTargets targets))
  let _ ← answer (liftM name.spell)
  undoing (StoreTask.createPolicy name).report do
    defer (.newPolicy name groups)
    commit w
  let s ← read
  answer (liftM (Store.policyOfRow (s.policies.getLastD ⟨0, "", .null⟩)))

/-- Defers that rules go, and deletes their exemptions. -/
def dropRules : List RuleRow → Work DatabaseFault Unit
  | [] => return ()
  | r :: rest => do
    discard (dropExemptions w r.id)
    defer (.deletedRule r.id)
    dropRules rest

/-- Deletes a policy with its rules and their exemptions. -/
def deletePolicy (id : Value) : Work Fault Unit := do
  let p ← findPolicy w id
  undoing (StoreTask.deletePolicy id).report do
    dropRules w ((← read).rulesOf p.id)
    defer (.deletedPolicy p.id)
    commit w

/-- Loads policies with their rules, all or those of some ids. -/
def loadPolicies (kinds : KindTable) (limit : Option Nat) (ids : Option (List Value)) :
    Work Fault (List Policy) := do
  let ids ← reporting StoreTask.loadPolicies.report do
    reach w .query
    answer (Store.restriction limit ids)
  let s ← read
  answer (s.policiesOf kinds ids)

end Session

end ConfigAudit
