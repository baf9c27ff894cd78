/-
# Stored rules

* `Session.addRule`, `Session.updateRule`, `Session.deleteRule` : changes;
* `Session.insertRow` : the row of a rule, stored as another program might do.

Rules are validated before they are stored, and no two rules of a policy have the same name.
-/
import ConfigAudit.Store.Policies

namespace ConfigAudit

namespace Session

variable (g : Setting) (w : Weather)

/-- Finds the rule of an id. -/
def findRule (id : Value) : Work Fault RuleRow := do
  let key ← reporting (fun f => ((StoreTask.loadRule id).report f).worded) do
    reach w .get
    answer (columnInteger? id)
  match key.bind (← read).rule? with
  | some r => return r
  | none => throw (.storage (.ruleNotFound id))

/-- Refuses a name that a rule of the policy has. -/
def checkName (policy : Option PolicyRow) (name : Value) : Work Fault Unit := do
  reporting .database (reach w .query)
  match policy with
  | none => throw (.value (.noOperation "NoneType" "id"))
  | some p =>
    let name' ← reporting .database (answer (columnText? name))
    if (← read).hasRuleNamed p.id name' then throw (.duplicateRule (.text p.name) name)

/-- Gives the rule that has been passed its id. -/
def assignId (id : Int) : Work Fault Unit := fun s =>
  match s.passed with
  | .rule r => .ok () { s with passed := .rule { r with id := .int id } }
  | _ => .ok () s

/-- The id of the rule that came last. -/
def lastRuleId (s : Store) : Int := (s.rules.map (·.id)).getLastD 0

/-- Stores a new rule of a policy; the answer is the rule with the id that it received. -/
def addRule (policy : Value) (r : Rule) : Work Fault Rule := do
  let p ← findPolicy w policy
  answer (r.validate g)
  checkName w p r.name
  undoing ((StoreTask.saveRule r.name).reportTwice p r.name) do
    defer (.newRule p.id r)
    commit w
  let id := lastRuleId (← read)
  assignId id
  return { r with id := .int id }

/-- Stores a changed rule. -/
def updateRule (r : Rule) : Work Fault Rule := do
  let old ← findRule w r.id
  let p := (← read).policy? old.policy
  answer (r.validate g)
  if !Value.equal r.name (.text old.name) then checkName w p r.name
  defer (.changedRule old.id old.policy r)
  undoing ((StoreTask.updateRule r.id).reportTwice p r.name) (commit w)
  return r

/-- Deletes a rule with its exemptions, and counts them. -/
def deleteRule (id : Value) : Work Fault Nat := do
  let r ← findRule w id
  undoing (StoreTask.deleteRule id).report do
    let n ← dropExemptions w r.id
    defer (.deletedRule r.id)
    commit w
    return n

/-- Stores the row of a rule as another program might do. -/
def insertRow (policy name tag enabled definition : Value) : Work Fault Int := do
  undoing .database do
    defer (.foreignRule policy name tag enabled definition)
    commit w
  return lastRuleId (← read)

end Session

end ConfigAudit
