/-
# Rows and what they stand for

A row is made of a rule or of the parts of a policy before it is written, and policies, rules and
exemptions are built of rows again when they are loaded.  A stored rule that cannot be rebuilt does
not keep the others from being loaded: it is loaded as one that cannot be evaluated.

* `Store.newPolicyRow`, `Store.ruleRow` : rows that can be written;
* `Store.policyOfRow`, `Store.ruleOfRow`, `Store.exemptionOfRow` : what rows stand for;
* `Store.policiesOf`, `Store.registerOf` : the policies and the exemptions of a store.
-/
import ConfigAudit.Exemption.Register
import ConfigAudit.Policy.Basic
import ConfigAudit.Rule.Validate
import ConfigAudit.Store.Document

namespace ConfigAudit

namespace Store

/-! ## Rows -/

/-- The policy of an id. -/
def policy? (s : Store) (id : Int) : Option PolicyRow := s.policies.find? (·.id == id)

/-- The rule of an id. -/
def rule? (s : Store) (id : Int) : Option RuleRow := s.rules.find? (·.id == id)

/-- The rules of a policy. -/
def rulesOf (s : Store) (policy : Int) : List RuleRow := s.rules.filter (·.policy == policy)

/-- Whether a policy has a rule of a name; a rule without a name is none of them. -/
def hasRuleNamed (s : Store) (policy : Int) (name : Option String) : Bool :=
  s.rules.any fun r => r.policy == policy && some r.name == name

/-- The row of a new policy; its name is not in use yet. -/
def newPolicyRow (s : Store) (name : Value) (targets : List Value) :
    Except DatabaseFault PolicyRow := do
  let targets ← storedForm (.list targets)
  match ← columnText? name with
  | some name =>
    if s.policies.any (·.name == name) then throw (.integrity "")
    return ⟨nextId (s.policies.map (·.id)), name, targets⟩
  | none => throw (.integrity "")

/-- The row of a rule under an id. -/
def ruleRow (id policy : Int) (r : Rule) : Except DatabaseFault RuleRow := do
  let definition ← storedForm r.definition
  match ← columnText? r.name with
  | some name => return ⟨id, policy, name, r.body.tag, r.enabled.truthy, definition⟩
  | none => throw (.integrity "")

/-- Puts a row in the place of the one with its id. -/
def replaceRule (row : RuleRow) (rows : List RuleRow) : List RuleRow :=
  rows.map fun r => if r.id == row.id then row else r

/-- Whether a row is for a pair of a rule and a device. -/
def isRowFor (rule device : Int) (e : ExemptionRow) : Bool := e.rule == rule && e.device == device

/-- Enters a row, in the place of the one for the same pair. -/
def enterRow (row : ExemptionRow) : List ExemptionRow → List ExemptionRow
  | [] => [row]
  | e :: rest => if isRowFor row.rule row.device e then row :: rest else e :: enterRow row rest

/-! ## What rows stand for -/

/-- The policy of a row, without rules. -/
def policyOfRow (p : PolicyRow) : Except ValueFault Policy := do
  return ⟨.int p.id, .text p.name, ← (if p.targets.truthy then p.targets else .list []).memberSet, []⟩

/-- The document of a stored rule: its definition, with what its row says. -/
def documentOf (r : RuleRow) : Except ValueFault Value := do
  let entries ← if r.definition.truthy then
      match r.definition with
      | .table es => pure es
      | v => throw (.notMapping v.kind)
    else pure []
  return .table <| Value.put (.text "enabled") (.flag r.enabled) <|
    Value.put (.text "name") (.text r.name) <| Value.put (.text "id") (.int r.id) <|
    Value.put (.text "type") (.text r.tag) entries

/-- The rule of a row, rebuilt; one that cannot be rebuilt says why. -/
def ruleOfRow (kinds : KindTable) (r : RuleRow) : Except Fault Rule := do
  let data ← documentOf r
  match kinds.ruleOf data with
  | .ok rule => return rule
  | .error f =>
    if f.stopsAudit then
      return ⟨.int r.id, .text r.name, .flag r.enabled, .standIn (.text f.message)⟩
    else throw f

/-- Adds the rules of rows to a policy. -/
def addRows (kinds : KindTable) (p : Policy) : List RuleRow → Except Fault Policy
  | [] => .ok p
  | r :: rest => do addRows kinds (← p.add (← ruleOfRow kinds r)) rest

/-- The policies of rows with their rules. -/
def policiesOfRows (kinds : KindTable) (s : Store) : List PolicyRow → Except Fault (List Policy)
  | [] => .ok []
  | row :: rest => do
    let p ← addRows kinds (← policyOfRow row) (s.rulesOf row.id)
    return p :: (← policiesOfRows kinds s rest)

/-- The exemption of a row. -/
def exemptionOfRow (e : ExemptionRow) : Exemption := ⟨.int e.rule, .int e.device, e.expiry⟩

/-! ## Rows of some ids -/

/-- The integers that values mean in a column of integers. -/
def columnIntegers : List Value → Except DatabaseFault (List Int)
  | [] => .ok []
  | v :: rest => do
    let n ← columnInteger? v
    return n.toList ++ (← columnIntegers rest)

/-- The ids that rows are restricted to, if any.  A query carries all of them, and a database may
limit how many values a query carries. -/
def restriction (limit : Option Nat) (ids : Option (List Value)) :
    Except DatabaseFault (Option (List Int)) :=
  match ids with
  | none => .ok none
  | some ids =>
    if limit.any (· < ids.length) then .error .tooManyValues else (columnIntegers ids).map some

/-- Whether an id is among those that rows are restricted to. -/
def isSelected (ids : Option (List Int)) (id : Int) : Bool := ids.all (·.contains id)

/-- The policies with their rules, all or those of some ids. -/
def policiesOf (s : Store) (kinds : KindTable) (ids : Option (List Int)) :
    Except Fault (List Policy) :=
  policiesOfRows kinds s (s.policies.filter fun p => isSelected ids p.id)

/-- The exemptions, all or those of some devices. -/
def registerOf (s : Store) (devices : Option (List Int)) : Register :=
  .ofList ((s.exemptions.filter fun e => isSelected devices e.device).map exemptionOfRow)

end Store

end ConfigAudit
