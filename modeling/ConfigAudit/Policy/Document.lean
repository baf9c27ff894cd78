/-
# Documents of policies

A document lists policies with their rules, and for each rule the devices that are exempted from
it.  Rules are validated while they are read, so that mistakes show before an audit.

* `PolicySet` : the policies and exemptions of a document;
* `PolicySet.ofValue` : reads a document.
-/
import ConfigAudit.Policy.Ids
import ConfigAudit.Policy.Basic
import ConfigAudit.Rule.Validate

namespace ConfigAudit

/-- Policies and exemptions. -/
structure PolicySet where
  /-- The policies. -/
  policies : List Policy
  /-- The exemptions. -/
  exemptions : Register

/-- What reading a document depends on. -/
structure PolicyReading where
  /-- The kinds of rules. -/
  kinds : KindTable
  /-- Whether rules are validated. -/
  validate : Bool
  /-- What validation depends on. -/
  setting : Setting

/-- How far the reading of a document has come. -/
structure PolicyDraft where
  /-- The ids of policies. -/
  policyIds : IdPool
  /-- The ids of rules. -/
  ruleIds : IdPool
  /-- The exemptions. -/
  exemptions : Register

/-! ## Faults of entries -/

/-- What is wrong with an entry, if a fault is about its values. -/
def Fault.complaint? : Fault → Option String
  | .value f => match f.family with
    | .key => some ("missing field " ++ f.message)
    | .kind | .value | .attribute => some f.message
    | .overflow | .index => none
  | .moment s f => some (f.message s)
  | .pattern .flagConflict => some (Pattern.Fault.message .flagConflict)
  | .pattern (.countLength n) => some (Pattern.Fault.message (.countLength n))
  | .patternKind => some (Fault.message .patternKind)
  | .bytesPattern => some (Fault.message .bytesPattern)
  | .encoding f => some f.message
  | .halves f => some f.message
  | _ => none

/-- The name of an entry, if it has one. -/
def nameOf (entry : Value) : Value := (entry.field? "name").getD .null

/-- Names the policy that a fault is found in. -/
def inPolicy {α : Type} (entry : Value) : Except Fault α → Except Fault α
  | .ok a => .ok a
  | .error f => match f.complaint? with
    | some cause => .error (Fault.run (.invalidPolicy (nameOf entry) cause)).worded
    | none => .error f

/-! ## Entries -/

/-- The value, or an empty list in the place of one that is not set. -/
def orEmpty (v : Value) : Value := if v.truthy then v else .list []

/-- The members under a name that may be missing. -/
def listed (name : String) (entry : Value) : Except ValueFault (List Value) := do
  (orEmpty (← entry.get name)).members

/-- An exemption from a rule. -/
def exemptionOf (rule : Value) (entry : Value) : Except Fault Exemption := do
  let device ← (← entry.index "device_id").toInteger
  return ⟨rule, .int device, ← readExpiry (← entry.get "expiration_date")⟩

/-- Enters an exemption; if it takes the place of another one, its ids are written down. -/
def enterExemption (register : Register) (e : Exemption) : Except ValueFault Register := do
  if (register.find? e.rule e.device).isSome then
    discard e.rule.spell
    discard e.device.spell
  return register.add e

/-- Adds the exemptions from a rule. -/
def addExemptions (rule : Value) : Register → List Value → Except Fault Register
  | register, [] => .ok register
  | register, entry :: rest => do
    let e ← exemptionOf rule entry
    addExemptions rule (← enterExemption register e) rest

/-- Puts an id into a rule's entry, and takes its exemptions out. -/
def ruleEntry (id : Int) (entries : List (Value × Value)) : Value :=
  .table (Value.put (.text "id") (.int id) (Value.without (.text "exemptions") entries))

/-- Reads a rule and adds it to a policy. -/
def readRule (g : PolicyReading) (d : PolicyDraft) (p : Policy) (entry : Value) :
    Except Fault (PolicyDraft × Policy) := do
  let entries ← entry.toEntries
  let exemptions := orEmpty ((Value.lookup (.text "exemptions") entries).getD .null)
  let (id, ids) ← d.ruleIds.allocate ((Value.lookup (.text "id") entries).getD .null)
  let rule ← g.kinds.ruleOf (ruleEntry id entries)
  if g.validate then rule.validate g.setting
  let p ← p.add rule
  let register ← addExemptions rule.id d.exemptions (← exemptions.members)
  return ({ d with ruleIds := ids, exemptions := register }, p)

/-- Reads rules one after the other. -/
def readRules (g : PolicyReading) : PolicyDraft → Policy → List Value →
    Except Fault (PolicyDraft × Policy)
  | d, p, [] => .ok (d, p)
  | d, p, entry :: rest => do
    let (d, p) ← readRule g d p entry
    readRules g d p rest

/-- Reads a policy. -/
def readPolicy (g : PolicyReading) (d : PolicyDraft) (entry : Value) :
    Except Fault (PolicyDraft × Policy) := do
  let name ← entry.get "name"
  if !name.truthy then throw (.run .namelessPolicy)
  let (id, ids) ← d.policyIds.allocate (← entry.get "id")
  let targets ← (orEmpty (← entry.get "target_groups")).memberSet
  readRules g { d with policyIds := ids } ⟨.int id, name, targets, []⟩ (← listed "rules" entry)

/-- Reads policies one after the other. -/
def readPolicies (g : PolicyReading) : PolicyDraft → List Value →
    Except Fault (PolicyDraft × List Policy)
  | d, [] => .ok (d, [])
  | d, entry :: rest => do
    let (d, p) ← inPolicy entry (readPolicy g d entry)
    let (d, ps) ← readPolicies g d rest
    return (d, p :: ps)

/-! ## Documents -/

/-- The ids that entries ask for, up to the first fault. -/
def idsOf : List Value → Except ValueFault (List Int)
  | [] => .ok []
  | entry :: rest => do
    let here ← IdPool.asked (← entry.get "id")
    return here ++ (← idsOf rest)

/-- The rules of all entries. -/
def rulesOf : List Value → Except ValueFault (List Value)
  | [] => .ok []
  | entry :: rest => do
    let here ← listed "rules" entry
    return here ++ (← rulesOf rest)

/-- Learns the ids of a document. -/
def draft (entries : List Value) : Except ValueFault PolicyDraft := do
  let rules ← rulesOf entries
  let policyIds ← idsOf entries
  return ⟨.make "policy" policyIds, .make "rule" (← idsOf rules), .empty⟩

/-- Names the document as the place of a fault. -/
def inDocument {α : Type} : Except ValueFault α → Except Fault α
  | .ok a => .ok a
  | .error f => match f.family with
    | .kind | .value | .attribute => .error (.run (.invalidPolicies f.message))
    | .key | .overflow | .index => .error (.value f)

/-- Reads a document of policies. -/
def PolicySet.ofValue (g : PolicyReading) (data : Value) : Except Fault PolicySet :=
  match data.field? "policies" with
  | some (.list entries) => do
    let d ← inDocument (draft entries)
    let (d, policies) ← readPolicies g d entries
    return ⟨policies, d.exemptions⟩
  | _ => .error (.run .noPolicies)

/-- Names the file as the place of a rule's defect. -/
def inRuleFile {α : Type} (path : String) : Except Fault α → Except Fault α
  | .error (.rule defect name) => .error (Fault.rule (.inFile path name defect) name).worded
  | r => r

end ConfigAudit
