/-
# Catalogues of policies

Rules are shared: the same rule can be listed by a policy, taken out of it and listed by another.
A catalogue keeps rules and policies under numbers, and remembers for each rule the policy that
it was last added to.

* `Catalogue.addRule`, `Catalogue.removeRule` : membership;
* `Catalogue.dismiss` : removal with the exemptions of the rule;
* `Catalogue.policy?` : a policy with its rules.
-/
import ConfigAudit.Policy.Basic

namespace ConfigAudit

/-- A rule with the policy that it belongs to. -/
structure OwnedRule where
  /-- The rule. -/
  rule : Rule
  /-- The number of its policy. -/
  owner : Option Nat

/-- A policy that lists its rules by number. -/
structure RuleList where
  /-- The policy's id. -/
  id : Value
  /-- The policy's name. -/
  name : Value
  /-- The groups that the policy is for. -/
  targets : List Value
  /-- The numbers of its rules. -/
  members : List Nat

/-- Rules and policies under their numbers. -/
structure Catalogue where
  /-- The rules. -/
  rules : Array OwnedRule
  /-- The policies. -/
  policies : Array RuleList

namespace Catalogue

/-- The empty catalogue. -/
def empty : Catalogue := ⟨#[], #[]⟩

/-- The rule of a number. -/
def rule? (c : Catalogue) (r : Nat) : Option Rule := (c.rules[r]?).map (·.rule)

/-- The policy that a rule belongs to. -/
def owner? (c : Catalogue) (r : Nat) : Option Nat := (c.rules[r]?).bind (·.owner)

/-- The numbers of the rules that a policy lists. -/
def members (c : Catalogue) (p : Nat) : List Nat := ((c.policies[p]?).map (·.members)).getD []

/-- A policy with its rules. -/
def policy? (c : Catalogue) (p : Nat) : Option Policy :=
  (c.policies[p]?).map fun l => ⟨l.id, l.name, l.targets, l.members.filterMap c.rule?⟩

/-- Enters a rule that belongs to no policy. -/
def enterRule (c : Catalogue) (r : Rule) : Catalogue × Nat :=
  ({ c with rules := c.rules.push ⟨r, none⟩ }, c.rules.size)

/-- Enters a policy without rules. -/
def enterPolicy (c : Catalogue) (id name : Value) (targets : List Value) : Catalogue × Nat :=
  ({ c with policies := c.policies.push ⟨id, name, targets, []⟩ }, c.policies.size)

/-- Changes a rule in its place. -/
def changeRule (c : Catalogue) (r : Nat) (f : Rule → Rule) : Catalogue :=
  { c with rules := c.rules.modify r fun o => { o with rule := f o.rule } }

/-- Says which policy a rule belongs to. -/
def setOwner (c : Catalogue) (r : Nat) (p : Option Nat) : Catalogue :=
  { c with rules := c.rules.modify r fun o => { o with owner := p } }

/-- Replaces the rules that a policy lists. -/
def setMembers (c : Catalogue) (p : Nat) (members : List Nat) : Catalogue :=
  { c with policies := c.policies.modify p fun l => { l with members := members } }

/-- The name of a rule. -/
def ruleName (c : Catalogue) (r : Nat) : Value := ((c.rule? r).map (·.name)).getD .null

/-- Adds a rule to a policy; names are not used twice. -/
def addRule (c : Catalogue) (p r : Nat) : Except Fault Catalogue :=
  let name := c.ruleName r
  if (c.members p).any fun m => Value.equal (c.ruleName m) name then
    .error (Fault.duplicateRule (((c.policies[p]?).map (·.name)).getD .null) name).worded
  else .ok ((c.setOwner r (some p)).setMembers p (c.members p ++ [r]))

/-- Whether a listed rule is the one to be removed, or is the same and has the same name. -/
def isMember (c : Catalogue) (r m : Nat) : Bool :=
  m == r || match c.rule? m, c.rule? r with
    | some a, some b => a.same b && Value.equal a.name b.name
    | _, _ => false

/-- Removes a rule from a policy, and answers the number of the rule that was listed. -/
def removeRule (c : Catalogue) (p r : Nat) : Catalogue × Option Nat :=
  match (c.members p).find? (c.isMember r) with
  | none => (c, none)
  | some m =>
    let rest := (c.members p).eraseP (c.isMember r)
    ((c.setOwner m none).setMembers p rest, some m)

/-- Removes a rule from a policy, with its exemptions in a register if one is given, and answers
the number of the rule that was listed. -/
def dismiss (c : Catalogue) (p r : Nat) (register : Option Register) :
    Catalogue × Option Register × Option Nat :=
  match c.removeRule p r with
  | (c, none) => (c, register, none)
  | (c, some m) =>
    (c, register.map fun x => (c.rule? m).elim x fun rule => (x.clearRule rule.id).1, some m)

end Catalogue

end ConfigAudit
