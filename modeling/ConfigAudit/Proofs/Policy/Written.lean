/-
# Policies as they are written

What is read of a document can be traced back to its entries: every policy and every rule to the
entry that it comes from, and every exemption to an item of the list that the entry of its rule
has.  The traces are kept in structures with the facts about them.

* `Value.excuses` : the items of the list of exemptions of an entry;
* `enterRule` : the first half of reading a rule, before its exemptions;
* `WrittenRule`, `WrittenPolicy` : rules and policies with the entries that they come from;
* `ofValue_written` : the policies and exemptions of a document;
* `ruleIds_of_accepted` : the ids of its rules.
-/
import ConfigAudit.Proofs.Policy.Numbering

namespace ConfigAudit

/-! ## Exemptions -/

/-- The items of the list of exemptions of an entry. -/
def Value.excuses (entry : Value) : Except ValueFault (List Value) :=
  (orEmpty ((entry.field? "exemptions").getD .null)).members

/-- An exemption is entered as it is. -/
theorem eq_add_of_enterExemption {r r' : Register} {x : Exemption}
    (h : enterExemption r x = .ok r') : r' = r.add x := by
  unfold enterExemption at h
  split at h
  · obtain ⟨_, _, h⟩ := bind_eq_ok_iff.1 h
    obtain ⟨_, _, h⟩ := bind_eq_ok_iff.1 h
    exact (Except.ok.inj h).symm
  · exact (Except.ok.inj h).symm

/-- Exemptions are read and entered one after the other. -/
theorem addExemptions_eq (rule : Value) (r : Register) (items : List Value) :
    addExemptions rule r items = items.foldlM
      (fun r item => exemptionOf rule item >>= fun x => liftM (enterExemption r x)) r := by
  induction items generalizing r with
  | nil => rfl
  | cons item items ih =>
      rw [addExemptions, List.foldlM_cons, bind_assoc]
      refine bind_congr fun x => bind_congr fun r' => ih r'

/-- Exemptions that are entered come from the items of a list, one from each. -/
theorem read_of_addExemptions {rule : Value} {r r' : Register} {items : List Value}
    (h : addExemptions rule r items = .ok r') :
    ∃ xs, List.Forall₂ (fun item x => exemptionOf rule item = .ok x) items xs ∧
      r' = xs.foldl Register.add r := by
  induction items generalizing r with
  | nil =>
      cases h
      exact ⟨[], .nil, rfl⟩
  | cons item items ih =>
      obtain ⟨x, hx, h⟩ := bind_eq_ok_iff.1 h
      obtain ⟨r₁, hr₁, h⟩ := bind_eq_ok_iff.1 h
      obtain ⟨xs, hxs, rfl⟩ := ih h
      obtain rfl := eq_add_of_enterExemption (lift_eq_ok_iff.1 hr₁)
      exact ⟨x :: xs, .cons hx hxs, rfl⟩

/-! ## Rules -/

/-- The first half of reading a rule: the rule, what is left of the pool of ids, and the policy
with the rule. -/
def enterRule (g : PolicyReading) (d : PolicyDraft) (p : Policy) (fields : List (Value × Value)) :
    Except Fault (Rule × IdPool × Policy) := do
  let (id, ids) ← d.ruleIds.allocate (Value.table fields).askedId
  let rule ← g.kinds.ruleOf (ruleEntry id fields)
  if g.validate then rule.validate g.setting
  let p ← p.add rule
  return (rule, ids, p)

/-- The other half of reading a rule is to read its exemptions. -/
theorem readRule_table (g : PolicyReading) (d : PolicyDraft) (p : Policy)
    (fields : List (Value × Value)) :
    readRule g d p (.table fields) = (do
      let (rule, ids, p') ← enterRule g d p fields
      let register ← addExemptions rule.id d.exemptions (← (Value.table fields).excuses)
      return ({ d with ruleIds := ids, exemptions := register }, p')) := by
  unfold readRule enterRule
  simp only [bind_assoc]
  change (d.ruleIds.allocate (Value.table fields).askedId >>= fun x => _) = _
  congr 1
  funext x
  congr 1
  funext rule
  -- with or without validation, what follows is the same
  split
  · simp only [bind_assoc, pure_bind]
    rfl
  · simp only [bind_assoc, pure_bind]
    rfl

/-- Rules are read one after the other. -/
theorem readRules_eq (g : PolicyReading) (d : PolicyDraft) (p : Policy) (entries : List Value) :
    readRules g d p entries = entries.foldlM (fun s entry => readRule g s.1 s.2 entry) (d, p) := by
  induction entries generalizing d p with
  | nil => rfl
  | cons entry entries ih =>
      rw [readRules, List.foldlM_cons]
      cases readRule g d p entry with
      | error f => rfl
      | ok s => exact ih s.1 s.2

/-- A rule that is entered has passed everything that is asked of it. -/
theorem enterRule_eq_ok {g : PolicyReading} {d : PolicyDraft} {p p' : Policy} {ids : IdPool}
    {fields : List (Value × Value)} {rule : Rule} (h : enterRule g d p fields = .ok (rule, ids, p')) :
    ∃ id, d.ruleIds.allocate (Value.table fields).askedId = .ok (id, ids) ∧
      g.kinds.ruleOf (ruleEntry id fields) = .ok rule ∧ p.add rule = .ok p' := by
  obtain ⟨⟨id, ids'⟩, hallocate, h⟩ := bind_eq_ok_iff.1 h
  obtain ⟨rule', hrule, h⟩ := bind_eq_ok_iff.1 h
  have hadd : ∃ p'', p.add rule' = .ok p'' ∧ (rule', ids', p'') = (rule, ids, p') := by
    split at h
    · obtain ⟨_, _, h⟩ := bind_eq_ok_iff.1 h
      obtain ⟨p'', hadd, h⟩ := bind_eq_ok_iff.1 h
      exact ⟨p'', hadd, Except.ok.inj h⟩
    · obtain ⟨p'', hadd, h⟩ := bind_eq_ok_iff.1 h
      exact ⟨p'', hadd, Except.ok.inj h⟩
  obtain ⟨p'', hadd, heq⟩ := hadd
  cases heq
  exact ⟨id, hallocate, hrule, hadd⟩

/-- A rule that has been read, with the entry that it comes from. -/
structure WrittenRule (g : PolicyReading) where
  /-- The fields of the entry. -/
  fields : List (Value × Value)
  /-- The id that the rule has been given. -/
  id : Int
  /-- The rule. -/
  rule : Rule
  /-- The items of the entry's list of exemptions. -/
  items : List Value
  /-- The exemptions from the rule. -/
  exemptions : List Exemption
  /-- The rule is built from the fields. -/
  built : g.kinds.ruleOf (ruleEntry id fields) = .ok rule
  /-- The items are those of the entry. -/
  listed : (Value.table fields).excuses = .ok items
  /-- Each item is an exemption from the rule. -/
  read : List.Forall₂ (fun item x => exemptionOf rule.id item = .ok x) items exemptions

namespace WrittenRule

variable {g : PolicyReading}

/-- The entry that a rule comes from. -/
def entry (w : WrittenRule g) : Value := .table w.fields

/-- A rule has the id that it has been given. -/
theorem rule_id (w : WrittenRule g) : w.rule.id = .int w.id := KindTable.id_of_ruleOf w.built

end WrittenRule

/-- No two rules of a policy have the same name. -/
def Policy.Named (p : Policy) : Prop :=
  p.rules.Pairwise fun r r' => Value.equal r.name r'.name = false

/-- Adding a rule keeps names apart. -/
theorem Policy.Named.add {p p' : Policy} {r : Rule} (hp : p.Named) (h : p.add r = .ok p') :
    p'.Named := by
  cases Policy.add_eq_ok h
  unfold Policy.add at h
  split at h
  · cases h
  · rename_i hnew
    have hothers : ∀ x ∈ p.rules, Value.equal x.name r.name = false := by
      simpa [find?, List.find?_eq_none] using hnew
    refine List.pairwise_append.2 ⟨hp, List.pairwise_singleton _ _, ?_⟩
    intro x hx y hy
    rw [List.mem_singleton.1 hy]
    exact hothers x hx

/-- A rule that is read comes from its entry. -/
theorem readRule_written {g : PolicyReading} {d d' : PolicyDraft} {p p' : Policy}
    {fields : List (Value × Value)} (h : readRule g d p (.table fields) = .ok (d', p')) :
    ∃ w : WrittenRule g, w.fields = fields ∧ p.add w.rule = .ok p' ∧
      d'.exemptions = w.exemptions.foldl Register.add d.exemptions := by
  rw [readRule_table] at h
  obtain ⟨⟨rule, ids, p''⟩, henter, h⟩ := bind_eq_ok_iff.1 h
  obtain ⟨items, hitems, h⟩ := bind_eq_ok_iff.1 h
  obtain ⟨register, hregister, h⟩ := bind_eq_ok_iff.1 h
  cases h
  obtain ⟨id, _, hbuilt, hadd⟩ := enterRule_eq_ok henter
  obtain ⟨xs, hxs, rfl⟩ := read_of_addExemptions hregister
  exact ⟨⟨fields, id, rule, items, xs, hbuilt, lift_eq_ok_iff.1 hitems, hxs⟩, rfl, hadd, rfl⟩

/-- Rules that are read come from their entries, in order. -/
theorem readRules_written {g : PolicyReading} {d d' : PolicyDraft} {p p' : Policy}
    {entries : List Value} (tables : ∀ e ∈ entries, ∃ es, e = .table es) (named : p.Named)
    (h : readRules g d p entries = .ok (d', p')) :
    ∃ ws : List (WrittenRule g), entries = ws.map WrittenRule.entry ∧
      p' = { p with rules := p.rules ++ ws.map WrittenRule.rule } ∧ p'.Named ∧
      d'.exemptions = (ws.flatMap WrittenRule.exemptions).foldl Register.add d.exemptions := by
  induction entries generalizing d p with
  | nil =>
      cases h
      exact ⟨[], rfl, by rw [List.map_nil, List.append_nil], named, rfl⟩
  | cons entry rest ih =>
      obtain ⟨⟨fields, rfl⟩, tablesRest⟩ := List.forall_mem_cons.1 tables
      obtain ⟨⟨d₁, p₁⟩, hfirst, hothers⟩ := bind_eq_ok_iff.1 h
      obtain ⟨w, rfl, hadd, hentered⟩ := readRule_written hfirst
      obtain ⟨ws, rfl, hp', named', hentered'⟩ := ih tablesRest (named.add hadd) hothers
      refine ⟨w :: ws, rfl, ?_, named', ?_⟩
      · rw [hp', Policy.add_eq_ok hadd, List.append_assoc, List.map_cons, List.singleton_append]
      · rw [List.flatMap_cons, List.foldl_append, ← hentered]
        exact hentered'

/-! ## Policies -/

/-- A policy that has been read, with the entry that it comes from. -/
structure WrittenPolicy (g : PolicyReading) where
  /-- The entry. -/
  entry : Value
  /-- The policy. -/
  policy : Policy
  /-- Its rules, with their entries. -/
  rules : List (WrittenRule g)
  /-- It is named as the entry says. -/
  named : entry.get "name" = .ok policy.name
  /-- It is for the groups that the entry names. -/
  targeted : ∃ v, entry.get "target_groups" = .ok v ∧ (orEmpty v).memberSet = .ok policy.targets
  /-- The entries of its rules are those that the entry lists. -/
  listed : ConfigAudit.listed "rules" entry = .ok (rules.map WrittenRule.entry)
  /-- Its rules come from these. -/
  members : policy.rules = rules.map WrittenRule.rule
  /-- They have different names. -/
  distinct : policy.Named

/-- The exemptions from the rules of a policy. -/
def WrittenPolicy.exemptions {g : PolicyReading} (w : WrittenPolicy g) : List Exemption :=
  w.rules.flatMap WrittenRule.exemptions

/-- A policy that is read comes from its entry. -/
theorem readPolicy_written {g : PolicyReading} {d d' : PolicyDraft} {p : Policy} {entry : Value}
    {rules : List Value} (members : listed "rules" entry = .ok rules)
    (tables : ∀ e ∈ rules, ∃ es, e = .table es) (h : readPolicy g d entry = .ok (d', p)) :
    ∃ w : WrittenPolicy g, w.entry = entry ∧ w.policy = p ∧
      d'.exemptions = w.exemptions.foldl Register.add d.exemptions := by
  obtain ⟨name, hname, h⟩ := bind_eq_ok_iff.1 h
  split at h
  · obtain ⟨_, hthrow, _⟩ := bind_eq_ok_iff.1 h
    cases hthrow
  · obtain ⟨_, _, h⟩ := bind_eq_ok_iff.1 h
    obtain ⟨⟨id, pool⟩, _, h⟩ := bind_eq_ok_iff.1 h
    obtain ⟨groups, hgroups, h⟩ := bind_eq_ok_iff.1 h
    obtain ⟨targets, htargets, h⟩ := bind_eq_ok_iff.1 h
    obtain ⟨entries, hentries, h⟩ := bind_eq_ok_iff.1 h
    cases members.symm.trans (lift_eq_ok_iff.1 hentries)
    have none : Policy.Named ⟨.int id, name, targets, []⟩ := List.Pairwise.nil
    obtain ⟨ws, rfl, rfl, named, hentered⟩ := readRules_written tables none h
    exact ⟨⟨entry, _, ws, lift_eq_ok_iff.1 hname,
      ⟨groups, lift_eq_ok_iff.1 hgroups, lift_eq_ok_iff.1 htargets⟩, members, rfl, named⟩,
      rfl, rfl, hentered⟩

/-- Policies that are read come from their entries, in order. -/
theorem readPolicies_written {g : PolicyReading} {d d' : PolicyDraft} {policies : List Policy}
    {entries rules : List Value} (members : rulesOf entries = .ok rules)
    (tables : ∀ e ∈ rules, ∃ es, e = .table es)
    (h : readPolicies g d entries = .ok (d', policies)) :
    ∃ ws : List (WrittenPolicy g), entries = ws.map WrittenPolicy.entry ∧
      policies = ws.map WrittenPolicy.policy ∧
      d'.exemptions = (ws.flatMap WrittenPolicy.exemptions).foldl Register.add d.exemptions := by
  induction entries generalizing d policies rules with
  | nil =>
      cases h
      exact ⟨[], rfl, rfl, rfl⟩
  | cons entry rest ih =>
      obtain ⟨here, hhere, members⟩ := bind_eq_ok_iff.1 members
      obtain ⟨there, hthere, members⟩ := bind_eq_ok_iff.1 members
      cases members
      obtain ⟨tablesHere, tablesThere⟩ := List.forall_mem_append.1 tables
      obtain ⟨⟨d₁, p⟩, hfirst, h⟩ := bind_eq_ok_iff.1 h
      obtain ⟨⟨d₂, policies'⟩, hothers, h⟩ := bind_eq_ok_iff.1 h
      cases h
      obtain ⟨w, rfl, rfl, hentered⟩ :=
        readPolicy_written hhere tablesHere (inPolicy_eq_ok_iff.1 hfirst)
      obtain ⟨ws, rfl, rfl, hentered'⟩ := ih hthere tablesThere hothers
      refine ⟨w :: ws, rfl, rfl, ?_⟩
      rw [List.flatMap_cons, List.foldl_append, ← hentered]
      exact hentered'

/-- **Documents as they are written.**  The policies and rules of an accepted document come from
its entries, in order, and its exemptions from the lists of the rules. -/
theorem PolicySet.ofValue_written {g : PolicyReading} {data : Value} {set : PolicySet}
    (h : ofValue g data = .ok set) :
    ∃ ws : List (WrittenPolicy g),
      data.field? "policies" = some (.list (ws.map WrittenPolicy.entry)) ∧
      set.policies = ws.map WrittenPolicy.policy ∧
      set.exemptions = Register.ofList (ws.flatMap WrittenPolicy.exemptions) := by
  unfold ofValue at h
  split at h
  · rename_i entries hentries
    obtain ⟨d, hdraft, h⟩ := bind_eq_ok_iff.1 h
    obtain ⟨⟨d', policies⟩, hread, h⟩ := bind_eq_ok_iff.1 h
    cases h
    obtain ⟨rules, hrules, hdraft⟩ := bind_eq_ok_iff.1 (inDocument_eq_ok_iff.1 hdraft)
    obtain ⟨_, _, hdraft⟩ := bind_eq_ok_iff.1 hdraft
    obtain ⟨wanted, hwanted, hdraft⟩ := bind_eq_ok_iff.1 hdraft
    cases hdraft
    obtain ⟨ws, rfl, hpolicies, hentered⟩ :=
      readPolicies_written hrules (idsOf_eq_ok hwanted).1 hread
    exact ⟨ws, hentries, hpolicies, hentered⟩
  · cases h

/-- The rules of an accepted document have different integers as ids. -/
theorem PolicySet.ruleIds_of_accepted {g : PolicyReading} {data : Value} {set : PolicySet}
    (h : ofValue g data = .ok set) : ∃ ids : List Int,
      (set.policies.flatMap Policy.rules).map Rule.id = ids.map Value.int ∧ ids.Nodup := by
  obtain ⟨_, _, _, _, _, ids, _, hids, _, hnumbered⟩ := numbering_of_accepted h
  exact ⟨ids, hids, hnumbered.distinct⟩

end ConfigAudit
