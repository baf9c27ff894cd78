/-
# The ids of a document

Policies and rules are read in the order of the document, and each of them takes its id from the
pool of its kind.  So what is known about pools holds for the ids of a whole document.

* `KindTable.id_of_ruleOf` : a rule has the id that was put into its entry;
* `readRules_handed`, `readPolicies_handed` : readers take ids in the order of the entries;
* `ofValue_numbers` : the ids of the policies and rules of a document.
-/
import Mathlib
import ConfigAudit.Policy.Document
import ConfigAudit.Proofs.Policy.Ids
import ConfigAudit.Proofs.Rule.Built
import ConfigAudit.Proofs.Store.Change
import ConfigAudit.Proofs.Value.Texts

namespace ConfigAudit

/-! ## Entries -/

namespace Value

/-- The id that an entry asks for; nothing if it has none. -/
def askedId (entry : Value) : Value := (entry.field? "id").getD .null

/-- Only tables can be asked for an id. -/
theorem get_id_eq_ok_iff {entry v : Value} :
    entry.get "id" = .ok v ↔ (∃ es, entry = .table es) ∧ v = entry.askedId := by
  constructor
  · intro h
    cases entry with
    | table es =>
        cases h
        exact ⟨⟨es, rfl⟩, rfl⟩
    | _ => cases h
  · rintro ⟨⟨es, rfl⟩, rfl⟩
    rfl

end Value

/-- The ids that are learned from entries are the ones that they ask for, and all entries are
tables. -/
theorem idsOf_eq_ok {entries : List Value} {wanted : List Int} (h : idsOf entries = .ok wanted) :
    (∀ e ∈ entries, ∃ es, e = .table es) ∧
      ∀ n, n ∈ wanted ↔ Wanted (entries.map Value.askedId) n := by
  induction entries generalizing wanted with
  | nil =>
      cases h
      exact ⟨fun _ he => (List.not_mem_nil he).elim, fun n => by simp [Wanted]⟩
  | cons entry rest ih =>
      obtain ⟨v, hv, h⟩ := bind_eq_ok_iff.1 h
      obtain ⟨here, hhere, h⟩ := bind_eq_ok_iff.1 h
      obtain ⟨there, hthere, h⟩ := bind_eq_ok_iff.1 h
      cases h
      obtain ⟨htable, rfl⟩ := Value.get_id_eq_ok_iff.1 hv
      obtain ⟨htables, hwanted⟩ := ih hthere
      have hmine : ∀ n, n ∈ here ↔ entry.askedId.AsksFor n := by
        intro n
        unfold IdPool.asked at hhere
        split at hhere
        · rename_i ht
          obtain ⟨k, hk, hpure⟩ := bind_eq_ok_iff.1 hhere
          cases hpure
          simp [Value.AsksFor, ht, hk, eq_comm]
        · rename_i ht
          cases hhere
          simp [Value.AsksFor, ht]
      refine ⟨List.forall_mem_cons.2 ⟨htable, htables⟩, ?_⟩
      intro n
      rw [List.mem_append, hmine, hwanted]
      simp [Wanted]

/-! ## Rules -/

/-- A rule that is built from an entry has the id of the entry. -/
theorem KindTable.id_of_ruleOf {t : KindTable} {id : Int} {es : List (Value × Value)} {r : Rule}
    (h : t.ruleOf (ruleEntry id es) = .ok r) : r.id = .int id := by
  obtain ⟨k, _, hbuild⟩ := kind_of_ruleOf h
  obtain ⟨es', n, hentry, hid, rfl⟩ := Kind.exists_of_build hbuild
  cases hentry
  rw [Kind.idOf_of_int (Value.lookup_put_text "id" _ _)] at hid
  cases hid
  rfl

/-- A rule is added behind the others. -/
theorem Policy.add_eq_ok {p p' : Policy} {r : Rule} (h : p.add r = .ok p') :
    p' = { p with rules := p.rules ++ [r] } := by
  unfold add at h
  split at h
  · cases h
  · exact (Except.ok.inj h).symm

/-- A rule takes its id from the pool of rules. -/
theorem readRule_handed {g : PolicyReading} {d d' : PolicyDraft} {p p' : Policy}
    {es : List (Value × Value)} (h : readRule g d p (.table es) = .ok (d', p')) :
    ∃ id r, r.id = .int id ∧ d.ruleIds.allocate (Value.table es).askedId = .ok (id, d'.ruleIds) ∧
      d'.policyIds = d.policyIds ∧ p' = { p with rules := p.rules ++ [r] } := by
  obtain ⟨entries, hentries, h⟩ := bind_eq_ok_iff.1 h
  cases lift_eq_ok_iff.1 hentries
  obtain ⟨⟨id, ids⟩, hallocate, h⟩ := bind_eq_ok_iff.1 h
  obtain ⟨r, hr, h⟩ := bind_eq_ok_iff.1 h
  have hrest : ∃ p'' register, p.add r = .ok p'' ∧
      ({ d with ruleIds := ids, exemptions := register }, p'') = (d', p') := by
    split at h
    · obtain ⟨_, _, h⟩ := bind_eq_ok_iff.1 h
      obtain ⟨p'', hadd, h⟩ := bind_eq_ok_iff.1 h
      obtain ⟨_, _, h⟩ := bind_eq_ok_iff.1 h
      obtain ⟨register, _, h⟩ := bind_eq_ok_iff.1 h
      exact ⟨p'', register, hadd, Except.ok.inj h⟩
    · obtain ⟨p'', hadd, h⟩ := bind_eq_ok_iff.1 h
      obtain ⟨_, _, h⟩ := bind_eq_ok_iff.1 h
      obtain ⟨register, _, h⟩ := bind_eq_ok_iff.1 h
      exact ⟨p'', register, hadd, Except.ok.inj h⟩
  obtain ⟨p'', register, hadd, heq⟩ := hrest
  cases heq
  exact ⟨id, r, KindTable.id_of_ruleOf hr, hallocate, rfl, Policy.add_eq_ok hadd⟩

/-- Rules take their ids from the pool of rules in order. -/
theorem readRules_handed {g : PolicyReading} {d d' : PolicyDraft} {p p' : Policy}
    {entries : List Value} (tables : ∀ e ∈ entries, ∃ es, e = .table es)
    (h : readRules g d p entries = .ok (d', p')) :
    ∃ ids rules, rules.map Rule.id = ids.map Value.int ∧
      p' = { p with rules := p.rules ++ rules } ∧ d'.policyIds = d.policyIds ∧
      IdPool.Handed d.ruleIds (entries.map Value.askedId) ids d'.ruleIds := by
  induction entries generalizing d p with
  | nil =>
      cases h
      exact ⟨[], [], rfl, by rw [List.append_nil], rfl, .nil _⟩
  | cons entry rest ih =>
      obtain ⟨⟨es, rfl⟩, tablesRest⟩ := List.forall_mem_cons.1 tables
      obtain ⟨⟨d₁, p₁⟩, hfirst, h⟩ := bind_eq_ok_iff.1 h
      obtain ⟨id, r, hr, hallocate, hpolicies, rfl⟩ := readRule_handed hfirst
      obtain ⟨ids, rules, hrules, rfl, hpolicies', hothers⟩ := ih tablesRest h
      refine ⟨id :: ids, r :: rules, ?_, ?_, hpolicies'.trans hpolicies, .cons hallocate hothers⟩
      · rw [List.map_cons, List.map_cons, hr, hrules]
      · rw [List.append_assoc, List.singleton_append]

/-! ## Policies -/

/-- Naming the policy of a fault does not touch what succeeds. -/
theorem inPolicy_eq_ok_iff {α : Type} {entry : Value} {x : Except Fault α} {a : α} :
    inPolicy entry x = .ok a ↔ x = .ok a := by
  unfold inPolicy
  cases x with
  | ok b => rfl
  | error f =>
      constructor
      · intro h
        dsimp only at h
        split at h <;> cases h
      · intro h
        cases h

/-- Naming the document of a fault does not touch what succeeds. -/
theorem inDocument_eq_ok_iff {α : Type} {x : Except ValueFault α} {a : α} :
    inDocument x = .ok a ↔ x = .ok a := by
  unfold inDocument
  cases x with
  | ok b => simp only [Except.ok.injEq]
  | error f =>
      constructor
      · intro h
        dsimp only at h
        split at h <;> cases h
      · intro h
        cases h

/-- A policy takes its id from the pool of policies, and its rules from the pool of rules. -/
theorem readPolicy_handed {g : PolicyReading} {d d' : PolicyDraft} {p : Policy} {entry : Value}
    {rules : List Value} (members : listed "rules" entry = .ok rules)
    (tables : ∀ e ∈ rules, ∃ es, e = .table es) (h : readPolicy g d entry = .ok (d', p)) :
    ∃ id ids, p.id = .int id ∧ p.rules.map Rule.id = ids.map Value.int ∧
      d.policyIds.allocate entry.askedId = .ok (id, d'.policyIds) ∧
      IdPool.Handed d.ruleIds (rules.map Value.askedId) ids d'.ruleIds := by
  obtain ⟨name, _, h⟩ := bind_eq_ok_iff.1 h
  split at h
  · obtain ⟨_, hthrow, _⟩ := bind_eq_ok_iff.1 h
    cases hthrow
  · obtain ⟨asked, hasked, h⟩ := bind_eq_ok_iff.1 h
    obtain ⟨_, rfl⟩ := Value.get_id_eq_ok_iff.1 (lift_eq_ok_iff.1 hasked)
    obtain ⟨⟨id, pool⟩, hallocate, h⟩ := bind_eq_ok_iff.1 h
    obtain ⟨_, _, h⟩ := bind_eq_ok_iff.1 h
    obtain ⟨targets, _, h⟩ := bind_eq_ok_iff.1 h
    obtain ⟨entries, hentries, h⟩ := bind_eq_ok_iff.1 h
    cases members.symm.trans (lift_eq_ok_iff.1 hentries)
    obtain ⟨ids, read, hread, rfl, hpolicies, hhanded⟩ := readRules_handed tables h
    exact ⟨id, ids, rfl, hread, by rw [hallocate, hpolicies], hhanded⟩

/-- Policies and their rules take their ids in the order of the document. -/
theorem readPolicies_handed {g : PolicyReading} {d d' : PolicyDraft} {policies : List Policy}
    {entries rules : List Value} (members : rulesOf entries = .ok rules)
    (tables : ∀ e ∈ rules, ∃ es, e = .table es)
    (h : readPolicies g d entries = .ok (d', policies)) :
    ∃ policyIds ruleIds, policies.map Policy.id = policyIds.map Value.int ∧
      (policies.flatMap Policy.rules).map Rule.id = ruleIds.map Value.int ∧
      IdPool.Handed d.policyIds (entries.map Value.askedId) policyIds d'.policyIds ∧
      IdPool.Handed d.ruleIds (rules.map Value.askedId) ruleIds d'.ruleIds := by
  induction entries generalizing d policies rules with
  | nil =>
      cases h
      cases members
      exact ⟨[], [], rfl, rfl, .nil _, .nil _⟩
  | cons entry rest ih =>
      obtain ⟨here, hhere, members⟩ := bind_eq_ok_iff.1 members
      obtain ⟨there, hthere, members⟩ := bind_eq_ok_iff.1 members
      cases members
      obtain ⟨tablesHere, tablesThere⟩ := List.forall_mem_append.1 tables
      obtain ⟨⟨d₁, p⟩, hfirst, h⟩ := bind_eq_ok_iff.1 h
      obtain ⟨⟨d₂, ps⟩, hothers, h⟩ := bind_eq_ok_iff.1 h
      cases h
      obtain ⟨id, ids, hid, hids, hallocate, hhanded⟩ :=
        readPolicy_handed hhere tablesHere (inPolicy_eq_ok_iff.1 hfirst)
      obtain ⟨policyIds, ruleIds, hpolicies, hrules, hhanded', hhanded''⟩ :=
        ih hthere tablesThere hothers
      refine ⟨id :: policyIds, ids ++ ruleIds, ?_, ?_, .cons hallocate hhanded', ?_⟩
      · rw [List.map_cons, List.map_cons, hid, hpolicies]
      · rw [List.flatMap_cons, List.map_append, List.map_append, hids, hrules]
      · rw [List.map_append]
        exact hhanded.append hhanded''

/-! ## Documents -/

/-- The ids of an accepted document answer what its entries ask for. -/
theorem PolicySet.numbering_of_accepted {g : PolicyReading} {data : Value} {set : PolicySet}
    (h : ofValue g data = .ok set) :
    ∃ entries rules, data.field? "policies" = some (.list entries) ∧
      rulesOf entries = .ok rules ∧
      ∃ policyIds ruleIds, set.policies.map Policy.id = policyIds.map Value.int ∧
        (set.policies.flatMap Policy.rules).map Rule.id = ruleIds.map Value.int ∧
        Numbering (entries.map Value.askedId) policyIds ∧
        Numbering (rules.map Value.askedId) ruleIds := by
  unfold ofValue at h
  split at h
  · rename_i entries hentries
    obtain ⟨d, hdraft, h⟩ := bind_eq_ok_iff.1 h
    obtain ⟨⟨d', policies⟩, hread, h⟩ := bind_eq_ok_iff.1 h
    cases h
    obtain ⟨rules, hrules, hdraft⟩ := bind_eq_ok_iff.1 (inDocument_eq_ok_iff.1 hdraft)
    obtain ⟨wantedPolicies, hpolicies, hdraft⟩ := bind_eq_ok_iff.1 hdraft
    obtain ⟨wantedRules, hwanted, hdraft⟩ := bind_eq_ok_iff.1 hdraft
    cases hdraft
    obtain ⟨tables, hcomplete⟩ := idsOf_eq_ok hwanted
    obtain ⟨policyIds, ruleIds, hids, hids', hhanded, hhanded'⟩ :=
      readPolicies_handed hrules tables hread
    exact ⟨entries, rules, hentries, hrules, policyIds, ruleIds, hids, hids',
      IdPool.numbering_of_handed (idsOf_eq_ok hpolicies).2 hhanded,
      IdPool.numbering_of_handed hcomplete hhanded'⟩
  · cases h

/-- **The ids of a document.**  In every document that is accepted the policies have different ids,
and so have all rules of all policies.  An entry that asks for an id has this id; the others have,
in the order of the document, the smallest positive numbers that no entry asks for.  A document in
which two policies, or two rules, ask for the same id is not accepted.  The search for a free
number ends by itself, at the least one, whatever has been handed out before. -/
theorem PolicySet.document_numbered (g : PolicyReading) (data : Value) :
    (∀ set, ofValue g data = .ok set →
      ∃ entries rules, data.field? "policies" = some (.list entries) ∧
        rulesOf entries = .ok rules ∧
        ∃ policyIds ruleIds, set.policies.map Policy.id = policyIds.map Value.int ∧
          (set.policies.flatMap Policy.rules).map Rule.id = ruleIds.map Value.int ∧
          Numbering (entries.map Value.askedId) policyIds ∧
          Numbering (rules.map Value.askedId) ruleIds) ∧
    (∀ entries, data.field? "policies" = some (.list entries) →
      (¬ (entries.map Value.askedId).Pairwise fun v w => ¬ v.Clashes w) ∨
        (∃ rules, rulesOf entries = .ok rules ∧
          ¬ (rules.map Value.askedId).Pairwise fun v w => ¬ v.Clashes w) →
      ∃ f, ofValue g data = .error f) ∧
    (∀ p : IdPool, p.cursor ≤ p.nextFree ∧ p.nextFree ∉ p.reserved ++ p.claimed ∧
      (∀ m, p.cursor ≤ m → m < p.nextFree → m ∈ p.reserved ++ p.claimed) ∧
      ∀ fuel, (p.reserved ++ p.claimed).length < fuel →
        IdPool.firstFree (p.reserved ++ p.claimed) fuel p.cursor = p.nextFree) := by
  refine ⟨fun set h => numbering_of_accepted h, ?_, ?_⟩
  · intro entries hentries clash
    cases hread : ofValue g data with
    | error f => exact ⟨f, rfl⟩
    | ok set =>
        obtain ⟨entries', rules, hentries', hrules, _, _, _, _, hpolicies, hnumbered⟩ :=
          numbering_of_accepted hread
        cases hentries.symm.trans hentries'
        rcases clash with clash | ⟨rules', hrules', clash⟩
        · exact absurd hpolicies.pairwise clash
        · cases hrules.symm.trans hrules'
          exact absurd hnumbered.pairwise clash
  · intro p
    obtain ⟨hahead, hfree, hleast⟩ := p.nextFree_spec
    exact ⟨hahead, hfree, hleast, fun fuel enough =>
      IdPool.firstFree_eq _ p.cursor enough (Nat.lt_succ_self _)⟩

/-- Documents are read with the kinds that every audit knows, and rules are validated. -/
def plainReading : PolicyReading := ⟨.standard, true, noInterpreters⟩

/-- A rule that looks for a text, with some more fields. -/
def textEntry (name : String) (fields : List (String × Value)) : Value :=
  .record ([("type", .text "text"), ("name", .text name), ("text", .text "ntp")] ++ fields)

/-- The policies of a document. -/
def documentOf (entries : List Value) : Value := .record [("policies", .list entries)]

/-- The entries of the document are its policies. -/
theorem documentOf_field (entries : List Value) :
    (documentOf entries).field? "policies" = some (.list entries) := by
  simp [documentOf, Value.record, Value.field?, Value.lookup]

/-- Ids are given as a number, as the text of one, as nothing and not at all. -/
def mixedEntries : List Value :=
  [.record [("name", .text "core"), ("rules", .list [
      textEntry "first" [], textEntry "second" [("id", .text "2")]])],
    .record [("name", .text "edge"), ("id", .int 1), ("rules", .list [
      textEntry "third" [("id", .int 1)], textEntry "fourth" [("id", .null)]])]]

/-- Two rules of different policies ask for the same id. -/
def clashingEntries : List Value :=
  [.record [("name", .text "core"), ("rules", .list [textEntry "first" [("id", .int 7)]])],
    .record [("name", .text "edge"), ("rules", .list [textEntry "first" [("id", .text " 7")]])]]

/-- Entries without an id get what the others leave, and an id is not given twice. -/
theorem PolicySet.numbered_of_mixedEntries :
    (∃ set, ofValue plainReading (documentOf mixedEntries) = .ok set ∧
      set.policies.map Policy.id = [2, 1].map Value.int ∧
      (set.policies.flatMap Policy.rules).map Rule.id = [3, 2, 1, 4].map Value.int ∧
      Numbering [.null, .int 1] [2, 1] ∧
      Numbering [.null, .text "2", .int 1, .null] [3, 2, 1, 4]) ∧
    ∃ f, ofValue plainReading (documentOf clashingEntries) = .error f := by
  constructor
  · have hids : (ofValue plainReading (documentOf mixedEntries)).map (fun set =>
        (set.policies.map Policy.id, (set.policies.flatMap Policy.rules).map Rule.id)) =
          .ok ([2, 1].map Value.int, [3, 2, 1, 4].map Value.int) := by cbv
    cases hread : ofValue plainReading (documentOf mixedEntries) with
    | error f =>
        rw [hread] at hids
        cases hids
    | ok set =>
        rw [hread] at hids
        obtain ⟨hpolicies, hrules⟩ := Prod.mk.inj (Except.ok.inj hids)
        obtain ⟨entries, rules, hentries, hmembers, policyIds, ruleIds, hpolicies', hrules', hnum,
          hnum'⟩ := (document_numbered plainReading (documentOf mixedEntries)).1 set hread
        cases (documentOf_field mixedEntries).symm.trans hentries
        have hmembers' : rulesOf mixedEntries = .ok [textEntry "first" [],
            textEntry "second" [("id", .text "2")], textEntry "third" [("id", .int 1)],
            textEntry "fourth" [("id", .null)]] := by cbv
        cases hmembers'.symm.trans hmembers
        have hinj : Function.Injective (List.map Value.int) :=
          List.map_injective_iff.2 fun _ _ h => Value.int.inj h
        cases hinj (hpolicies'.symm.trans hpolicies)
        cases hinj (hrules'.symm.trans hrules)
        have hasked : mixedEntries.map Value.askedId = [.null, .int 1] := by cbv
        have hasked' : [textEntry "first" [], textEntry "second" [("id", .text "2")],
            textEntry "third" [("id", .int 1)], textEntry "fourth" [("id", .null)]].map
              Value.askedId = [.null, .text "2", .int 1, .null] := by cbv
        rw [hasked] at hnum
        rw [hasked'] at hnum'
        exact ⟨set, rfl, hpolicies, hrules, hnum, hnum'⟩
  · have hmembers : rulesOf clashingEntries = .ok [textEntry "first" [("id", .int 7)],
        textEntry "first" [("id", .text " 7")]] := by cbv
    refine (document_numbered plainReading (documentOf clashingEntries)).2.1 _
      (documentOf_field clashingEntries) (Or.inr ⟨_, hmembers, ?_⟩)
    intro hpairwise
    have hfirst : (textEntry "first" [("id", .int 7)]).askedId = .int 7 := by cbv
    have hsecond : (textEntry "first" [("id", .text " 7")]).askedId = .text " 7" := by cbv
    rw [List.map_cons, List.map_cons, List.map_nil, hfirst, hsecond] at hpairwise
    have hclash : (Value.int 7).Clashes (.text " 7") := ⟨7, ⟨rfl, rfl⟩, rfl, by cbv⟩
    exact (List.pairwise_cons.1 hpairwise).1 _ (List.mem_singleton.2 rfl) hclash

end ConfigAudit
