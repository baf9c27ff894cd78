/-
# What operations do to a store

An operation on a store either fails, and then the store is as it was, or it succeeds in one of a
few ways.  Only a policy that is created can be stored although the operation fails, namely when
its groups cannot be read back.  Here these ways are written out as relations, and later proofs
open an operation by their cases only.

* `Store.Change` : the ways in which operations succeed;
* `Store.LeftBehind` : what a policy leaves that cannot be read back;
* `change_steps` : operations come to nothing else;
* `moved_next`, `after_induction` : the store after an operation, and after several in a row.
-/
import Mathlib.Data.List.Nodup
import ConfigAudit.Proofs.Store.Steps

namespace ConfigAudit

/-! ## Ids -/

/-- Whether a value that is looked for in a column of ids stands for an id. -/
def Value.means (v : Value) (n : Int) : Bool :=
  match columnInteger? v with
  | .ok (some k) => k == n
  | _ => false

namespace Value

variable {v : Value} {n k : Int}

/-- A value stands for the id that the column makes of it. -/
theorem means_iff : v.means n = true ↔ columnInteger? v = .ok (some n) := by
  unfold means
  split
  · rename_i k hk
    simp [hk]
  · rename_i hne
    refine iff_of_false (by simp) ?_
    intro h
    exact hne n h

/-- A value stands for one id. -/
theorem eq_of_means (hn : v.means n = true) (hk : v.means k = true) : n = k := by
  have heq := (means_iff.1 hn).symm.trans (means_iff.1 hk)
  exact Option.some.inj (Except.ok.inj heq)

/-- An integer stands for itself, if it fits into a column. -/
theorem means_int : (int k).means n = true ↔ k = n ∧ fitsColumn k = true := by
  rw [means_iff, columnInteger?]
  split
  · rename_i fits
    simp [fits]
  · rename_i big
    simp [big]

/-- Integers that fit into a column stand for themselves. -/
theorem columnIntegers_of_fits {ks : List Int} (fit : ∀ k ∈ ks, fitsColumn k = true) :
    Store.columnIntegers (ks.map int) = .ok ks := by
  induction ks with
  | nil => rfl
  | cons k ks ih =>
      have hk : columnInteger? (int k) = .ok (some k) :=
        means_iff.1 (means_int.2 ⟨rfl, fit k List.mem_cons_self⟩)
      have hrest := ih fun k' hk' => fit k' (List.mem_cons_of_mem k hk')
      exact bind_eq_ok_iff.2 ⟨some k, hk, bind_eq_ok_iff.2 ⟨ks, hrest, rfl⟩⟩

/-- Integers of which one does not fit into a column cannot be looked for. -/
theorem columnIntegers_of_not_fits {ks : List Int} (big : ks.all fitsColumn = false) :
    Store.columnIntegers (ks.map int) = .error .integerRange := by
  induction ks with
  | nil => cases big
  | cons k ks ih =>
      rw [List.map_cons, Store.columnIntegers, columnInteger?]
      cases hk : fitsColumn k with
      | false => rfl
      | true =>
          rw [List.all_cons, hk, Bool.true_and] at big
          rw [ih big]
          rfl

/-- What looking for integers comes to. -/
theorem restriction_ints (limit : Option Nat) (ks : List Int) :
    Store.restriction limit (some (ks.map int)) =
      if limit.any (· < ks.length) then .error .tooManyValues
      else if ks.all fitsColumn then .ok (some ks) else .error .integerRange := by
  have hlength : (ks.map int).length = ks.length := List.length_map _
  unfold Store.restriction
  simp only [hlength]
  split
  · rfl
  · cases fit : ks.all fitsColumn with
    | true =>
        rw [columnIntegers_of_fits (List.all_eq_true.1 fit)]
        rfl
    | false =>
        rw [columnIntegers_of_not_fits fit]
        rfl

/-- Integers that fit into a column, and are not too many, stand for themselves. -/
theorem restriction_of_fits {limit : Option Nat} {ids : Option (List Int)}
    (fit : ∀ ks ∈ ids, ∀ k ∈ ks, fitsColumn k = true)
    (room : ∀ ks ∈ ids, ∀ n ∈ limit, ks.length ≤ n) :
    Store.restriction limit (ids.map fun ks => ks.map int) = .ok ids := by
  cases ids with
  | none => rfl
  | some ks =>
      have hroom : limit.any (· < ks.length) = false := by
        cases limit with
        | none => rfl
        | some n => simpa using room ks rfl n rfl
      rw [Option.map_some, restriction_ints, hroom, if_neg Bool.false_ne_true,
        if_pos (List.all_eq_true.2 (fit ks rfl))]

/-- A value that equals a text is stored as this text. -/
theorem columnText_of_equal {t : String} (h : equal v (.text t) = true) :
    columnText? v = .ok (some t) := by
  cases v with
  | text s =>
      rw [equal_text, beq_iff_eq] at h
      rw [columnText_text, h]
  | outcome o =>
      simp only [equal, beq_iff_eq] at h
      rw [columnText?, h]
  | _ => simp [equal] at h

end Value

/-- A setting without interpreters. -/
def noInterpreters : Setting :=
  ⟨.ofDate Moment.epoch, fun l => ⟨l, .null, 0⟩, fun _ => .timeout⟩

namespace Store

/-! ## Parts that are left out -/

/-- The store without a rule and its exemptions. -/
def withoutRule (s : Store) (rule : Int) : Store :=
  { s with
    rules := s.rules.filter (·.id != rule)
    exemptions := s.exemptions.filter (·.rule != rule) }

/-- The store without a policy, its rules and their exemptions. -/
def withoutPolicy (s : Store) (policy : Int) : Store :=
  let s := ((s.rulesOf policy).map (·.id)).foldl withoutRule s
  { s with policies := s.policies.filter (·.id != policy) }

/-- An id is none of several if it is not the first and none of the others. -/
theorem not_mem_and_ne (n k : Int) (ids : List Int) :
    (decide (k ∉ ids) && k != n) = decide (k ∉ n :: ids) := by
  rw [Bool.eq_iff_iff]
  simp [and_comm]

/-- What is left when several rules are deleted one after the other. -/
theorem foldl_withoutRule (s : Store) (ids : List Int) :
    ids.foldl withoutRule s = ⟨s.policies, s.rules.filter fun r => r.id ∉ ids,
      s.exemptions.filter fun e => e.rule ∉ ids⟩ := by
  induction ids generalizing s with
  | nil => simp
  | cons n ids ih =>
      rw [List.foldl_cons, ih, withoutRule]
      simp only [List.filter_filter, not_mem_and_ne]

/-! ## The ways in which operations succeed -/

/-- What a row keeps of a rule. -/
structure Keeps (row : RuleRow) (id policy : Int) (r : Rule) : Prop where
  /-- The id is the one that was handed out. -/
  id_eq : row.id = id
  /-- The policy is the one that the rule belongs to. -/
  policy_eq : row.policy = policy
  /-- The name is written as a text. -/
  named : columnText? r.name = .ok (some row.name)
  /-- The tag is that of its kind. -/
  tag_eq : row.tag = r.body.tag
  /-- It is switched on if the rule counts as switched on. -/
  enabled_eq : row.enabled = r.enabled.truthy
  /-- The definition is written and read back. -/
  written : storedForm r.definition = .ok row.definition

/-- The row that a policy gets. -/
structure NewPolicy (s : Store) (name : Value) (groups : List Value) (row : PolicyRow) : Prop where
  /-- The groups are written and read back. -/
  written : storedForm (.list groups) = .ok row.targets
  /-- The name is written as a text. -/
  named : columnText? name = .ok (some row.name)
  /-- The id is new. -/
  numbered : row.id = nextId (s.policies.map (·.id))
  /-- The name is free. -/
  free : ∀ q ∈ s.policies, q.name ≠ row.name

/-- The ways in which an operation succeeds. -/
inductive Change (s : Store) : Operation → Answer → Store → Prop where
  /-- A policy gets a new id, under a name that is free. -/
  | createPolicy {name targets : Value} {groups : List Value} {row : PolicyRow} {p : Policy}
      (grouped : storedTargets targets = .ok groups) (new : NewPolicy s name groups row)
      (answered : policyOfRow row = .ok p) :
      Change s (.createPolicy name targets) (.policy p) { s with policies := s.policies ++ [row] }
  /-- A policy is deleted with its rules and their exemptions. -/
  | deletePolicy {id : Value} {p : PolicyRow} (found : p ∈ s.policies)
      (meant : id.means p.id = true) :
      Change s (.deletePolicy id) .done (s.withoutPolicy p.id)
  /-- A rule gets a new id, under a name that is free in its policy. -/
  | addRule {policy : Value} {r : Rule} {p : PolicyRow} {row : RuleRow} (found : p ∈ s.policies)
      (meant : policy.means p.id = true)
      (kept : Keeps row (nextId (s.rules.map (·.id))) p.id r)
      (free : ∀ r' ∈ s.rules, r'.policy = p.id → r'.name ≠ row.name) :
      Change s (.addRule policy r) (.rule { r with id := .int row.id })
        { s with rules := s.rules ++ [row] }
  /-- A rule is changed, under a name that no other rule of its policy has. -/
  | updateRule {r : Rule} {old row : RuleRow} (found : old ∈ s.rules)
      (meant : r.id.means old.id = true) (kept : Keeps row old.id old.policy r)
      (free : ∀ r' ∈ s.rules, r'.id ≠ old.id → r'.policy = old.policy → r'.name ≠ row.name) :
      Change s (.updateRule r) (.rule r) { s with rules := replaceRule row s.rules }
  /-- A rule is deleted with its exemptions. -/
  | deleteRule {id : Value} {r : RuleRow} (found : r ∈ s.rules) (meant : id.means r.id = true) :
      Change s (.deleteRule id) (.count (s.exemptions.countP (·.rule == r.id)))
        (s.withoutRule r.id)
  /-- An exemption from a stored rule is entered. -/
  | addExemption {e : Exemption} {r : RuleRow} {device : Int} (found : r ∈ s.rules)
      (meant : e.rule.means r.id = true) (placed : e.device.means device = true) :
      Change s (.addExemption e) (.exemption e) { s with
        exemptions := enterRow ⟨r.id, device, e.expiry.map Moment.withoutOffset⟩ s.exemptions }
  /-- The exemption of a pair is removed. -/
  | removeExemption {rule device : Value} {n d : Int} (meant : rule.means n = true)
      (placed : device.means d = true) :
      Change s (.removeExemption rule device) (.flag true)
        { s with exemptions := s.exemptions.filter fun e => !isRowFor n d e }
  /-- There is no exemption of a pair. -/
  | noExemption {rule device : Value} : Change s (.removeExemption rule device) (.flag false) s

/-- The way in which an operation fails and yet leaves something: the row of a policy whose groups
cannot be read back. -/
inductive LeftBehind (s : Store) : Operation → Fault → Store → Prop where
  /-- The policy gets its row, but is not answered. -/
  | createPolicy {name targets : Value} {groups : List Value} {row : PolicyRow} {f : ValueFault}
      (grouped : storedTargets targets = .ok groups) (new : NewPolicy s name groups row)
      (unread : policyOfRow row = .error f) :
      LeftBehind s (.createPolicy name targets) (.value f)
        { s with policies := s.policies ++ [row] }

/-- What an operation may make of a store. -/
def Moved (s : Store) (op : Operation) (s' : Store) : Prop :=
  s' = s ∨ (∃ a, Change s op a s') ∨ ∃ f, LeftBehind s op f s'

variable {s s' : Store}

/-! ## Changes that are written -/

/-- A row that is built for a rule keeps it. -/
theorem keeps_of_ruleRow {id policy : Int} {r : Rule} {row : RuleRow}
    (h : ruleRow id policy r = .ok row) : Keeps row id policy r := by
  obtain ⟨definition, hdef, hrest⟩ := bind_eq_ok_iff.1 h
  obtain ⟨name, hname, hrest⟩ := bind_eq_ok_iff.1 hrest
  cases name with
  | none => cases hrest
  | some name =>
      cases hrest
      exact ⟨rfl, rfl, hname, rfl, rfl, hdef⟩

/-- A policy is written under a new id and a free name. -/
theorem newPolicy_of_write {name : Value} {groups : List Value}
    (h : (Pending.newPolicy name groups).write s = .ok s') :
    ∃ row, NewPolicy s name groups row ∧ s' = { s with policies := s.policies ++ [row] } := by
  obtain ⟨row, hrow, hpure⟩ := bind_eq_ok_iff.1 h
  cases hpure
  obtain ⟨written, hwritten, hrow⟩ := bind_eq_ok_iff.1 hrow
  obtain ⟨name', hname, hrow⟩ := bind_eq_ok_iff.1 hrow
  cases name' with
  | none => cases hrow
  | some t =>
      simp only at hrow
      split at hrow
      · cases hrow
      · rename_i free
        cases hrow
        refine ⟨_, ⟨hwritten, hname, rfl, ?_⟩, rfl⟩
        intro q hq heq
        exact free (List.any_eq_true.2 ⟨q, hq, by simpa using heq⟩)

/-- A rule is written under a new id and a free name. -/
theorem keeps_of_newRule {policy : Int} {r : Rule}
    (h : (Pending.newRule policy r).write s = .ok s') :
    ∃ row, Keeps row (nextId (s.rules.map (·.id))) policy r ∧
      (∀ r' ∈ s.rules, r'.policy = policy → r'.name ≠ row.name) ∧
      s' = { s with rules := s.rules ++ [row] } := by
  obtain ⟨row, hrow, hrest⟩ := bind_eq_ok_iff.1 h
  split at hrest
  · cases hrest
  · rename_i free
    cases hrest
    refine ⟨row, keeps_of_ruleRow hrow, ?_, rfl⟩
    intro r' hr' hpolicy hname
    exact free (List.any_eq_true.2 ⟨r', hr', by simp [hpolicy, hname]⟩)

/-- A changed rule is written under a name that no other rule of its policy has. -/
theorem keeps_of_changedRule {id policy : Int} {r : Rule}
    (h : (Pending.changedRule id policy r).write s = .ok s') :
    ∃ row, Keeps row id policy r ∧
      (∀ r' ∈ s.rules, r'.id ≠ id → r'.policy = policy → r'.name ≠ row.name) ∧
      s' = { s with rules := replaceRule row s.rules } := by
  obtain ⟨row, hrow, hrest⟩ := bind_eq_ok_iff.1 h
  split at hrest
  · cases hrest
  · rename_i free
    cases hrest
    refine ⟨row, keeps_of_ruleRow hrow, ?_, rfl⟩
    intro r' hr' hid hpolicy hname
    exact free (List.any_eq_true.2 ⟨r', hr', by simp [hid, hpolicy, hname]⟩)

/-- Rules that go are written one after the other. -/
theorem deletedRules_written (s : Store) (ids : List Int) :
    (ids.map Pending.deletedRule).foldlM Pending.write s =
      .ok { s with rules := s.rules.filter fun r => r.id ∉ ids } := by
  induction ids generalizing s with
  | nil => simp; rfl
  | cons n ids ih =>
      rw [List.map_cons, List.foldlM_cons]
      refine (ih { s with rules := s.rules.filter (·.id != n) }).trans ?_
      simp only [List.filter_filter, not_mem_and_ne]

/-- A single change is written. -/
theorem foldlM_single (p : Pending) : [p].foldlM Pending.write s = p.write s := by
  rw [List.foldlM_cons]
  exact bind_pure _

/-- A document that cannot be written is no integer that is too large for a column. -/
theorem storedForm_ne {v : Value} : storedForm v ≠ .error .integerRange := by
  unfold storedForm
  split <;> exact nofun

/-- A rule whose name fits into a column has no integer that does not. -/
theorem ruleRow_ne {id policy : Int} {r : Rule} {name : Option String}
    (named : columnText? r.name = .ok name) : ruleRow id policy r ≠ .error .integerRange := by
  intro h
  rcases bind_eq_error_iff.1 h with hdef | ⟨definition, _, h⟩
  · exact storedForm_ne hdef
  · rcases bind_eq_error_iff.1 h with hname | ⟨name', _, h⟩
    · rw [named] at hname
      cases hname
    · cases name' <;> cases h

/-- Nor has a new policy whose name fits. -/
theorem newPolicyRow_ne {name : Value} {groups : List Value}
    (small : columnText? name ≠ .error .integerRange) :
    s.newPolicyRow name groups ≠ .error .integerRange := by
  intro h
  rcases bind_eq_error_iff.1 h with htargets | ⟨targets, _, h⟩
  · exact storedForm_ne htargets
  · rcases bind_eq_error_iff.1 h with hname | ⟨name', _, h⟩
    · exact small hname
    · cases name' with
      | none => cases h
      | some t =>
          simp only at h
          split at h <;> cases h

end Store

/-! ## Operations -/

/-- Whether no name of an operation is an integer that is too large, if a policy is created. -/
def Operation.Sane : Operation → Prop
  | createPolicy name _ => columnText? name ≠ .error .integerRange
  | _ => True

namespace Session

open Store

/-- What an operation that succeeds comes to: a session that can be used, in which the change is
stored. -/
def Changed (op : Operation) (s₀ : Session) (a : Answer) (s : Session) : Prop :=
  Ready s.stored s ∧ Change s₀.stored op a s.stored

/-- What an operation that fails comes to: it is undone, or a policy is left behind. -/
def Failed (op : Operation) (s₀ : Session) (f : Fault) (s : Session) : Prop :=
  Undone op.Sane s₀ s ∨
    s.passed = s₀.passed ∧ Ready s.stored s ∧ LeftBehind s₀.stored op f s.stored

section Operations

variable {g : Setting} {w : Weather} {s₀ : Session} {sane : Prop}

/-- A policy that is found is the one under the id that was asked for. -/
theorem triple_findPolicy (id : Value) :
    Triple (Still s₀) (findPolicy w id) (fun p s => Still s₀ s ∧
      s₀.stored.policy? p.id = some p ∧ id.means p.id = true) fun _ => Undone sane s₀ := by
  refine triple_key.bind fun key => Triple.of_fact fun hkey => Triple.reading ?_
  cases hfind : key.bind s₀.stored.policy? with
  | none => exact Triple.throw fun s hs => hs.undone sane
  | some p =>
      obtain ⟨k, rfl, hk⟩ := Option.bind_eq_some_iff.1 hfind
      obtain rfl : p.id = k := by simpa using List.find?_some hk
      exact Triple.pure fun s hs => ⟨hs, hk, Value.means_iff.2 hkey⟩

/-- A rule that is found is the one under the id that was asked for. -/
theorem triple_findRule (id : Value) :
    Triple (Still s₀) (findRule w id) (fun r s => Still s₀ s ∧
      s₀.stored.rule? r.id = some r ∧ id.means r.id = true) fun _ => Undone sane s₀ := by
  refine triple_key.bind fun key => Triple.of_fact fun hkey => Triple.reading ?_
  cases hfind : key.bind s₀.stored.rule? with
  | none => exact Triple.throw fun s hs => hs.undone sane
  | some r =>
      obtain ⟨k, rfl, hk⟩ := Option.bind_eq_some_iff.1 hfind
      obtain rfl : r.id = k := by simpa using List.find?_some hk
      exact Triple.pure fun s hs => ⟨hs, hk, Value.means_iff.2 hkey⟩

/-- A name that is accepted fits into a column. -/
theorem triple_checkName (p : Option PolicyRow) (name : Value) :
    Triple (Still s₀) (checkName w p name)
      (fun _ s => Still s₀ s ∧ ∃ t, columnText? name = .ok t) fun _ => Undone sane s₀ := by
  refine Triple.bind (R := fun _ => Still s₀) ?_ fun _ => ?_
  · exact triple_reporting (triple_reach.mono (fun _ h => h) (fun _ _ h => h.1)
      fun _ _ h => h.1.undone sane)
  cases p with
  | none => exact Triple.throw fun s hs => hs.undone sane
  | some p =>
      refine Triple.bind (R := fun t s => Still s₀ s ∧ columnText? name = .ok t) ?_
        fun t => Triple.of_fact fun hname => Triple.reading ?_
      · refine triple_reporting fun s hs => ?_
        cases columnText? name with
        | ok t => exact ⟨hs, rfl⟩
        | error f => exact hs.undone sane
      · split
        · exact Triple.throw fun s hs => hs.undone sane
        · exact Triple.pure fun s hs => ⟨hs, t, hname⟩

/-- A single change is deferred and committed. -/
theorem triple_single {p : Pending} {report : DatabaseFault → Fault}
    (small : sane → p.write s₀.stored ≠ .error .integerRange) :
    Triple (Still s₀) (undoing report do
      defer p
      commit w) (fun _ s => s.passed = s₀.passed ∧ Ready s.stored s ∧
        p.write s₀.stored = .ok s.stored) fun _ => Undone sane s₀ := by
  rw [← foldlM_single] at small
  refine triple_undoing (Triple.deferring ((triple_commit small).answers fun _ s h => ?_))
  rw [← foldlM_single]
  exact h

/-- A policy is created, or left behind, or nothing is. -/
theorem change_createPolicy (name targets : Value) :
    Triple (Still s₀) (createPolicy w name targets)
      (fun p => Changed (.createPolicy name targets) s₀ (.policy p))
      (Failed (.createPolicy name targets) s₀) := by
  refine Triple.answering (fun _ _ hs => Or.inl (Waiting.undone hs _)) fun groups hgroups => ?_
  refine Triple.answering (fun _ _ hs => Or.inl (Waiting.undone hs _)) fun _ _ => ?_
  refine Triple.bind ((triple_single fun small => ?_).fails fun _ s hs => Or.inl hs) fun _ => ?_
  · intro h
    rcases bind_eq_error_iff.1 h with h | ⟨row, _, h⟩
    · exact newPolicyRow_ne small h
    · cases h
  rintro s ⟨hpassed, hready, hwrite⟩
  obtain ⟨row, hnew, hstored⟩ := newPolicy_of_write hwrite
  have hgrouped := lift_eq_ok_iff.1 hgroups
  have hlast : s.rows.policies.getLastD ⟨0, "", .null⟩ = row := by
    rw [hready.rows_eq, hstored, List.getLastD_concat]
  have hread : (read : Work Fault Store) s = .ok s.rows s := rfl
  rw [bind_of_ok hread, hlast]
  cases hrow : policyOfRow row with
  | ok p =>
      refine ⟨hready, ?_⟩
      rw [hstored]
      exact .createPolicy hgrouped hnew hrow
  | error f =>
      refine Or.inr ⟨hpassed, hready, ?_⟩
      rw [hstored]
      exact .createPolicy hgrouped hnew hrow

/-- Rules are dropped: their exemptions are gone, and they are to go. -/
theorem triple_dropRules (rs : List RuleRow) {rows : Store} {ps : List Pending} :
    Triple (Waiting s₀ rows ps) (dropRules w rs)
      (fun _ => Waiting s₀ { rows with
        exemptions := rows.exemptions.filter fun e => e.rule ∉ rs.map (·.id) }
        (ps ++ (rs.map (·.id)).map .deletedRule)) (Mendable sane s₀) := by
  induction rs generalizing rows ps with
  | nil => exact Triple.pure fun s hs => by simpa using hs
  | cons r rest ih =>
      refine Triple.bind (R := fun _ => Waiting s₀ { rows with
        exemptions := rows.exemptions.filter (·.rule != r.id) } ps) ?_ fun _ => ?_
      · exact triple_dropExemptions.bind fun _ => Triple.pure fun _ hs => hs.1
      · refine Triple.deferring (ih.answers fun _ s hs => ?_)
        simp only [List.filter_filter, not_mem_and_ne] at hs
        simpa only [List.map_cons, List.append_assoc, List.singleton_append] using hs

/-- A policy is deleted, or nothing is done. -/
theorem change_deletePolicy (id : Value) :
    Triple (Still s₀) (deletePolicy w id) (fun _ => Changed (.deletePolicy id) s₀ .done)
      fun _ => Undone True s₀ := by
  refine (triple_findPolicy id).bind fun p => Triple.of_fact fun ⟨found, meant⟩ => ?_
  refine triple_undoing (Triple.reading ((triple_dropRules _).bind fun _ => Triple.deferring ?_))
  let ids := (s₀.stored.rulesOf p.id).map (·.id)
  have hwritten : ([] ++ ids.map Pending.deletedRule ++ [Pending.deletedPolicy p.id]).foldlM
      Pending.write { s₀.stored with
        exemptions := s₀.stored.exemptions.filter fun e => e.rule ∉ ids } =
          .ok (s₀.stored.withoutPolicy p.id) := by
    rw [List.nil_append, List.foldlM_append, deletedRules_written, withoutPolicy, foldl_withoutRule]
    rfl
  refine (triple_commit (fun _ => by rw [hwritten]; exact nofun)).answers fun _ s hs => ⟨hs.2.1, ?_⟩
  rw [← Except.ok.inj (hwritten.symm.trans hs.2.2)]
  exact .deletePolicy (List.mem_of_find?_eq_some found) meant

/-- A rule gets its id in any case. -/
theorem exists_assignId (id : Int) (s : Session) :
    ∃ passed, assignId id s = .ok () { s with passed := passed } := by
  unfold assignId
  split
  · exact ⟨_, rfl⟩
  · exact ⟨s.passed, rfl⟩

/-- A rule is added, or nothing is done. -/
theorem change_addRule (policy : Value) (r : Rule) :
    Triple (Still s₀) (addRule g w policy r) (fun r' => Changed (.addRule policy r) s₀ (.rule r'))
      fun _ => Undone True s₀ := by
  refine (triple_findPolicy policy).bind fun p => Triple.of_fact fun ⟨found, meant⟩ => ?_
  refine Triple.answering (fun _ _ hs => hs.undone True) fun _ _ => ?_
  refine (triple_checkName p r.name).bind fun _ => Triple.of_fact fun ⟨t, hname⟩ => ?_
  refine Triple.bind (triple_single fun _ h => ?_) fun _ => ?_
  · rcases bind_eq_error_iff.1 h with h | ⟨row, _, h⟩
    · exact ruleRow_ne hname h
    · split at h <;> cases h
  rintro s ⟨_, hready, hwrite⟩
  obtain ⟨row, hkeeps, hfree, hstored⟩ := keeps_of_newRule hwrite
  -- the id is that of the row that has been written, and nothing else can go wrong
  have hlast : lastRuleId s.rows = row.id := by
    rw [hready.rows_eq, hstored, lastRuleId, List.map_append, List.map_singleton,
      List.getLastD_concat]
  have hread : (read : Work Fault Store) s = .ok s.rows s := rfl
  obtain ⟨passed, hassign⟩ := exists_assignId row.id s
  rw [bind_of_ok hread, hlast, bind_of_ok hassign]
  refine ⟨⟨rfl, hready.rows_eq, hready.pending_eq, hready.usable⟩, ?_⟩
  change Change _ _ _ s.stored
  rw [hstored]
  exact .addRule (List.mem_of_find?_eq_some found) meant hkeeps hfree

/-- A rule whose name fits is written over the old one, or nothing is done. -/
theorem triple_changedRule {old : RuleRow} {r : Rule} {p : Option PolicyRow} {t : Option String}
    (found : old ∈ s₀.stored.rules) (meant : r.id.means old.id = true)
    (hname : columnText? r.name = .ok t) :
    Triple (Still s₀) (do
      defer (.changedRule old.id old.policy r)
      undoing ((StoreTask.updateRule r.id).reportTwice p r.name) (commit w)
      return r) (fun r' => Changed (.updateRule r) s₀ (.rule r')) fun _ => Undone True s₀ := by
  have small : True → ([] ++ [Pending.changedRule old.id old.policy r]).foldlM Pending.write
      s₀.stored ≠ .error .integerRange := by
    intro _ h
    rw [List.nil_append, foldlM_single] at h
    rcases bind_eq_error_iff.1 h with h | ⟨row, _, h⟩
    · exact ruleRow_ne hname h
    · split at h <;> cases h
  refine Triple.deferring (Triple.bind (triple_undoing (triple_commit small))
    fun _ => Triple.pure fun s hs => ⟨hs.2.1, ?_⟩)
  have hwrite := hs.2.2
  rw [List.nil_append, foldlM_single] at hwrite
  obtain ⟨row, hkeeps, hfree, hstored⟩ := keeps_of_changedRule hwrite
  rw [hstored]
  exact .updateRule found meant hkeeps hfree

/-- A rule is changed, or nothing is done. -/
theorem change_updateRule (r : Rule) :
    Triple (Still s₀) (updateRule g w r) (fun r' => Changed (.updateRule r) s₀ (.rule r'))
      fun _ => Undone True s₀ := by
  refine (triple_findRule r.id).bind fun old => Triple.of_fact fun ⟨found, meant⟩ => ?_
  have hmem := List.mem_of_find?_eq_some found
  refine Triple.reading (Triple.answering (fun _ _ hs => hs.undone True) fun _ _ => ?_)
  split
  · refine (triple_checkName _ r.name).bind fun _ => Triple.of_fact fun ⟨t, hname⟩ => ?_
    exact triple_changedRule hmem meant hname
  · rename_i same
    exact triple_changedRule hmem meant (Value.columnText_of_equal (by simpa using same))

/-- A rule is deleted, or nothing is done. -/
theorem change_deleteRule (id : Value) :
    Triple (Still s₀) (deleteRule w id) (fun n => Changed (.deleteRule id) s₀ (.count n))
      fun _ => Undone True s₀ := by
  refine (triple_findRule id).bind fun r => Triple.of_fact fun ⟨found, meant⟩ => ?_
  refine triple_undoing (triple_dropExemptions.bind fun n => Triple.of_fact fun hcount => ?_)
  refine Triple.deferring (Triple.bind (triple_commit fun _ => nofun) fun _ =>
    Triple.pure fun s hs => ⟨hs.2.1, ?_⟩)
  rw [← Except.ok.inj hs.2.2, hcount]
  exact .deleteRule (List.mem_of_find?_eq_some found) meant

/-- An exemption is entered, or nothing is done. -/
theorem change_addExemption (e : Exemption) :
    Triple (Still s₀) (addExemption w e) (fun e' => Changed (.addExemption e) s₀ (.exemption e'))
      fun _ => Undone True s₀ := by
  refine (triple_findRule e.rule).bind fun r => Triple.of_fact fun ⟨found, meant⟩ => ?_
  refine Triple.bind (R := fun _ => Changed (.addExemption e) s₀ (.exemption e)) (triple_undoing ?_)
    fun _ => Triple.pure fun _ hs => hs
  refine (mendable_reach.answers fun _ _ hs => hs.1).bind fun _ => ?_
  refine Triple.answering (fun f _ hs => hs.mendable True f) fun device hdevice => ?_
  refine Triple.deferring ((triple_commit fun _ => ?_).answers fun _ s hs => ⟨hs.2.1, ?_⟩)
  · rw [List.nil_append, foldlM_single]
    cases device <;> exact nofun
  · have hwrite := hs.2.2
    rw [List.nil_append, foldlM_single] at hwrite
    cases device with
    | none => cases hwrite
    | some d =>
        rw [← Except.ok.inj hwrite]
        exact .addExemption (List.mem_of_find?_eq_some found) meant (Value.means_iff.2 hdevice)

/-- An exemption is removed or there is none, or nothing is done. -/
theorem change_removeExemption (rule device : Value) :
    Triple (Still s₀) (removeExemption w rule device)
      (fun b => Changed (.removeExemption rule device) s₀ (.flag b)) fun _ => Undone True s₀ := by
  refine triple_undoing (mendable_reach.bind fun _ => ?_)
  refine Triple.answering (fun f _ hs => hs.1.mendable True f) fun n hn => ?_
  refine Triple.answering (fun f _ hs => hs.1.mendable True f) fun d hd => ?_
  have hnone : ∀ s, Still s₀ s ∧ s.broken = none →
      Changed (.removeExemption rule device) s₀ (.flag false) s := by
    rintro s ⟨hs, husable⟩
    refine ⟨⟨rfl, hs.rows_eq.trans hs.stored_eq.symm, hs.pending_eq, husable⟩, ?_⟩
    rw [hs.stored_eq]
    exact .noExemption
  rcases n with _ | n
  · exact Triple.pure hnone
  rcases d with _ | d
  · exact Triple.pure hnone
  dsimp only
  rintro s ⟨hs, husable⟩
  have hread : (read : Work DatabaseFault Store) s = .ok s.rows s := rfl
  rw [bind_of_ok hread]
  by_cases hany : s.rows.exemptions.any (isRowFor n d) = true
  · rw [if_pos hany]
    have hsmall : True → ([] ++ [Pending.deletedExemption n d]).foldlM Pending.write s₀.stored ≠
        .error .integerRange := fun _ => nofun
    refine Triple.deferring (Triple.bind (triple_commit hsmall) fun _ =>
      Triple.pure fun s hs => ⟨hs.2.1, ?_⟩) s hs
    rw [← Except.ok.inj hs.2.2]
    exact .removeExemption (Value.means_iff.2 hn) (Value.means_iff.2 hd)
  · rw [if_neg hany]
    exact hnone s ⟨hs, husable⟩

/-- An answer is told in the words of all operations. -/
theorem Triple.told {α : Type} {p : Work Fault α} {c : α → Answer} {op : Operation}
    (h : Triple (Still s₀) p (fun a => Changed op s₀ (c a)) fun _ => Undone True s₀) :
    Triple (Still s₀) (p >>= fun a => Pure.pure (c a)) (Changed op s₀) (Failed op s₀) :=
  (h.fails fun _ _ hs => Or.inl ⟨hs.toKept, hs.toSettled, fun _ => hs.usable trivial⟩).bind
    fun _ => Triple.pure fun _ hs => hs

/-- **What operations come to.**  From a session in which nothing waits, an operation that succeeds
changes what is stored in one of the listed ways, and one that fails is undone or leaves a policy
behind. -/
theorem change_steps (op : Operation) :
    Triple (Still s₀) (steps g w op) (Changed op s₀) (Failed op s₀) := by
  cases op with
  | createPolicy name targets =>
      exact (change_createPolicy name targets).bind fun _ => Triple.pure fun _ hs => hs
  | deletePolicy id => exact (change_deletePolicy id).told
  | addRule policy r => exact (change_addRule policy r).told
  | updateRule r => exact (change_updateRule r).told
  | deleteRule id => exact (change_deleteRule id).told
  | addExemption e => exact (change_addExemption e).told
  | removeExemption rule device => exact (change_removeExemption rule device).told

end Operations

/-! ## Operations in a row -/

section Runs

variable {g : Setting} {w : Weather} {s s' : Session} {op : Operation} {a : Answer} {f : Fault}

/-- In a session in which nothing waits, an operation starts with nothing done. -/
theorem Settled.still (h : Settled s) (passed : Passed) :
    Still { s with passed := passed } { s with passed := passed } :=
  ⟨⟨rfl, rfl⟩, h.rows_eq, h.pending_eq, fun usable => usable⟩

/-- What an operation comes to that succeeds. -/
theorem changed_of_perform (h : Settled s) (hrun : perform g w op s = .ok a s') :
    Ready s'.stored s' ∧ Change s.stored op a s'.stored := by
  have hsteps := change_steps (g := g) (w := w) op _ (h.still op.passed)
  unfold perform at hrun
  rw [hrun] at hsteps
  exact hsteps

/-- What an operation comes to that fails. -/
theorem failed_of_perform (h : Settled s) (hrun : perform g w op s = .error f s') :
    Failed op { s with passed := op.passed } f s' := by
  have hsteps := change_steps (g := g) (w := w) op _ (h.still op.passed)
  unfold perform at hrun
  rw [hrun] at hsteps
  exact hsteps

/-- After an operation nothing waits, and what is stored has changed in one of the listed ways or
is as it was. -/
theorem moved_next (h : Settled s) (g : Setting) (w : Weather) (op : Operation) :
    Settled (s.next g w op) ∧ Moved s.stored op (s.next g w op).stored := by
  unfold next
  cases hrun : perform g w op s with
  | ok a s' =>
      obtain ⟨hready, hchange⟩ := changed_of_perform h hrun
      exact ⟨hready.settled, Or.inr (Or.inl ⟨a, hchange⟩)⟩
  | error f s' =>
      rcases failed_of_perform h hrun with hundone | ⟨_, hready, hleft⟩
      · exact ⟨hundone.toSettled, Or.inl hundone.stored_eq⟩
      · exact ⟨hready.settled, Or.inr (Or.inr ⟨f, hleft⟩)⟩

/-- No operations leave the session as it is. -/
@[simp] theorem after_nil (g : Setting) (w : Weather) (s : Session) : s.after g w [] = s := rfl

/-- Operations follow one after the other. -/
@[simp] theorem after_cons (g : Setting) (w : Weather) (s : Session) (op : Operation)
    (ops : List Operation) : s.after g w (op :: ops) = (s.next g w op).after g w ops := rfl

/-- What every operation keeps holds after operations in a row. -/
theorem after_induction (P : Store → Prop) (allowed : Operation → Prop)
    (keep : ∀ s s' op, allowed op → P s → Moved s op s' → P s') (ops : List Operation)
    (hops : ∀ op ∈ ops, allowed op) (h : Settled s) (hs : P s.stored) :
    Settled (s.after g w ops) ∧ P (s.after g w ops).stored := by
  induction ops generalizing s with
  | nil => exact ⟨h, hs⟩
  | cons op ops ih =>
      obtain ⟨hsettled, hmoved⟩ := moved_next h g w op
      exact ih (fun op' hop' => hops op' (List.mem_cons_of_mem op hop')) hsettled
        (keep _ _ op (hops op List.mem_cons_self) hs hmoved)

end Runs

end Session

end ConfigAudit
