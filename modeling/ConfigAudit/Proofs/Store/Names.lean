/-
# Names that are used twice

Two rules of a policy do not have the same name.  A name is looked for before a rule is saved, and
a constraint of the database that the rule breaks is reported as a name that is used twice as
well.  For names that are texts both agree.  A rule without a name breaks another constraint and
is reported under a name that no rule has; a name that is no text may not even be looked for, or
is found to be that of the rule itself; and an outage while names are looked for is not reported
in the words of the store.

* `Tells` : what an operation should tell about names;
* `Store.Bears`, `Unbroken` : the rules with a name, and rules that break no constraint;
* `addRule_tells_iff`, `updateRule_tells_iff` : when adding and changing rules tells so.
-/
import ConfigAudit.Proofs.Store.Exemptions

namespace ConfigAudit

/-- Whether an operation tells that a name is used twice if and only if it is, and leaves every
other fault to the store. -/
def Tells {α : Type} (x : Except Fault α) (twice : Fault) (taken : Prop) : Prop :=
  (x = .error twice ↔ taken) ∧ ∀ f, x = .error f → f = twice ∨ ∃ cause, f = .storage cause

section Tells

variable {α β : Type} {twice f : Fault} {taken : Prop}

/-- An operation that succeeds tells so if the name is free. -/
theorem tells_ok_iff {a : α} : Tells (.ok a) twice taken ↔ ¬ taken := by
  simp [Tells]

/-- An operation that refuses the name tells so if the name is used. -/
theorem tells_twice_iff : Tells (.error twice : Except Fault α) twice taken ↔ taken := by
  simp [Tells]

/-- An operation that fails otherwise tells so if the name is free and the fault is the store's. -/
theorem tells_error_iff (other : f ≠ twice) :
    Tells (.error f : Except Fault α) twice taken ↔ ¬ taken ∧ ∃ cause, f = .storage cause := by
  simp [Tells, other]

end Tells

/-- Whether a fault of the database, when a rule is saved, is reported as what it is: it is no
broken constraint and no integer that is too large. -/
def DatabaseFault.IsTold (f : DatabaseFault) : Prop := (∀ m, f ≠ .integrity m) ∧ f ≠ .integerRange

/-- Whether saving a rule, if it fails, fails in a way that is reported as what it is: the database
does not complain of a constraint on its own, and the rule has a name unless its definition cannot
be written either. -/
structure Unbroken (t : Option Trouble) (r : Rule) : Prop where
  /-- What is out of order. -/
  outage : ∀ m, t ≠ some (.integrity m)
  /-- The name. -/
  named : t = none → columnText? r.name = .ok none → ∀ d, storedForm r.definition ≠ .ok d

/-- A document that cannot be written is reported as that. -/
theorem isTold_of_storedForm {v : Value} {f : DatabaseFault} (h : storedForm v = .error f) :
    f.IsTold := by
  unfold storedForm at h
  split at h <;> cases h
  all_goals exact ⟨nofun, nofun⟩

namespace Store

variable {s : Store}

/-- A rule of a policy whose name is what a value becomes in the column of names. -/
structure Bears (s : Store) (policy : Int) (name : Value) (r : RuleRow) : Prop where
  /-- It is stored. -/
  stored : r ∈ s.rules
  /-- It belongs to the policy. -/
  policy_eq : r.policy = policy
  /-- It has the name. -/
  named : columnText? name = .ok (some r.name)

/-- The names of a policy are looked for in the rules that have them. -/
theorem hasRuleNamed_iff {policy : Int} {v : Value} {name : Option String}
    (h : columnText? v = .ok name) :
    s.hasRuleNamed policy name = true ↔ ∃ r, s.Bears policy v r := by
  rw [hasRuleNamed, List.any_eq_true]
  constructor
  · rintro ⟨r, hr, hboth⟩
    obtain ⟨hpolicy, hname⟩ := Bool.and_eq_true_iff.1 hboth
    exact ⟨r, hr, by simpa using hpolicy, by rw [h, beq_iff_eq.1 hname]⟩
  · rintro ⟨r, hr, hpolicy, hname⟩
    rw [h] at hname
    exact ⟨r, hr, by simp [hpolicy, Except.ok.inj hname]⟩

/-- A name that is not used is that of no rule. -/
theorem not_bears_of_unused {policy : Int} {v : Value} {name : Option String}
    (hname : columnText? v = .ok name) (unused : s.hasRuleNamed policy name = false) :
    ¬ ∃ r, s.Bears policy v r := by
  rw [← hasRuleNamed_iff hname, unused]
  exact Bool.false_ne_true

/-- Another rule with a name, besides the rule that is changed. -/
def BearsElse (s : Store) (old : RuleRow) (name : Value) : Prop :=
  ∃ r, s.Bears old.policy name r ∧ r.id ≠ old.id

/-- In a sound store no other rule of the policy has the name of a rule. -/
theorem Sound.not_bearsElse (h : s.Sound) {old : RuleRow} (hold : old ∈ s.rules) {name : Value}
    (hname : columnText? name = .ok (some old.name)) : ¬ s.BearsElse old name := by
  rintro ⟨r, hbears, hne⟩
  have hnamed := hbears.named
  rw [hname] at hnamed
  have hpair : (r.policy, r.name) = (old.policy, old.name) := by
    rw [hbears.policy_eq, Option.some.inj (Except.ok.inj hnamed)]
  have heq := List.inj_on_of_nodup_map h.ruleNames hbears.stored hold hpair
  exact hne (by rw [heq])

/-- A name is used in the policy of a rule if another rule has it or the rule itself. -/
theorem hasRuleNamed_iff_bearsElse {old : RuleRow} (hold : old ∈ s.rules) (h : s.Sound) {v : Value}
    {name : Option String} (hname : columnText? v = .ok name) :
    s.hasRuleNamed old.policy name = true ↔ s.BearsElse old v ∨ name = some old.name := by
  rw [hasRuleNamed_iff hname]
  constructor
  · rintro ⟨r, hbears⟩
    by_cases hid : r.id = old.id
    · obtain rfl := h.rule_eq hbears.stored hold hid
      have hnamed := hbears.named
      rw [hname] at hnamed
      exact Or.inr (Except.ok.inj hnamed)
    · exact Or.inl ⟨r, hbears, hid⟩
  · rintro (⟨r, hbears, _⟩ | rfl)
    · exact ⟨r, hbears⟩
    · exact ⟨old, hold, rfl, hname⟩

/-! ## Rows that are written -/

/-- What the row of a rule comes to whose name can be looked for: if it is not built, what is to
blame is reported as what it is unless the rule has a definition but no name. -/
theorem ruleRow_cases (id policy : Int) {r : Rule} {name : Option String}
    (hname : columnText? r.name = .ok name) :
    (∃ f, ruleRow id policy r = .error f ∧ f.IsTold ∧ ∀ d, storedForm r.definition ≠ .ok d) ∨
      ∃ d, storedForm r.definition = .ok d ∧
        ((name = none ∧ ruleRow id policy r = .error (.integrity "")) ∨
          ∃ t row, name = some t ∧ ruleRow id policy r = .ok row ∧ row.name = t) := by
  unfold ruleRow
  rw [hname]
  cases hdef : storedForm r.definition with
  | error f => exact Or.inl ⟨f, rfl, isTold_of_storedForm hdef, nofun⟩
  | ok d =>
      refine Or.inr ⟨d, rfl, ?_⟩
      cases name with
      | none => exact Or.inl ⟨rfl, rfl⟩
      | some t => exact Or.inr ⟨t, _, rfl, rfl, rfl⟩

/-- Whether a change, if it cannot be written, cannot be written for a reason that is reported as
what it is. -/
def WriteTold (s : Store) (p : Pending) : Prop := ∀ f, p.write s = .error f → f.IsTold

/-- A row that is built for a rule, and whose name is free, can be written: what may be to blame
otherwise is the row. -/
theorem told_ruleRow_iff {id policy : Int} {r : Rule} {name : Option String}
    (hname : columnText? r.name = .ok name) {used : RuleRow → Bool} {put : RuleRow → Store}
    (free : ∀ row, name = some row.name → used row = false) :
    (∀ f, (do
      let row ← ruleRow id policy r
      if used row then throw (DatabaseFault.integrity "")
      return put row) = .error f → f.IsTold) ↔
        (columnText? r.name = .ok none → ∀ d, storedForm r.definition ≠ .ok d) := by
  rcases ruleRow_cases id policy hname with
    ⟨f, hrow, htold, hdef⟩ | ⟨d, hdef, ⟨rfl, hrow⟩ | ⟨t, row, rfl, hrow, rfl⟩⟩
  · rw [hrow]
    refine iff_of_true ?_ fun _ => hdef
    rintro _ ⟨⟩
    exact htold
  · rw [hrow]
    refine iff_of_false (fun h => (h _ rfl).1 "" rfl) fun h => h hname d hdef
  · rw [hrow]
    refine iff_of_true ?_ fun hnone => ?_
    · change ∀ f, (if used row = true then _ else _) = _ → _
      rw [free row rfl]
      exact nofun
    · rw [hname] at hnone
      cases hnone

/-- When writing a new rule under a free name goes wrong. -/
theorem writeTold_newRule_iff {policy : Int} {r : Rule} {name : Option String}
    (hname : columnText? r.name = .ok name) (unused : s.hasRuleNamed policy name = false) :
    s.WriteTold (.newRule policy r) ↔
      (columnText? r.name = .ok none → ∀ d, storedForm r.definition ≠ .ok d) := by
  refine told_ruleRow_iff hname fun row hrow => ?_
  rw [← hrow, unused]

/-- When writing a changed rule under a name that no other rule has goes wrong. -/
theorem writeTold_changedRule_iff {old : RuleRow} {r : Rule} {name : Option String}
    (hname : columnText? r.name = .ok name) (free : ¬ s.BearsElse old r.name) :
    s.WriteTold (.changedRule old.id old.policy r) ↔
      (columnText? r.name = .ok none → ∀ d, storedForm r.definition ≠ .ok d) := by
  refine told_ruleRow_iff hname fun row hrow => ?_
  rw [List.any_eq_false]
  intro x hx hboth
  simp only [Bool.and_eq_true, bne_iff_ne, beq_iff_eq] at hboth
  obtain ⟨⟨hid, hpolicy⟩, hxname⟩ := hboth
  exact free ⟨x, ⟨hx, hpolicy, by rw [hname, hrow, hxname]⟩, hid⟩

end Store

namespace Session

variable {g : Setting} {w : Weather} {s : Session}

/-! ## Steps -/

/-- What looking for what a value means comes to. -/
theorem run_key {α : Type} (report : DatabaseFault → Fault) (call : DatabaseCall)
    (x : Except DatabaseFault α) :
    (∃ f, reporting report (do
        reach w call
        answer x) s = .error f { s with calls := s.calls + 1 }) ∨
      s.broken = none ∧ ∃ a, x = .ok a ∧ reporting report (do
        reach w call
        answer x) s = .ok a { s with calls := s.calls + 1 } := by
  rcases reach_cases w call s with ⟨hreach, husable⟩ | ⟨f, hreach, _⟩
  · cases x with
    | ok a =>
        refine Or.inr ⟨husable, a, rfl, ?_⟩
        unfold reporting
        rw [bind_of_ok hreach]
        rfl
    | error f =>
        refine Or.inl ⟨report f, ?_⟩
        unfold reporting
        rw [bind_of_ok hreach]
        rfl
  · refine Or.inl ⟨report f, ?_⟩
    unfold reporting
    rw [bind_of_error hreach]

/-- A policy that is found is found in the first call, and the session is of use. -/
theorem run_findPolicy {policy : Value} {p : PolicyRow}
    (found : s.outcome (findPolicy w policy) = .ok p) :
    s.broken = none ∧ findPolicy w policy s = .ok p { s with calls := s.calls + 1 } := by
  unfold outcome at found
  unfold findPolicy at found ⊢
  rcases run_key (s := s) (w := w) (fun f => ((StoreTask.loadPolicy policy).report f).worded) .get
    (columnInteger? policy) with ⟨f, hrun⟩ | ⟨husable, key, _, hrun⟩
  · rw [bind_of_error hrun] at found
    cases found
  · refine ⟨husable, ?_⟩
    rw [bind_of_ok hrun] at found ⊢
    have hread : (read : Work Fault Store) { s with calls := s.calls + 1 } =
        .ok s.rows { s with calls := s.calls + 1 } := rfl
    rw [bind_of_ok hread] at found ⊢
    cases hfind : key.bind s.rows.policy? with
    | none =>
        rw [hfind] at found
        cases found
    | some p' =>
        rw [hfind] at found
        cases found
        rfl

/-- A rule that is found is found in the first call, and the session is of use. -/
theorem run_findRule {id : Value} {r : RuleRow} (found : s.outcome (findRule w id) = .ok r) :
    s.broken = none ∧ findRule w id s = .ok r { s with calls := s.calls + 1 } ∧ r ∈ s.rows.rules := by
  unfold outcome at found
  unfold findRule at found ⊢
  rcases run_key (s := s) (w := w) (fun f => ((StoreTask.loadRule id).report f).worded) .get
    (columnInteger? id) with ⟨f, hrun⟩ | ⟨husable, key, _, hrun⟩
  · rw [bind_of_error hrun] at found
    cases found
  · refine ⟨husable, ?_⟩
    rw [bind_of_ok hrun] at found ⊢
    have hread : (read : Work Fault Store) { s with calls := s.calls + 1 } =
        .ok s.rows { s with calls := s.calls + 1 } := rfl
    rw [bind_of_ok hread] at found ⊢
    cases hfind : key.bind s.rows.rule? with
    | none =>
        rw [hfind] at found
        cases found
    | some r' =>
        rw [hfind] at found
        cases found
        obtain ⟨n, _, hn⟩ := Option.bind_eq_some_iff.1 hfind
        exact ⟨rfl, List.mem_of_find?_eq_some hn⟩

section CheckName

variable {p : PolicyRow} {v : Value}

/-- A name that cannot be looked for. -/
theorem checkName_of_some {t : Trouble} (hquery : w s.calls .query = some t) :
    checkName w (some p) v s = .error (.database t.fault) { s with calls := s.calls + 1 } := by
  refine bind_of_error ?_
  unfold reporting reach
  rw [hquery]

/-- The rows with a name are looked for. -/
theorem reporting_reach_of_none (hquery : w s.calls .query = none) (usable : s.broken = none) :
    reporting .database (reach w .query) s = .ok () { s with calls := s.calls + 1 } := by
  unfold reporting
  rw [reach_of_none hquery usable]

/-- A name that no column takes. -/
theorem checkName_of_error {f : DatabaseFault} (hquery : w s.calls .query = none)
    (usable : s.broken = none) (hname : columnText? v = .error f) :
    checkName w (some p) v s = .error (.database f) { s with calls := s.calls + 1 } := by
  refine (bind_of_ok (reporting_reach_of_none hquery usable)).trans (bind_of_error ?_)
  rw [hname]
  rfl

/-- A name is refused if it is used. -/
theorem checkName_of_ok {name : Option String} (hquery : w s.calls .query = none)
    (usable : s.broken = none) (hname : columnText? v = .ok name) :
    checkName w (some p) v s = (if s.rows.hasRuleNamed p.id name = true
      then throw (.duplicateRule (.text p.name) v) else pure () : Work Fault Unit)
        { s with calls := s.calls + 1 } := by
  refine (bind_of_ok (reporting_reach_of_none hquery usable)).trans ?_
  dsimp only
  rw [hname]
  rfl

/-- Looking for a name that is to be free, before anything else is done. -/
theorem tells_checkName_iff {α : Type} {k : Unit → Work Fault α} {taken : Prop}
    (usable : s.broken = none) :
    Tells (s.outcome (checkName w (some p) v >>= k)) (.duplicateRule (.text p.name) v) taken ↔
      w s.calls .query = none ∧ ∃ name, columnText? v = .ok name ∧
        (s.rows.hasRuleNamed p.id name = true → taken) ∧
        (s.rows.hasRuleNamed p.id name = false →
          Tells ({ s with calls := s.calls + 1 }.outcome (k ()))
            (.duplicateRule (.text p.name) v) taken) := by
  unfold outcome
  cases hquery : w s.calls .query with
  | some t =>
      rw [bind_of_error (checkName_of_some hquery)]
      simp [tells_error_iff]
  | none =>
      cases hname : columnText? v with
      | error f =>
          rw [bind_of_error (checkName_of_error hquery usable hname)]
          simp [tells_error_iff]
      | ok name =>
          have hcheck := checkName_of_ok (p := p) hquery usable hname
          cases hused : s.rows.hasRuleNamed p.id name with
          | true =>
              rw [hused, if_pos rfl] at hcheck
              have hrefused := bind_of_error (k := k) hcheck
              rw [hrefused]
              simp [tells_twice_iff, hused]
          | false =>
              rw [hused, if_neg Bool.false_ne_true] at hcheck
              have hgoing := bind_of_ok (k := k) hcheck
              rw [hgoing]
              simp [hused]

end CheckName

/-- A commit of changes that wait fails if the database is out of order or they cannot be
written. -/
theorem commit_cases (usable : s.broken = none) :
    (∃ t s', w s.calls .commit = some t ∧ commit w s = .error t.fault s') ∨
      w s.calls .commit = none ∧
        ((∃ f s', s.pending.foldlM Pending.write s.rows = .error f ∧ commit w s = .error f s') ∨
          ∃ rows s', s.pending.foldlM Pending.write s.rows = .ok rows ∧ commit w s = .ok () s') := by
  cases hcommit : w s.calls .commit with
  | some t =>
      have hreach : reach w .commit s = .error t.fault { s with calls := s.calls + 1 } := by
        unfold reach
        rw [hcommit]
      exact Or.inl ⟨t, _, rfl, bind_of_error hreach⟩
  | none =>
      refine Or.inr ⟨rfl, ?_⟩
      cases hwrite : s.pending.foldlM Pending.write s.rows with
      | ok rows => exact Or.inr ⟨rows, _, rfl, commit_of_none hcommit usable hwrite⟩
      | error f =>
          have hfails : write { s with calls := s.calls + 1 } = .error f { s with
              rows := s.stored, pending := [], broken := some f, calls := s.calls + 1 } := by
            unfold write
            dsimp only
            rw [hwrite]
          exact Or.inl ⟨f, _, rfl, (bind_of_ok (reach_of_none hcommit usable)).trans
            (bind_of_error hfails)⟩

/-- What is reported of saving a rule. -/
theorem tells_reportTwice_iff {α : Type} {task : StoreTask} {p : PolicyRow} {v : Value}
    {f : DatabaseFault} {taken : Prop} (free : ¬ taken) :
    Tells (.error (task.reportTwice (some p) v f) : Except Fault α)
        (.duplicateRule (.text p.name) v) taken ↔ f.IsTold := by
  cases f with
  | integrity m =>
      change Tells (.error (.duplicateRule (.text p.name) v)) _ _ ↔ _
      simp [tells_twice_iff, free, DatabaseFault.IsTold]
  | integerRange =>
      change Tells (.error (.database .integerRange)) _ _ ↔ _
      simp [tells_error_iff, DatabaseFault.IsTold]
  | outage m | comparison | unwritable m | tooManyValues =>
      change Tells (.error (.storage (.failed task _))) _ _ ↔ _
      simp [tells_error_iff, free, DatabaseFault.IsTold]

/-- Saving a rule under a name that is free tells so if it fails, if at all, in a way that is
reported as what it is; what is done afterwards does not fail. -/
theorem tells_commit_iff {α : Type} {task : StoreTask} {p : PolicyRow} {v : Value} {ch : Pending}
    {k : Unit → Work Fault α} {taken : Prop} (usable : s.broken = none)
    (waiting : s.pending = [ch]) (free : ¬ taken)
    (answered : ∀ s' : Session, ∃ a, s'.outcome (k ()) = .ok a) :
    Tells (s.outcome (undoing (task.reportTwice (some p) v) (commit w) >>= k))
        (.duplicateRule (.text p.name) v) taken ↔
      (∀ m, w s.calls .commit ≠ some (.integrity m)) ∧
        (w s.calls .commit = none → s.rows.WriteTold ch) := by
  have hundone : ∀ {f s'}, commit w s = .error f s' →
      s.outcome (undoing (task.reportTwice (some p) v) (commit w) >>= k) =
        .error (task.reportTwice (some p) v f) := by
    intro f s' hrun
    obtain ⟨s'', hfailed⟩ : ∃ s'', undoing (task.reportTwice (some p) v) (commit w) s =
        .error (task.reportTwice (some p) v f) s'' := by
      unfold undoing
      rw [hrun]
      cases f <;> exact ⟨_, rfl⟩
    unfold outcome
    rw [bind_of_error hfailed]
  rcases commit_cases (w := w) usable with ⟨t, s', ht, hrun⟩ | ⟨hnone, ⟨f, s', hwrite, hrun⟩ |
    ⟨rows, s', hwrite, hrun⟩⟩
  · rw [hundone hrun, tells_reportTwice_iff free, ht]
    cases t <;> simp [Trouble.fault, DatabaseFault.IsTold]
  · rw [hundone hrun, tells_reportTwice_iff free, hnone]
    rw [waiting, Store.foldlM_single] at hwrite
    simp [Store.WriteTold, hwrite]
  · obtain ⟨a, ha⟩ := answered s'
    rw [waiting, Store.foldlM_single] at hwrite
    have hsaved : s.outcome (undoing (task.reportTwice (some p) v) (commit w) >>= k) = .ok a := by
      rw [← ha]
      unfold outcome
      rw [bind_of_ok (undoing_of_ok hrun)]
    rw [hsaved, tells_ok_iff, hnone]
    simp [free, Store.WriteTold, hwrite]

/-- A new rule under a name that is free: saving it tells so if nothing is broken. -/
theorem tells_newRule_iff {r : Rule} {p : PolicyRow} {name : Option String} {n : Nat}
    (usable : s.broken = none) (waiting : s.pending = []) (hname : columnText? r.name = .ok name)
    (unused : s.rows.hasRuleNamed p.id name = false) :
    Tells ({ s with calls := n }.outcome (do
        undoing ((StoreTask.saveRule r.name).reportTwice (some p) r.name) do
          defer (.newRule p.id r)
          commit w
        let id := lastRuleId (← read)
        assignId id
        return { r with id := .int id })) (.duplicateRule (.text p.name) r.name)
          (∃ r', s.rows.Bears p.id r.name r') ↔ Unbroken (w n .commit) r := by
  have hwaiting : s.pending ++ [Pending.newRule p.id r] = [.newRule p.id r] := by
    rw [waiting, List.nil_append]
  refine (tells_commit_iff (s := { s with
    calls := n, pending := s.pending ++ [Pending.newRule p.id r] }) usable hwaiting
    (Store.not_bears_of_unused hname unused) fun s' => ?_).trans ?_
  · obtain ⟨passed, hassign⟩ := exists_assignId (lastRuleId s'.rows) s'
    have hread : (read : Work Fault Store) s' = .ok s'.rows s' := rfl
    refine ⟨{ r with id := .int (lastRuleId s'.rows) }, ?_⟩
    unfold outcome
    rw [bind_of_ok hread, bind_of_ok hassign]
    rfl
  · rw [Store.writeTold_newRule_iff hname unused]
    exact ⟨fun h => ⟨h.1, h.2⟩, fun h => ⟨h.outage, h.named⟩⟩

/-- A changed rule under a name that no other rule has: saving it tells so if nothing is broken. -/
theorem tells_changedRule_iff {r : Rule} {old : RuleRow} {p : PolicyRow} {name : Option String}
    {n : Nat} (usable : s.broken = none) (waiting : s.pending = [])
    (hname : columnText? r.name = .ok name) (free : ¬ s.rows.BearsElse old r.name) :
    Tells ({ s with calls := n }.outcome (do
        defer (.changedRule old.id old.policy r)
        undoing ((StoreTask.updateRule r.id).reportTwice (some p) r.name) (commit w)
        return r)) (.duplicateRule (.text p.name) r.name) (s.rows.BearsElse old r.name) ↔
      Unbroken (w n .commit) r := by
  have hwaiting : s.pending ++ [Pending.changedRule old.id old.policy r] =
      [.changedRule old.id old.policy r] := by
    rw [waiting, List.nil_append]
  refine (tells_commit_iff (s := { s with
    calls := n, pending := s.pending ++ [Pending.changedRule old.id old.policy r] }) usable hwaiting
    free fun s' => ⟨r, rfl⟩).trans ?_
  rw [Store.writeTold_changedRule_iff hname free]
  exact ⟨fun h => ⟨h.1, h.2⟩, fun h => ⟨h.outage, h.named⟩⟩

/-! ## Adding and changing rules -/

/-- **Names of new rules.**  A rule that passes validation is added to a policy that is found.  The
answer tells that its name is used twice if and only if it is, and leaves every other failure to
the store, exactly if names can be looked for and the name is used or nothing is broken when the
rule is saved. -/
theorem addRule_tells_iff (settled : Settled s) {policy : Value} {r : Rule} {p : PolicyRow}
    (found : s.outcome (findPolicy w policy) = .ok p) (valid : r.validate g = .ok ()) :
    Tells (s.outcome (addRule g w policy r)) (.duplicateRule (.text p.name) r.name)
        (∃ r', s.stored.Bears p.id r.name r') ↔
      w (s.calls + 1) .query = none ∧ (∃ name, columnText? r.name = .ok name) ∧
        ((∃ r', s.stored.Bears p.id r.name r') ∨ Unbroken (w (s.calls + 2) .commit) r) := by
  rw [← settled.rows_eq]
  obtain ⟨usable, hfound⟩ := run_findPolicy found
  unfold outcome addRule
  rw [bind_of_ok hfound, valid]
  refine (tells_checkName_iff (s := { s with calls := s.calls + 1 }) usable).trans ?_
  refine and_congr_right fun _ => ?_
  constructor
  · rintro ⟨name, hname, _, hfree⟩
    refine ⟨⟨name, hname⟩, ?_⟩
    cases hused : s.rows.hasRuleNamed p.id name with
    | true => exact Or.inl ((Store.hasRuleNamed_iff hname).1 hused)
    | false =>
        exact Or.inr ((tells_newRule_iff usable settled.pending_eq hname hused).1 (hfree hused))
  · rintro ⟨⟨name, hname⟩, hor⟩
    refine ⟨name, hname, (Store.hasRuleNamed_iff hname).1, ?_⟩
    intro hunused
    have hunbroken := hor.resolve_left (Store.not_bears_of_unused hname hunused)
    exact (tells_newRule_iff usable settled.pending_eq hname hunused).2 hunbroken

/-- **Names of changed rules.**  A rule that passes validation takes the place of a stored one.
If it keeps the name, the answer tells so exactly if nothing is broken when the rule is saved.
Otherwise names have to be looked for, and the name must not become that of the rule itself. -/
theorem updateRule_tells_iff (settled : Settled s) (h : s.stored.Sound) {r : Rule} {old : RuleRow}
    {p : PolicyRow} (found : s.outcome (findRule w r.id) = .ok old)
    (owner : s.stored.policy? old.policy = some p) (valid : r.validate g = .ok ()) :
    Tells (s.outcome (updateRule g w r)) (.duplicateRule (.text p.name) r.name)
        (s.stored.BearsElse old r.name) ↔
      (Value.equal r.name (.text old.name) = true ∧ Unbroken (w (s.calls + 1) .commit) r) ∨
        (Value.equal r.name (.text old.name) = false ∧ w (s.calls + 1) .query = none ∧
          (∃ name, columnText? r.name = .ok name) ∧ (s.stored.BearsElse old r.name ∨
            columnText? r.name ≠ .ok (some old.name) ∧ Unbroken (w (s.calls + 2) .commit) r)) := by
  rw [← settled.rows_eq] at h owner ⊢
  obtain ⟨usable, hfound, hold⟩ := run_findRule found
  have hp : p.id = old.policy := by simpa using List.find?_some owner
  have hread : (read : Work Fault Store) { s with calls := s.calls + 1 } =
      .ok s.rows { s with calls := s.calls + 1 } := rfl
  unfold outcome updateRule
  rw [bind_of_ok hfound, bind_of_ok hread, owner, valid]
  cases hequal : Value.equal r.name (.text old.name) with
  | true =>
      -- the rule keeps its name, which is not looked for then
      have hname := Value.columnText_of_equal hequal
      refine (tells_changedRule_iff usable settled.pending_eq hname
        (h.not_bearsElse hold hname)).trans ?_
      simp
  | false =>
      refine (tells_checkName_iff (s := { s with calls := s.calls + 1 }) usable).trans ?_
      simp only [Bool.false_eq_true, false_and, false_or, true_and, hp]
      refine and_congr_right fun _ => ?_
      constructor
      · -- the name is looked for in all rules of the policy, also in the one that is changed
        rintro ⟨name, hname, hused, hfree⟩
        refine ⟨⟨name, hname⟩, or_iff_not_imp_left.2 fun hnot => ?_⟩
        have hown : name ≠ some old.name := by
          intro hown
          exact hnot (hused ((Store.hasRuleNamed_iff_bearsElse hold h hname).2 (Or.inr hown)))
        have hunused : s.rows.hasRuleNamed old.policy name = false := by
          rw [← Bool.not_eq_true, Store.hasRuleNamed_iff_bearsElse hold h hname, not_or]
          exact ⟨hnot, hown⟩
        refine ⟨?_, (tells_changedRule_iff usable settled.pending_eq hname hnot).1 (hfree hunused)⟩
        rw [hname]
        exact fun heq => hown (Except.ok.inj heq)
      · rintro ⟨⟨name, hname⟩, hor⟩
        refine ⟨name, hname, ?_, ?_⟩
        · intro hused
          rcases (Store.hasRuleNamed_iff_bearsElse hold h hname).1 hused with helse | rfl
          · exact helse
          · exact hor.resolve_right fun hright => hright.1 hname
        · intro hunused
          rw [← Bool.not_eq_true, Store.hasRuleNamed_iff_bearsElse hold h hname, not_or] at hunused
          have hunbroken := (hor.resolve_left hunused.1).2
          exact (tells_changedRule_iff usable settled.pending_eq hname hunused.1).2 hunbroken

/-- A rule whose name is a text is saved without breaking a constraint if nothing is out of
order. -/
theorem unbroken_of_text {r : Rule} {name : String} (hname : r.name = .text name) :
    Unbroken none r where
  outage := nofun
  named := by
    intro _ hnone
    rw [hname, columnText_text] at hnone
    cases hnone

/-- **Names that are used twice.**  After any operations, and whatever is out of order: adding a
rule that passes validation to a policy that is found, and changing a rule that is found, tells
that a name is used twice if and only if it is, and leaves every other failure to the store,
exactly in these cases.  Unless a changed rule keeps its name, names can be looked for; and the
name is used, or nothing is broken when the rule is saved.  A changed rule must not be taken for
another one of its name. -/
theorem names_told_iff (g : Setting) (w : Weather) (ops : List Operation) (r : Rule)
    (valid : r.validate g = .ok ()) :
    let s := (opened .empty).after g w ops
    (∀ policy p, s.outcome (findPolicy w policy) = .ok p →
      (Tells (s.outcome (addRule g w policy r)) (.duplicateRule (.text p.name) r.name)
          (∃ r', s.stored.Bears p.id r.name r') ↔
        w (s.calls + 1) .query = none ∧ (∃ name, columnText? r.name = .ok name) ∧
          ((∃ r', s.stored.Bears p.id r.name r') ∨ Unbroken (w (s.calls + 2) .commit) r))) ∧
    ∀ old, s.outcome (findRule w r.id) = .ok old → ∃ p, s.stored.policy? old.policy = some p ∧
      (Tells (s.outcome (updateRule g w r)) (.duplicateRule (.text p.name) r.name)
          (s.stored.BearsElse old r.name) ↔
        (Value.equal r.name (.text old.name) = true ∧ Unbroken (w (s.calls + 1) .commit) r) ∨
          (Value.equal r.name (.text old.name) = false ∧ w (s.calls + 1) .query = none ∧
            (∃ name, columnText? r.name = .ok name) ∧ (s.stored.BearsElse old r.name ∨
              columnText? r.name ≠ .ok (some old.name) ∧
                Unbroken (w (s.calls + 2) .commit) r))) := by
  intro s
  obtain ⟨hsettled, hsound⟩ := sound_after g w (ready_opened .empty).settled Store.sound_empty ops
  refine ⟨fun policy p found => addRule_tells_iff hsettled found valid, ?_⟩
  intro old found
  have hold : old ∈ s.stored.rules := by
    rw [← hsettled.rows_eq]
    exact (run_findRule found).2.2
  obtain ⟨p, hmem, hid⟩ := hsound.owned old hold
  have howner : s.stored.policy? old.policy = some p := by
    rw [Store.policy?, ← hid]
    exact find?_key hsound.policyIds hmem
  exact ⟨p, howner, updateRule_tells_iff hsettled hsound found howner valid⟩

/-- A text rule of some name. -/
def namedRule (name : Value) : Rule :=
  ⟨.int 0, name, .flag true, .text ⟨.text "running_config", .text "login banner", .flag false,
    .flag false, .flag false, .null, .flag false, .flag false, .null⟩⟩

/-- The session in which a policy has one rule. -/
def baselineSession : Session := (opened .empty).after noInterpreters .calm baseline

/-- A second rule of a name is refused as such. -/
theorem told_of_secondBanner :
    (namedRule (.text "banner")).validate noInterpreters = .ok () ∧
      Tells (baselineSession.outcome
          (addRule noInterpreters .calm (.int 1) (namedRule (.text "banner"))))
        (.duplicateRule (.text "baseline") (.text "banner"))
        (∃ r', baselineSession.stored.Bears 1 (.text "banner") r') := by
  obtain ⟨hadd, _⟩ := names_told_iff noInterpreters .calm baseline (namedRule (.text "banner")) rfl
  exact ⟨rfl, (hadd (.int 1) ⟨1, "baseline", .list []⟩ rfl).2
    ⟨rfl, ⟨_, rfl⟩, Or.inr (unbroken_of_text rfl)⟩⟩

/-- A rule without a name is refused as if another rule had its name.  So it is not true that this
is only said of names that are used twice. -/
theorem not_always_told :
    ¬ ∀ (g : Setting) (ops : List Operation) (policy : Value) (p : PolicyRow) (r : Rule),
      ((opened .empty).after g .calm ops).outcome (findPolicy .calm policy) = .ok p →
      r.validate g = .ok () → r.name = .null ∨ (∃ name, r.name = .text name) →
      Tells (((opened .empty).after g .calm ops).outcome (addRule g .calm policy r))
        (.duplicateRule (.text p.name) r.name)
        (∃ r', ((opened .empty).after g .calm ops).stored.Bears p.id r.name r') := by
  intro claim
  have htells := claim noInterpreters baseline (.int 1) ⟨1, "baseline", .list []⟩ (namedRule .null)
    rfl rfl (Or.inl rfl)
  have hsettled := (sound_after noInterpreters .calm (ready_opened .empty).settled Store.sound_empty
    baseline).1
  rcases ((addRule_tells_iff hsettled rfl rfl).1 htells).2.2 with ⟨r', hbears⟩ | hunbroken
  · cases hbears.named
  · exact hunbroken.named rfl rfl _ rfl

end Session

end ConfigAudit
