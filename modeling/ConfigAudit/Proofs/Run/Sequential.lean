/-
# Audits answer as if they were sequential

However many workers carry out an audit, and in whatever order they start and finish its checks,
a quiet audit comes to the answer that one gets by going through devices, policies and rules one
after the other.

* `quiet_audit_is_sequential` : the answer of a quiet audit;
* `samplePolicy`, `answered_of_roundRobin` : an audit in which all take turns.
-/
import ConfigAudit.Proofs.Run.Account
import ConfigAudit.Proofs.Run.Progress

namespace ConfigAudit

namespace Machine

/-- **Quiet audits are sequential.**  Let there be some worker, and let the ids of the rules be
such that they can be keys.  Then there is a plan, which goes through the devices, the policies
that each is in scope of, and their rules, and leaves out rules that are equal to one before.  An
audit of it that is not cancelled and in which no check is found to take too long, if it has
answered, has reported what comes of the checks of the plan one by one, and the notes that it left
are made up of those of the checks, each in their order; and if its schedule is fair, it comes to
this answer.  For a policy of different rules and a device in its scope the results are those of
the policy. -/
theorem quiet_audit_is_sequential (t : Terms) (policies : List Policy) (subjects : List Subject)
    (hw : 1 ≤ t.workers) (keyed : KeyedRules policies) :
    plan policies subjects = .ok (jobsFor policies subjects) ∧
    (∀ es, (∀ e ∈ es, e.isQuiet = true) →
      let m := (start (jobsFor policies subjects) false).steps t es
      ∀ r, m.stage = .returned r →
        r = ⟨t.sequential (jobsFor policies subjects), false, 0⟩ ∧
          Interleaves ((jobsFor policies subjects).map t.notes) m.journal) ∧
    (∀ f, Fair (jobsFor policies subjects).length f → (∀ k, (f k).isQuiet = true) →
      ∃ n, ∀ k, n ≤ k →
        let m := (start (jobsFor policies subjects) false).after t f k
        m.stage = .returned ⟨t.sequential (jobsFor policies subjects), false, 0⟩ ∧
          Interleaves ((jobsFor policies subjects).map t.notes) m.journal) ∧
    (∀ g p s, t.check = Rule.check g → policies = [p] → subjects = [s] →
      p.appliesTo s.device = true → p.rules.Pairwise (fun a b => b.same a = false) →
      t.sequential (jobsFor policies subjects) = (p.check g s).2) := by
  have partial_answer : ∀ es, (∀ e ∈ es, e.isQuiet = true) → ∀ r,
      ((start (jobsFor policies subjects) false).steps t es).stage = .returned r →
        r = ⟨t.sequential (jobsFor policies subjects), false, 0⟩ ∧
          Interleaves ((jobsFor policies subjects).map t.notes)
            ((start (jobsFor policies subjects) false).steps t es).journal := by
    intro es hes r st
    exact (quiet_steps hw (quiet_start t _) es hes).answer st
  refine ⟨plan_eq keyed subjects, partial_answer, ?_, ?_⟩
  · intro f fair quiet
    obtain ⟨n, hn⟩ := exists_answer hw (jobsFor policies subjects) fair quiet
    refine ⟨n, ?_⟩
    intro k hk
    obtain ⟨r, st⟩ := hn (k - n)
    rw [Nat.add_sub_cancel' hk] at st
    have hquiet : ∀ e ∈ (List.range k).map f, e.isQuiet = true := by
      intro e he
      obtain ⟨d, _, rfl⟩ := List.mem_map.1 he
      exact quiet d
    obtain ⟨hr, hnotes⟩ := partial_answer _ hquiet r st
    exact ⟨hr ▸ st, hnotes⟩
  · rintro g p s hcheck rfl rfl scope distinct
    exact sequential_eq_check hcheck scope distinct

/-- A policy of two rules for all devices. -/
def samplePolicy : Policy :=
  ⟨.int 1, .text "policy", [], [⟨.int 1, .text "a", .flag true, .generic⟩,
    ⟨.int 2, .text "b", .flag true, .generic⟩]⟩

/-- A device without exemptions. -/
def sampleSubject : Subject := ⟨⟨7, .text "edge", .text "", .text "", [], []⟩, none⟩

/-- The two rules are different. -/
theorem samplePolicy_distinct : samplePolicy.rules.Pairwise fun a b => b.same a = false := by
  simp [samplePolicy, Rule.same]

/-- The plan for the device has both rules. -/
theorem jobsFor_sample :
    jobsFor [samplePolicy] [sampleSubject] = samplePolicy.rules.map fun r => ⟨sampleSubject, r⟩ := by
  have hrules : distinctRules [samplePolicy] sampleSubject.device = samplePolicy.rules :=
    distinctRules_singleton rfl samplePolicy_distinct
  rw [jobsFor, List.flatMap_singleton, hrules]

/-- An audit in which all take turns answers that the device complies with both rules. -/
theorem answered_of_roundRobin :
    ∃ n, ∀ k, n ≤ k →
      ((start (jobsFor [samplePolicy] [sampleSubject]) false).after oneWorker (roundRobin 2)
        k).stage =
        .returned ⟨samplePolicy.rules.map fun r =>
          r.header.result sampleSubject.device .conforming .null, false, 0⟩ := by
  have keyed : KeyedRules [samplePolicy] := by
    intro p hp r hr
    rw [List.mem_singleton.1 hp] at hr
    simp only [samplePolicy, List.mem_cons, List.not_mem_nil, or_false] at hr
    rcases hr with rfl | rfl <;> rfl
  obtain ⟨_, _, hfair, _⟩ :=
    quiet_audit_is_sequential oneWorker [samplePolicy] [sampleSubject] (by decide) keyed
  rw [jobsFor_sample] at hfair ⊢
  obtain ⟨n, hn⟩ := hfair (roundRobin 2) (fair_roundRobin 2) (isQuiet_roundRobin 2)
  refine ⟨n, ?_⟩
  intro k hk
  exact (hn k hk).1

end Machine

end ConfigAudit
