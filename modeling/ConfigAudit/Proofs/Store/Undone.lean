/-
# Operations that fail are undone

An operation that fails leaves no trace: what is stored, and so what other sessions read, is as it
was, the object that was passed is as it was, and nothing waits in the session to be written with
the next commit.  This holds wherever the operation fails: at the first call of the database or in
the middle of its changes, at a change that cannot be written, or before any change.  Only a policy
that has been created is read back after the commit, and if its groups cannot be read back the
operation fails although the policy is stored.

* `failed_operation_undone` : an operation that fails, after any others;
* `not_always_undone` : a policy that is stored although its creation fails.
-/
import ConfigAudit.Proofs.Store.Exemptions
import ConfigAudit.Proofs.Store.Loading
import Mathlib.Data.List.Permutation

namespace ConfigAudit

namespace Session

open Store

/-- **Operations that fail are undone.**  Whatever operations there have been in a session, and
whatever goes wrong when rows are looked for or changes are committed: if an operation fails, the
rule or the exemption that was passed is as it was before, and nothing that the operation has done
is left in the session to be written later.  What is stored, which is what other sessions read, is
as it was before, too, unless a policy was to be created whose groups cannot be read back; then
just this policy, without rules, is stored in addition. -/
theorem failed_operation_undone (g : Setting) (w : Weather) (ops : List Operation) (op : Operation)
    {f : Fault} {s' : Session}
    (failed : perform g w op ((opened .empty).after g w ops) = .error f s') :
    s'.passed = op.passed ∧ s'.rows = s'.stored ∧ s'.pending = [] ∧
      (s'.stored = ((opened .empty).after g w ops).stored ∨
        LeftBehind ((opened .empty).after g w ops).stored op f s'.stored) ∧
      (op.Grouped → s'.stored = ((opened .empty).after g w ops).stored) := by
  have hsettled := (sound_after g w (ready_opened .empty).settled sound_empty ops).1
  rcases failed_of_perform hsettled failed with hundone | ⟨hpassed, hready, hleft⟩
  · exact ⟨hundone.passed_eq, hundone.rows_eq, hundone.pending_eq, Or.inl hundone.stored_eq,
      fun _ => hundone.stored_eq⟩
  · exact ⟨hpassed, hready.rows_eq, hready.pending_eq, Or.inr hleft,
      fun grouped => absurd hleft (not_leftBehind grouped)⟩

/-- The disk is full when the policy is to be deleted, at the commit. -/
def diskFull : Weather := fun n _ => if n = 6 then some (.outage "disk full") else none

/-- The policy and the rule are still stored then. -/
theorem undone_of_diskFull :
    ∃ f s', perform noInterpreters diskFull (.deletePolicy (.int 1))
        ((opened .empty).after noInterpreters diskFull baseline) = .error f s' ∧
      s'.stored =
        ⟨[⟨1, "baseline", .list []⟩], [⟨1, 1, "banner", "generic", true, .table []⟩], []⟩ :=
  ⟨_, _, rfl, ((failed_operation_undone noInterpreters diskFull baseline
    (.deletePolicy (.int 1)) rfl).2.2.2.2 trivial).trans rfl⟩

/-- A policy for a group that is a pair of texts. -/
def pairedPolicy : Operation :=
  .createPolicy (.text "p") (.list [.pair (.text "a") (.text "b")])

/-- The session after it was to be created. -/
def pairedSession : Session := (opened .empty).next noInterpreters .calm pairedPolicy

/-- The pair comes back as a list, of which no set can be made, although the policy is stored.  So
it is not true that every operation that fails leaves the store as it was. -/
theorem not_always_undone :
    ¬ ∀ (g : Setting) (w : Weather) (ops : List Operation) (op : Operation) (f : Fault)
      (s' : Session), perform g w op ((opened .empty).after g w ops) = .error f s' →
      s'.stored = ((opened .empty).after g w ops).stored := by
  intro claim
  have hfailed : perform noInterpreters .calm pairedPolicy (opened .empty) =
      .error (.value (.unhashable "list")) pairedSession := by cbv
  have hpolicies : pairedSession.stored.policies =
      [⟨1, "p", .list [.list [.text "a", .text "b"]]⟩] := by cbv
  have hsame := congrArg Store.policies (claim noInterpreters .calm [] _ _ _ hfailed)
  rw [hpolicies] at hsame
  cases hsame

end Session

end ConfigAudit
