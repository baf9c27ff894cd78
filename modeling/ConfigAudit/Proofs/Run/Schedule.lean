/-
# What runners do is what machines can do

A runner carries out an audit by one schedule of its own.  The schedule looks at the audit while it
goes on, but all that it does is to let events happen, so what holds of every run of a machine
holds of every audit of a runner.

* `Machine.Runs` : one audit comes from another one by events;
* `runs_settle`, `Runner.run_eq` : audits of runners come from their beginnings by events.
-/
import ConfigAudit.Proofs.Run.Step
import ConfigAudit.Run.Schedule

namespace ConfigAudit

namespace Machine

variable {g : Setting} {t : Terms} {a b c : Machine}

/-- An audit comes from another one by events. -/
def Runs (t : Terms) (a b : Machine) : Prop := ∃ es, b = a.steps t es

/-- An audit comes from itself by no events. -/
theorem Runs.refl (t : Terms) (a : Machine) : Runs t a a := ⟨[], rfl⟩

/-- Events happen one after the other. -/
theorem Runs.trans (h : Runs t a b) (h' : Runs t b c) : Runs t a c := by
  obtain ⟨es, rfl⟩ := h
  obtain ⟨fs, rfl⟩ := h'
  exact ⟨es ++ fs, (steps_append es fs).symm⟩

/-- Events happen. -/
theorem runs_steps (t : Terms) (a : Machine) (es : List Event) : Runs t a (a.steps t es) :=
  ⟨es, rfl⟩

/-- A free worker deals with a check by events. -/
theorem runs_workOn (g : Setting) (t : Terms) (a : Machine) (i : Nat) :
    Runs t a (workOn g t a i) := by
  have hbegin : Runs t a (a.steps t [.take i, .start i]) := runs_steps t a _
  unfold workOn
  simp only
  split
  · exact hbegin.trans (runs_steps t _ _)
  · exact hbegin

/-- The workers deal with the queue by events. -/
theorem runs_workAll (g : Setting) (t : Terms) (a : Machine) : Runs t a (workAll g t a) := by
  have hfold : ∀ (is : List Nat) (b : Machine), Runs t b (is.foldl (workOn g t) b) := by
    intro is
    induction is with
    | nil => exact fun b => .refl t b
    | cons i is ih => exact fun b => (runs_workOn g t b i).trans (ih _)
  exact hfold _ a

/-- The coordinator goes round by events. -/
theorem runs_coordinate (g : Setting) (t : Terms) (a : Machine) : Runs t a (coordinate g t a) :=
  ((runs_steps t a _).trans (runs_workAll g t _)).trans (runs_steps t _ _)

/-- A runner carries out an audit by events. -/
theorem runs_settle (g : Setting) (t : Terms) (a : Machine) : Runs t a (settle g t a) :=
  ((runs_workAll g t a).trans (runs_coordinate g t _)).trans (runs_steps t _ _)

end Machine

/-- **What a runner does** is to let some events happen, from the beginning of the audit of the
plan, and to report what has come of it, unless it breaks off as it cannot wait. -/
theorem Runner.run_eq (r : Runner) (g : Setting) (policies : List Policy)
    (subjects : List Subject) {jobs : List Job} (planned : plan policies subjects = .ok jobs) :
    ∃ es, let m := (Machine.start jobs r.cancelRequested).steps (r.terms g) es
      r.run g policies subjects =
          ({ r with cancelRequested := m.cancelRequested }, m.journal, .ok m.answer) ∨
        r.cannotWait = true ∧ r.run g policies subjects =
          ({ r with cancelRequested := false }, m.journal, .error (.value .timeRange)) := by
  unfold run
  rw [planned]
  simp only
  split
  · rename_i hbreaks
    obtain ⟨es, hes⟩ :=
      Machine.runs_workAll g (r.terms g) (Machine.start jobs r.cancelRequested)
    exact ⟨es, Or.inr ⟨(Bool.and_eq_true_iff.1 hbreaks).1, by rw [hes]⟩⟩
  · obtain ⟨es, hes⟩ :=
      Machine.runs_settle g (r.terms g) (Machine.start jobs r.cancelRequested)
    exact ⟨es, Or.inl (by rw [hes])⟩

end ConfigAudit
