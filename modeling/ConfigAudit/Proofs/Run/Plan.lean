/-
# What a plan holds

A plan is made by going through the rules of each device and leaving out what has been seen
before.  Here it is written in one line, without the memory of what has been seen.

* `fresh_eq` : the rules that count as new;
* `jobsFor`, `plan_eq` : the checks of an audit;
* `Terms.sequential` : the results of carrying them out one after the other.
-/
import Mathlib.Data.List.Flatten
import ConfigAudit.Proofs.Chain
import ConfigAudit.Run.Slot
import ConfigAudit.Run.Machine

namespace ConfigAudit

/-! ## Rules that count as new -/

/-- An id that can be a key is accepted as one. -/
theorem Value.asKey_eq {v : Value} (h : v.unhashable? = none) : v.asKey = .ok v := by
  rw [asKey, h]

/-- Of the rules that were not seen before, the first of each set of equal ones counts as new. -/
theorem fresh_eq (seen rules : List Rule) (keys : ∀ r ∈ rules, r.id.unhashable? = none) :
    fresh seen rules =
      .ok ((rules.filter fun r => !seen.any (r.same ·)).eraseDupsBy Rule.same) := by
  induction rules generalizing seen with
  | nil => rfl
  | cons r rest ih =>
      have hr : r.id.asKey = .ok r.id := Value.asKey_eq (keys r List.mem_cons_self)
      have hrest : ∀ x ∈ rest, x.id.unhashable? = none := by
        intro x hx
        exact keys x (List.mem_cons_of_mem _ hx)
      rw [fresh, hr]
      cases hseen : seen.any (r.same ·) with
      | true =>
          rw [List.filter_cons_of_neg (by simp [hseen]), ← ih seen hrest]
          rfl
      | false =>
          -- what is equal to `r` is left out from now on, which is what `eraseDupsBy` does
          have hfilter : (rest.filter fun x => !(r :: seen).any (x.same ·)) =
              (rest.filter fun x => !seen.any (x.same ·)).filter fun x => x.same r = false := by
            rw [List.filter_filter]
            apply List.filter_congr
            intro x _
            cases hx : x.same r <;> simp [hx]
          rw [List.filter_cons_of_pos (by simp [hseen]), List.eraseDupsBy_cons, ← hfilter]
          change (fresh (r :: seen) rest >>= fun l => Except.ok (r :: l)) = _
          rw [ih (r :: seen) hrest]
          rfl

/-- Of rules that are pairwise different, all count as new. -/
theorem eraseDupsBy_eq_self {rules : List Rule}
    (distinct : rules.Pairwise fun a b => b.same a = false) :
    rules.eraseDupsBy Rule.same = rules := by
  induction rules with
  | nil => rfl
  | cons r rest ih =>
      obtain ⟨hr, hrest⟩ := List.pairwise_cons.1 distinct
      have hfilter : (rest.filter fun x => x.same r = false) = rest := by
        rw [List.filter_eq_self]
        intro x hx
        simp [hr x hx]
      rw [List.eraseDupsBy_cons, hfilter, ih hrest]

/-- What is left of rules is among them. -/
theorem mem_of_mem_eraseDupsBy {rules : List Rule} {r : Rule}
    (h : r ∈ rules.eraseDupsBy Rule.same) : r ∈ rules := by
  match rules with
  | [] =>
      rw [List.eraseDupsBy_nil] at h
      exact h
  | first :: rest =>
      rw [List.eraseDupsBy_cons] at h
      rcases List.mem_cons.1 h with rfl | h
      · exact List.mem_cons_self
      · exact List.mem_cons_of_mem first (List.mem_filter.1 (mem_of_mem_eraseDupsBy h)).1
termination_by rules.length
decreasing_by exact Nat.lt_succ_of_le (List.length_filter_le _ _)

/-! ## Plans -/

/-- The rules that a device is checked for: those of all policies that it is in scope of, but of
equal ones only the first. -/
def distinctRules (policies : List Policy) (d : Device) : List Rule :=
  (rulesFor policies d).eraseDupsBy Rule.same

/-- The checks of an audit, device by device. -/
def jobsFor (policies : List Policy) (subjects : List Subject) : List Job :=
  subjects.flatMap fun s => (distinctRules policies s.device).map fun r => ⟨s, r⟩

/-- Whether the ids of all rules can be keys, as those of integers can. -/
def KeyedRules (policies : List Policy) : Prop :=
  ∀ p ∈ policies, ∀ r ∈ p.rules, r.id.unhashable? = none

/-- A rule that a device is checked for belongs to one of the policies. -/
theorem exists_of_mem_distinctRules {policies : List Policy} {d : Device} {r : Rule}
    (h : r ∈ distinctRules policies d) : ∃ p ∈ policies, r ∈ p.rules := by
  obtain ⟨p, hp, hr⟩ := List.mem_flatMap.1 (mem_of_mem_eraseDupsBy h)
  exact ⟨p, (List.mem_filter.1 hp).1, hr⟩

/-- Of rules that are pairwise different none is left out. -/
theorem distinctRules_eq_rulesFor {policies : List Policy}
    (distinct : (policies.flatMap (·.rules)).Pairwise fun a b => b.same a = false) (d : Device) :
    distinctRules policies d = rulesFor policies d := by
  have hsublist : (rulesFor policies d).Sublist (policies.flatMap (·.rules)) :=
    List.filter_sublist.flatMap _
  exact eraseDupsBy_eq_self (distinct.sublist hsublist)

/-- The checks of one device. -/
theorem planFor_eq {policies : List Policy} (keyed : KeyedRules policies) (s : Subject) :
    planFor policies s = .ok ((distinctRules policies s.device).map fun r => ⟨s, r⟩) := by
  have hkeys : ∀ r ∈ rulesFor policies s.device, r.id.unhashable? = none := by
    intro r hr
    rw [rulesFor, List.mem_flatMap] at hr
    obtain ⟨p, hp, hr⟩ := hr
    exact keyed p (List.mem_filter.1 hp).1 r hr
  have hall : ((rulesFor policies s.device).filter fun r => !([] : List Rule).any (r.same ·)) =
      rulesFor policies s.device := by
    rw [List.filter_eq_self]
    intro r _
    rfl
  rw [planFor, fresh_eq [] _ hkeys, hall]
  rfl

/-- **The checks of an audit**, if the ids of all rules can be keys. -/
theorem plan_eq {policies : List Policy} (keyed : KeyedRules policies) (subjects : List Subject) :
    plan policies subjects = .ok (jobsFor policies subjects) := by
  induction subjects with
  | nil => rfl
  | cons s rest ih =>
      rw [plan, planFor_eq keyed s, ih]
      rfl

/-! ## Sequential results -/

/-- What comes of a check. -/
def Terms.answer (t : Terms) (j : Job) : Except Fault CheckResult := (t.check j.rule j.subject).2

/-- The notes that a check leaves. -/
def Terms.notes (t : Terms) (j : Job) : Journal := (t.check j.rule j.subject).1

/-- The results of carrying out checks one after the other: for each what came of it, or an error
if it failed altogether. -/
def Terms.sequential (t : Terms) (jobs : List Job) : List CheckResult :=
  jobs.map fun j => j.collected (t.answer j)

/-- What is recorded for a check is its result, whatever happens. -/
theorem collected_check (g : Setting) (s : Subject) (r : Rule) :
    Job.collected ⟨s, r⟩ (r.check g s).2 = (r.checkSafely g s).2 := by
  unfold Rule.checkSafely
  rcases r.check g s with ⟨notes, f | result⟩
  · rfl
  · rfl

/-- A device in the scope of one policy is checked for its rules, if they are different. -/
theorem distinctRules_singleton {p : Policy} {d : Device} (scope : p.appliesTo d = true)
    (distinct : p.rules.Pairwise fun a b => b.same a = false) :
    distinctRules [p] d = p.rules := by
  have hscope : [p].filter (·.appliesTo d) = [p] := by
    rw [List.filter_eq_self]
    intro x hx
    rw [List.mem_singleton.1 hx, scope]
  rw [distinctRules, rulesFor, hscope, List.flatMap_singleton, eraseDupsBy_eq_self distinct]

/-- For a device in the scope of a policy with different rules, the sequential results are those of
the policy. -/
theorem sequential_eq_check {t : Terms} {g : Setting} {p : Policy} {s : Subject}
    (hcheck : t.check = Rule.check g) (scope : p.appliesTo s.device = true)
    (distinct : p.rules.Pairwise fun a b => b.same a = false) :
    t.sequential (jobsFor [p] [s]) = (p.check g s).2 := by
  rw [Terms.sequential, jobsFor, List.flatMap_singleton, distinctRules_singleton scope distinct,
    List.map_map, Policy.check, List.map_map]
  apply List.map_congr_left
  intro r _
  simp only [Function.comp_apply, Terms.answer, hcheck]
  exact collected_check g s r

end ConfigAudit
