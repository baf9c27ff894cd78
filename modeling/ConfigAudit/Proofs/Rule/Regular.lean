/-
# Regular rules

The rules of documents and of stores look for texts or ask scripts, or they stand in for rules that
could not be rebuilt.  Their checks always return and cancel nothing, and what they say about a
device depends on a register of exemptions only through one answer of it.

* `Rule.Regular` : rules with an integer id that are no probes;
* `KindTable.regular_of_ruleOf` : the kinds that every audit knows have no others;
* `Rule.Regular.check_congr` : what a check depends on.
-/
import ConfigAudit.Proofs.Rule.Built
import ConfigAudit.Proofs.Rule.Precedence
import ConfigAudit.Run.Schedule

namespace ConfigAudit

/-- A rule with an integer id that is no probe. -/
structure Rule.Regular (r : Rule) : Prop where
  /-- Its id is an integer. -/
  numbered : ∃ n, r.id = .int n
  /-- It is no probe. -/
  plain : ∀ p, r.body ≠ .probe p

/-- The rules of the kinds that every audit knows are regular. -/
theorem KindTable.regular_of_ruleOf {data : Value} {r : Rule}
    (h : standard.ruleOf data = .ok r) : r.Regular := by
  obtain ⟨k, hk, hbuild⟩ := kind_of_ruleOf h
  obtain ⟨es, n, -, -, rfl⟩ := Kind.exists_of_build hbuild
  have hkinds : standard.kinds.map Prod.snd = builtins := by decide
  rw [hkinds] at hk
  refine ⟨⟨n, rfl⟩, fun p => ?_⟩
  simp only [builtins, List.mem_cons, List.not_mem_nil, or_false] at hk
  rcases hk with rfl | rfl | rfl <;> exact nofun

namespace Rule.Regular

variable {r : Rule}

/-- The check of a regular rule returns, and cancels nothing. -/
theorem calm (h : r.Regular) (g : Setting) (s : Subject) :
    returns g ⟨s, r⟩ = true ∧ cancels g ⟨s, r⟩ = false := by
  unfold returns cancels
  constructor
  · split
    · rename_i hbody
      exact absurd hbody (h.plain _)
    · rfl
  · split
    · rename_i hbody
      exact absurd hbody (h.plain _)
    · rfl

/-- The id of a regular rule can be a key. -/
theorem keyed (h : r.Regular) : r.id.unhashable? = none := by
  obtain ⟨n, hn⟩ := h.numbered
  rw [hn]
  rfl

/-- **What a check depends on.**  Registers that say the same about a rule and a device, each at its
own instant, lead to the same. -/
theorem check_congr (h : r.Regular) (g : Setting) (d : Device) {a b : Register} {t : Moment}
    (agree : a.isExempted r.id (.int d.id) g.now = b.isExempted r.id (.int d.id) t) :
    r.check g ⟨d, some a⟩ = r.check { g with now := t } ⟨d, some b⟩ := by
  have hasked : Subject.isExempted ⟨d, some a⟩ r.id g.now =
      Subject.isExempted ⟨d, some b⟩ r.id t := by
    obtain ⟨n, hn⟩ := h.numbered
    rw [hn] at agree ⊢
    exact congrArg Except.ok agree
  rw [check_eq_contract g _ (h.plain _), check_eq_contract _ _ (h.plain _)]
  have hlogic : r.logic { g with now := t } = r.logic g := rfl
  rw [hlogic]
  unfold contract
  have hid : r.header.id = r.id := rfl
  rw [hid, hasked]

end Rule.Regular

end ConfigAudit
