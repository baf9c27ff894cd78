/-
# Owners of rules

A policy that takes a rule in becomes its owner, and a rule that is taken out of a policy is left
without one.  Neither step asks whether another policy lists the rule: a rule that is added to a
second policy is listed by both and belongs to the second, and when the first one gives it up it
belongs to none.

* `OneOwner` : rules belong to the policies that list them;
* `Call.KeepsOwners` : what a call has to leave alone for this;
* `lastOwner` : the owner of a rule, told from the history alone;
* `one_owner_iff` : when rules belong to the policies that list them at any time.
-/
import ConfigAudit.Proofs.Policy.Membership

namespace ConfigAudit.Catalogue

variable {c d e : Catalogue} {p r m : Nat}

/-! ## One owner -/

/-- Rules belong to the policies that list them. -/
structure OneOwner (d : Catalogue) : Prop where
  /-- A rule that a policy lists belongs to that policy. -/
  belongs : ∀ p, ∀ r ∈ d.members p, d.owner? r = some p
  /-- A rule that belongs to no policy is listed by none. -/
  free : ∀ r, d.owner? r = none → ∀ p, r ∉ d.members p
  /-- No rule is listed by two policies. -/
  alone : ∀ p p' r, r ∈ d.members p → r ∈ d.members p' → p = p'

/-- It is enough that listed rules belong where they are listed. -/
theorem oneOwner_iff : OneOwner d ↔ ∀ p, ∀ r ∈ d.members p, d.owner? r = some p := by
  refine ⟨OneOwner.belongs, fun h => ⟨h, ?_, ?_⟩⟩
  · intro r hnone p hr
    rw [h p r hr] at hnone
    cases hnone
  · intro p p' r hr hr'
    exact Option.some.inj ((h p r hr).symm.trans (h p' r hr'))

/-- Where no policy lists a rule, nothing can be wrong. -/
theorem oneOwner_of_no_members (h : ∀ p, d.members p = []) : OneOwner d := by
  refine oneOwner_iff.2 fun p r hr => ?_
  rw [h p] at hr
  cases hr

/-- A policy that lists a rule is a policy of the catalogue. -/
theorem lt_of_mem_members (h : r ∈ d.members p) : p < d.policies.size := by
  by_contra hp
  rw [members, Array.getElem?_eq_none (Nat.le_of_not_lt hp)] at h
  cases h

/-- A rule that belongs to a policy is a rule of the catalogue. -/
theorem lt_of_owner?_eq_some (h : d.owner? r = some p) : r < d.rules.size := by
  by_contra hr
  rw [owner?, Array.getElem?_eq_none (Nat.le_of_not_lt hr)] at h
  cases h

/-! ## One call -/

/-- What a call has to leave alone: a rule that is added is listed by no other policy, and a rule
that is taken out was listed once. -/
def Call.KeepsOwners (d : Catalogue) : Call → Prop
  | add p r => (d.perform (.add p r)).2 = .done → ∀ p', r ∈ d.members p' → p' = p
  | remove p r register =>
    ∀ m, (d.perform (.remove p r register)).2 = .removed m → (d.members p).count m = 1
  | change _ _ => True

/-- A rule that is added must not be listed by another policy. -/
theorem Updates.oneOwner_added_iff (h : Updates d e p r (some p) (d.members p ++ [r]))
    (hone : OneOwner d) (hr : r < d.rules.size) :
    OneOwner e ↔ ∀ p', r ∈ d.members p' → p' = p := by
  constructor
  · intro hone' p' hmem
    by_contra hp'
    rw [← h.members_of_ne hp'] at hmem
    exact hp' (Option.some.inj ((hone'.belongs p' r hmem).symm.trans (h.owner hr)))
  · intro hlisted
    refine oneOwner_iff.2 fun p' r' hmem => ?_
    by_cases hr' : r' = r
    · subst hr'
      by_cases hp' : p' = p
      · rw [hp', h.owner hr]
      · rw [h.members_of_ne hp'] at hmem
        exact absurd (hlisted p' hmem) hp'
    · rw [h.owners r' hr']
      refine hone.belongs p' r' ?_
      by_cases hp' : p' = p
      · subst hp'
        rw [h.members (h.count ▸ lt_of_mem_members hmem)] at hmem
        exact (List.mem_append.1 hmem).resolve_right fun hlast => hr' (List.mem_singleton.1 hlast)
      · rwa [h.members_of_ne hp'] at hmem

/-- The first value that is found is the one that is taken out. -/
theorem eraseP_eq_erase {q : Nat → Bool} {ms : List Nat} (h : ms.find? q = some m) :
    ms.eraseP q = ms.erase m := by
  induction ms with
  | nil => cases h
  | cons x ms ih =>
      by_cases hq : q x = true
      · rw [List.find?_cons_of_pos hq] at h
        cases h
        rw [List.eraseP_cons_of_pos hq, List.erase_cons_head]
      · rw [List.find?_cons_of_neg hq] at h
        have hxm : x ≠ m := fun hxm => hq (hxm ▸ List.find?_some h)
        rw [List.eraseP_cons_of_neg hq, ih h, List.erase_cons_tail (by simpa using hxm)]

/-- A rule that is taken out must not stay listed. -/
theorem Updates.oneOwner_removed_iff (h : Updates d e p m none ((d.members p).erase m))
    (hone : OneOwner d) (hm : m ∈ d.members p) : OneOwner e ↔ (d.members p).count m = 1 := by
  have hp : p < d.policies.size := lt_of_mem_members hm
  have howner : d.owner? m = some p := hone.belongs p m hm
  have hleft : m ∉ (d.members p).erase m ↔ (d.members p).count m = 1 := by
    have hcount : 0 < (d.members p).count m := List.count_pos_iff.2 hm
    rw [← List.count_eq_zero, List.count_erase_self]
    omega
  rw [← hleft]
  constructor
  · intro hone' hmem
    rw [← h.members hp] at hmem
    have hlisted := hone'.belongs p m hmem
    rw [h.owner (lt_of_owner?_eq_some howner)] at hlisted
    cases hlisted
  · intro hgone
    refine oneOwner_iff.2 fun p' r hr => ?_
    have hrm : r ≠ m ∧ r ∈ d.members p' := by
      by_cases hp' : p' = p
      · subst hp'
        rw [h.members hp] at hr
        exact ⟨fun hrm => hgone (hrm ▸ hr), List.mem_of_mem_erase hr⟩
      · rw [h.members_of_ne hp'] at hr
        refine ⟨fun hrm => hp' ?_, hr⟩
        exact Option.some.inj ((hone.belongs p' r hr).symm.trans (hrm ▸ howner))
    rw [h.owners r hrm.1]
    exact hone.belongs p' r hrm.2

/-- **One call.**  Rules that belong to the policies that list them go on doing so exactly if the
call leaves alone what it has to. -/
theorem oneOwner_perform_iff {call : Call} (hone : OneOwner d) (hcall : call.Proper d.rules.size) :
    OneOwner (d.perform call).1 ↔ call.KeepsOwners d := by
  cases call with
  | add p r =>
      rw [Call.KeepsOwners, perform]
      cases hadd : d.addRule p r with
      | ok e =>
          have hiff := (addRule_eq_ok hadd).1.oneOwner_added_iff hone hcall
          exact ⟨fun hone' _ => hiff.1 hone', fun hkeeps => hiff.2 (hkeeps rfl)⟩
      | error f =>
          refine iff_of_true hone fun hdone => ?_
          cases hdone
  | remove p r register =>
      rw [Call.KeepsOwners, perform]
      rcases hdismiss : d.dismiss p r register with ⟨e, register', m | m⟩
      · obtain ⟨_, rfl, _⟩ := dismiss_eq_none hdismiss
        refine iff_of_true hone fun m' hm' => ?_
        cases hm'
      · obtain ⟨hfind, hupdates, _⟩ := dismiss_eq_some hdismiss
        rw [eraseP_eq_erase hfind] at hupdates
        rw [hupdates.oneOwner_removed_iff hone (List.mem_of_find?_eq_some hfind)]
        constructor
        · intro hcount m' hm'
          cases hm'
          exact hcount
        · intro hcount
          exact hcount m rfl
  | change r f =>
      refine iff_of_true (oneOwner_iff.2 fun p r' hr' => ?_) trivial
      rw [← hone.belongs p r' hr', perform, owner?, owner?, changeRule, Array.getElem?_modify]
      split
      · cases d.rules[r']? <;> rfl
      · rfl

/-! ## All calls -/

/-- **All calls.**  Rules belong to the policies that list them at any time exactly if they do so at
first and every call leaves alone what it has to. -/
theorem oneOwner_performAll_iff (history : History) {calls : List Call}
    (hcalls : ∀ call ∈ calls, call.Proper d.rules.size) :
    (∀ before, before <+: calls → OneOwner (d.performAll history before).1) ↔
      OneOwner d ∧ ∀ before call, before ++ [call] <+: calls →
        call.KeepsOwners (d.performAll history before).1 := by
  induction calls generalizing d history with
  | nil => simp [performAll]
  | cons call rest ih =>
      obtain ⟨hcall, hrest⟩ := List.forall_mem_cons.1 hcalls
      have hrun := @ih (d.perform call).1 ((call, (d.perform call).2) :: history)
        ((kept_perform hcall).1.symm ▸ hrest)
      constructor
      · intro hone
        have hfirst : OneOwner d := hone [] List.nil_prefix
        obtain ⟨hnext, hkeeps⟩ := hrun.1 fun before hbefore =>
          hone (call :: before) (List.cons_prefix_cons.2 ⟨rfl, hbefore⟩)
        refine ⟨hfirst, fun before call' hbefore => ?_⟩
        cases before with
        | nil =>
            obtain ⟨rfl, _⟩ := List.cons_prefix_cons.1 hbefore
            exact (oneOwner_perform_iff hfirst hcall).1 hnext
        | cons call'' before =>
            obtain ⟨rfl, hlater⟩ := List.cons_prefix_cons.1 hbefore
            exact hkeeps before call' hlater
      · rintro ⟨hfirst, hkeeps⟩ before hbefore
        cases before with
        | nil => exact hfirst
        | cons call' before =>
            obtain ⟨rfl, hlater⟩ := List.cons_prefix_cons.1 hbefore
            refine hrun.2 ⟨?_, fun before call'' hbefore => ?_⟩ before hlater
            · exact (oneOwner_perform_iff hfirst hcall).2
                (hkeeps [] call' (List.cons_prefix_cons.2 ⟨rfl, List.nil_prefix⟩))
            · exact hkeeps (call' :: before) call'' (List.cons_prefix_cons.2 ⟨rfl, hbefore⟩)

/-! ## The owner in the history -/

/-- The policy that a rule came into last, if it has not been taken out of any since. -/
def lastOwner (r : Nat) (first : Option Nat) : History → Option Nat
  | [] => first
  | (.add p r', .done) :: earlier => if r' = r then some p else lastOwner r first earlier
  | (.remove _ _ _, .removed m) :: earlier => if m = r then none else lastOwner r first earlier
  | _ :: earlier => lastOwner r first earlier

/-- A call gives a rule an owner, takes it away, or leaves it. -/
theorem owner?_perform {first : Option Nat} {history : History} {call : Call}
    (hr : r < d.rules.size) (h : d.owner? r = lastOwner r first history) :
    (d.perform call).1.owner? r = lastOwner r first ((call, (d.perform call).2) :: history) := by
  cases call with
  | add p r' =>
      rw [perform]
      cases hadd : d.addRule p r' with
      | error f => exact h
      | ok e =>
          have hupdates := (addRule_eq_ok hadd).1
          by_cases hr' : r' = r
          · subst hr'
            exact (hupdates.owner hr).trans (if_pos rfl).symm
          · exact ((hupdates.owners r (Ne.symm hr')).trans h).trans (if_neg hr').symm
  | remove p r' register =>
      rw [perform]
      rcases hdismiss : d.dismiss p r' register with ⟨e, register', m | m⟩
      · obtain ⟨_, rfl, _⟩ := dismiss_eq_none hdismiss
        exact h
      · obtain ⟨_, hupdates, _⟩ := dismiss_eq_some hdismiss
        by_cases hm : m = r
        · subst hm
          exact (hupdates.owner hr).trans (if_pos rfl).symm
        · exact ((hupdates.owners r (Ne.symm hm)).trans h).trans (if_neg hm).symm
  | change r' f =>
      rw [perform, owner?, changeRule, Array.getElem?_modify]
      refine Eq.trans ?_ h
      rw [owner?]
      split
      · cases d.rules[r]? <;> rfl
      · rfl

/-- The owner of a rule is told by the history. -/
theorem owner?_performAll {first : Option Nat} {history : History} {calls : List Call}
    (hcalls : ∀ call ∈ calls, call.Proper d.rules.size) (hr : r < d.rules.size)
    (h : d.owner? r = lastOwner r first history) :
    (d.performAll history calls).1.owner? r =
      lastOwner r first (d.performAll history calls).2 := by
  induction calls generalizing d history with
  | nil => exact h
  | cons call rest ih =>
      obtain ⟨hcall, hrest⟩ := List.forall_mem_cons.1 hcalls
      obtain ⟨hsize, _⟩ := kept_perform hcall
      rw [performAll]
      exact ih (hsize.symm ▸ hrest) (hsize.symm ▸ hr) (owner?_perform hr h)

/-! ## Names that discern -/

/-- Calls leave it alone how many policies there are. -/
theorem policies_size_performAll {calls : List Call} {history : History}
    (hcalls : ∀ call ∈ calls, call.Proper d.rules.size) :
    (d.performAll history calls).1.policies.size = d.policies.size := by
  induction calls generalizing d history with
  | nil => rfl
  | cons call rest ih =>
      obtain ⟨hcall, hrest⟩ := List.forall_mem_cons.1 hcalls
      obtain ⟨hsize, hcount, _⟩ := kept_perform hcall
      rw [performAll, ih (hsize.symm ▸ hrest), hcount]

/-- Where names discern, a rule that is taken out was listed once. -/
theorem keepsOwners_remove {calls : List Call} (hempty : ∀ p, c.members p = [])
    (hnames : ∀ r < c.rules.size, (c.ruleName r).Discerns)
    (hcalls : ∀ call ∈ calls, call.Proper c.rules.size) (p r : Nat) (register : Option Register) :
    (Call.remove p r register).KeepsOwners (c.performAll [] calls).1 := by
  intro m hm
  have hmem : m ∈ (c.performAll [] calls).1.members p := by
    rw [perform] at hm
    rcases hdismiss : (c.performAll [] calls).1.dismiss p r register with ⟨e, register', m' | m'⟩
    · rw [hdismiss] at hm
      cases hm
    · rw [hdismiss] at hm
      cases hm
      exact List.mem_of_find?_eq_some (dismiss_eq_some hdismiss).1
  have hp : p < c.policies.size := by
    have hp := lt_of_mem_members hmem
    rwa [policies_size_performAll hcalls] at hp
  obtain ⟨hlists, _, hsize, hsame⟩ := (lists_nil (hempty p)).performAll hp hnames hcalls
  refine List.count_eq_one_of_mem (hlists.nodup fun r hr => ?_) hmem
  rw [hsame r]
  exact hnames r (hsize ▸ hr)

/-! ## Owners -/

/-- **Owners.**  Whatever is done to the policies of a catalogue, a rule belongs to the policy that
it came into last, unless it has been taken out of any policy since.  Rules belong to the policies
that list them, at any time, exactly if they do so at first, no rule is added that another policy
lists, and none is taken out that was listed twice.  If no policy lists a rule at first and names
discern, the second cannot happen. -/
theorem one_owner_iff (c : Catalogue) (calls : List Call)
    (hcalls : ∀ call ∈ calls, call.Proper c.rules.size) :
    (∀ r < c.rules.size, (c.performAll [] calls).1.owner? r =
      lastOwner r (c.owner? r) (c.performAll [] calls).2) ∧
    ((∀ before, before <+: calls → OneOwner (c.performAll [] before).1) ↔
      OneOwner c ∧ ∀ before call, before ++ [call] <+: calls →
        call.KeepsOwners (c.performAll [] before).1) ∧
    ((∀ p, c.members p = []) → (∀ r < c.rules.size, (c.ruleName r).Discerns) →
      ((∀ before, before <+: calls → OneOwner (c.performAll [] before).1) ↔
        ∀ before p r, before ++ [.add p r] <+: calls →
          (Call.add p r).KeepsOwners (c.performAll [] before).1)) := by
  have hthroughout := oneOwner_performAll_iff [] hcalls
  refine ⟨fun r hr => owner?_performAll hcalls hr rfl, hthroughout, fun hempty hnames => ?_⟩
  rw [hthroughout]
  constructor
  · rintro ⟨_, hkeeps⟩ before p r hbefore
    exact hkeeps before (.add p r) hbefore
  · intro hadds
    refine ⟨oneOwner_of_no_members hempty, fun before call hbefore => ?_⟩
    cases call with
    | add p r => exact hadds before p r hbefore
    | remove p r register =>
        refine keepsOwners_remove hempty hnames (fun call hcall => hcalls call ?_) p r register
        exact hbefore.subset (List.mem_append_left _ hcall)
    | change r f => trivial

/-- A rule, and two policies that do not list it. -/
def candidates : Catalogue where
  rules := #[⟨⟨.int 1, .text "ssh", .flag true, .generic⟩, none⟩]
  policies := #[⟨.int 1, .text "baseline", [], []⟩, ⟨.int 2, .text "edge", [], []⟩]

/-- No policy lists the rule. -/
theorem members_candidates (p : Nat) : candidates.members p = [] := by
  rcases p with _ | _ | p <;> rfl

/-- The rule is added to the first policy, taken out of it, and added to the second. -/
def handover : List Call := [.add 0 0, .remove 0 0 none, .add 1 0]

/-- A rule that is handed over has one owner at any time. -/
theorem one_owner_of_handover :
    (∀ p, candidates.members p = []) ∧
    (∀ before, before <+: handover → OneOwner (candidates.performAll [] before).1) ∧
    (candidates.performAll [] handover).1.owner? 0 = some 1 := by
  have hnames : ∀ r < candidates.rules.size, (candidates.ruleName r).Discerns := by
    intro r hr
    rw [Nat.lt_one_iff.1 hr]
    exact Value.discerns_text _
  have hcalls : ∀ call ∈ handover, call.Proper candidates.rules.size := by
    simp [handover, Call.Proper, candidates]
  obtain ⟨howner, _, hthroughout⟩ := one_owner_iff candidates handover hcalls
  refine ⟨members_candidates, (hthroughout members_candidates hnames).2 ?_,
    (howner 0 (by decide)).trans (by cbv)⟩
  -- each time the rule is added, no policy lists it
  intro before p r hbefore _ p' hmem
  have hp' : p' < 2 := by
    have hlt := lt_of_mem_members hmem
    rwa [policies_size_performAll fun call hcall =>
      hcalls call (hbefore.subset (List.mem_append_left _ hcall))] at hlt
  have hunlisted : (candidates.performAll [] before).1.members 0 = [] ∧
      (candidates.performAll [] before).1.members 1 = [] := by
    rcases before with _ | ⟨a, _ | ⟨b, _ | ⟨b', before⟩⟩⟩
    · exact ⟨rfl, rfl⟩
    · simp [handover] at hbefore
    · have hsame : a = .add 0 0 ∧ b = .remove 0 0 none ∧ 1 = p ∧ 0 = r := by
        simpa [handover, eq_comm] using hbefore
      obtain ⟨rfl, rfl, _⟩ := hsame
      exact ⟨by cbv, by cbv⟩
    · simp [handover] at hbefore
  rcases Nat.le_one_iff_eq_zero_or_eq_one.1 (Nat.le_of_lt_succ hp') with rfl | rfl
  · exact absurd hmem (hunlisted.1 ▸ List.not_mem_nil)
  · exact absurd hmem (hunlisted.2 ▸ List.not_mem_nil)

/-- A rule that is added to a second policy without being taken out of the first is listed by both;
when the first one gives it up, the second one lists a rule that belongs to no policy. -/
theorem not_always_one_owner :
    ¬ ∀ (c : Catalogue) (calls : List Call), (∀ p, c.members p = []) →
      (∀ call ∈ calls, call.Proper c.rules.size) → OneOwner (c.performAll [] calls).1 := by
  intro claim
  have hone := claim candidates [.add 0 0, .add 1 0, .remove 0 0 none] members_candidates
    (by simp [Call.Proper, candidates])
  have howner : (candidates.performAll [] [.add 0 0, .add 1 0, .remove 0 0 none]).1.owner? 0 =
      none := by cbv
  have hlisted : 0 ∈
      (candidates.performAll [] [.add 0 0, .add 1 0, .remove 0 0 none]).1.members 1 := by
    have hmembers : (candidates.performAll [] [.add 0 0, .add 1 0, .remove 0 0 none]).1.members 1 =
        [0] := by cbv
    rw [hmembers]
    exact List.mem_singleton_self 0
  exact hone.free 0 howner 1 hlisted

end ConfigAudit.Catalogue
