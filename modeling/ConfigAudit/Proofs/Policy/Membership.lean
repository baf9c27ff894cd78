/-
# Members of policies

Rules are added to policies and removed from them, and no policy lists two rules of one name.  A
rule is found for removal by identity, or by kind, id and name; since names are not used twice, at
most one member is meant.

* `Call`, `Catalogue.perform` : what can be done to the policies of a catalogue;
* `joined` : when a rule came into a policy for the last time, told from the history alone;
* `Updates` : what a change of one membership leaves alone;
* `Lists` : a policy lists its members as they came in, under different names;
* `membership_kept` : it always does, and answers accordingly.
-/
import Mathlib.Data.List.Find
import Mathlib.Data.List.Pairwise
import Mathlib.Data.List.Permutation
import ConfigAudit.Policy.Catalogue

namespace ConfigAudit

/-! ## Names that discern -/

namespace Value

/-- A value that equals itself, and whose equals are equal to one another. -/
def Discerns (v : Value) : Prop :=
  equal v v = true ∧ ∀ a b, equal a v = true → equal b v = true → equal a b = true

/-- What equals a text is the text, or an outcome that is written as it. -/
theorem equal_text_iff {v : Value} {s : String} :
    equal v (.text s) = true ↔ v.asText? = some s := by
  cases v with
  | text t => simp [asText?]
  | outcome o => rw [equal, beq_iff_eq, asText?, Option.some_inj, eq_comm]
  | _ => simp [equal, asText?]

/-- Texts discern. -/
theorem discerns_text (s : String) : (text s).Discerns := by
  refine ⟨by simp, fun a b ha hb => ?_⟩
  rw [equal_text_iff] at ha hb
  cases a with
  | text t =>
      cases ha
      cases b with
      | text u => cases hb; simp
      | outcome o => cases hb; simp [equal]
      | _ => cases hb
  | outcome o =>
      cases ha
      cases b with
      | text u => cases hb; simp [equal]
      | outcome o' =>
          -- no two outcomes are written alike
          have hsame : o = o' := by
            revert hb
            cases o <;> cases o' <;> decide
          simp [equal, hsame]
      | _ => cases hb
  | _ => cases ha

end Value

namespace Catalogue

variable {c d e : Catalogue} {p r m : Nat}

/-! ## Changes of one membership -/

/-- The second catalogue differs from the first one in the policy of a number, which lists other
members, and in the owner of the rule of a number. -/
structure Updates (d e : Catalogue) (p r : Nat) (owner : Option Nat) (members : List Nat) :
    Prop where
  /-- The rules are the same. -/
  rules : ∀ r', e.rule? r' = d.rule? r'
  /-- There are as many rules. -/
  size : e.rules.size = d.rules.size
  /-- There are as many policies. -/
  count : e.policies.size = d.policies.size
  /-- The rule has the owner. -/
  owner : r < d.rules.size → e.owner? r = owner
  /-- Other rules belong where they did. -/
  owners : ∀ r', r' ≠ r → e.owner? r' = d.owner? r'
  /-- The policy lists the members. -/
  listing : e.policies[p]? = (d.policies[p]?).map fun l => { l with members := members }
  /-- Other policies are the same. -/
  listings : ∀ p', p' ≠ p → e.policies[p']? = d.policies[p']?

/-- An owner and members are set. -/
theorem updates_set (d : Catalogue) (p r : Nat) (owner : Option Nat) (members : List Nat) :
    Updates d ((d.setOwner r owner).setMembers p members) p r owner members where
  rules r' := by
    simp only [rule?, setMembers, setOwner, Array.getElem?_modify]
    split
    · rw [Option.map_map]
      rfl
    · rfl
  size := Array.size_modify
  count := Array.size_modify
  owner hr := by
    simp only [owner?, setMembers, setOwner, Array.getElem?_modify, if_true,
      Array.getElem?_eq_getElem hr]
    rfl
  owners r' hr := by
    simp only [owner?, setMembers, setOwner, Array.getElem?_modify, if_neg hr.symm]
  listing := by
    simp only [setMembers, setOwner, Array.getElem?_modify, if_true]
  listings p' hp := by
    simp only [setMembers, setOwner, Array.getElem?_modify, if_neg hp.symm]

namespace Updates

variable {owner : Option Nat} {ms : List Nat}

/-- Rules keep their names. -/
theorem ruleName (h : Updates d e p r owner ms) (r' : Nat) : e.ruleName r' = d.ruleName r' := by
  rw [Catalogue.ruleName, h.rules, Catalogue.ruleName]

/-- What the policy lists. -/
theorem members (h : Updates d e p r owner ms) (hp : p < d.policies.size) : e.members p = ms := by
  rw [Catalogue.members, h.listing, Array.getElem?_eq_getElem hp]
  rfl

/-- What other policies list. -/
theorem members_of_ne (h : Updates d e p r owner ms) {p' : Nat} (hp : p' ≠ p) :
    e.members p' = d.members p' := by
  rw [Catalogue.members, h.listings p' hp, Catalogue.members]

end Updates

/-- A rule that is added becomes the last member, unless a member has its name. -/
theorem addRule_eq_ok (h : d.addRule p r = .ok e) :
    Updates d e p r (some p) (d.members p ++ [r]) ∧
      ∀ m ∈ d.members p, Value.equal (d.ruleName m) (d.ruleName r) = false := by
  unfold addRule at h
  dsimp only at h
  split at h
  · cases h
  · rename_i hfree
    cases h
    refine ⟨updates_set d p r (some p) _, fun m hm => ?_⟩
    rw [List.any_eq_true] at hfree
    exact Bool.eq_false_iff.2 fun hname => hfree ⟨m, hm, hname⟩

/-- A rule is refused if a member has its name. -/
theorem addRule_eq_error {f : Fault} (h : d.addRule p r = .error f) :
    f = (Fault.duplicateRule (((d.policies[p]?).map (·.name)).getD .null) (d.ruleName r)).worded ∧
      ∃ m ∈ d.members p, Value.equal (d.ruleName m) (d.ruleName r) = true := by
  unfold addRule at h
  dsimp only at h
  split at h
  · rename_i hused
    cases h
    exact ⟨rfl, List.any_eq_true.1 hused⟩
  · cases h

/-! ## The rule that is meant -/

/-- Whether a member is meant by a rule: it is the rule, or of the same kind, id and name. -/
def IsMeant (d : Catalogue) (r m : Nat) : Prop :=
  m = r ∨ ∃ a b, d.rule? m = some a ∧ d.rule? r = some b ∧ a.body.title = b.body.title ∧
    Value.equal a.id b.id = true ∧ Value.equal a.name b.name = true

/-- The search for members finds those that are meant. -/
theorem isMember_iff : d.isMember r m = true ↔ d.IsMeant r m := by
  unfold isMember IsMeant
  rw [Bool.or_eq_true, beq_iff_eq]
  refine or_congr_right ?_
  cases hm : d.rule? m with
  | none => simp
  | some a =>
      cases hr : d.rule? r with
      | none => simp
      | some b => simp [Rule.same, and_assoc]

/-- A member that is meant has the name of the rule. -/
theorem IsMeant.equal_ruleName (h : d.IsMeant r m) (hname : (d.ruleName r).Discerns) :
    Value.equal (d.ruleName m) (d.ruleName r) = true := by
  rcases h with rfl | ⟨a, b, ha, hb, _, _, hab⟩
  · exact hname.1
  · rw [ruleName, ha, ruleName, hb]
    exact hab

/-- Without repeats, the first value that is found is the one that is taken out. -/
theorem eraseP_eq_filter {q : Nat → Bool} {ms : List Nat} (hms : ms.Nodup)
    (h : ms.find? q = some m) : ms.eraseP q = ms.filter (· ≠ m) := by
  induction ms with
  | nil => cases h
  | cons x ms ih =>
      obtain ⟨hx, hms⟩ := List.nodup_cons.1 hms
      by_cases hq : q x = true
      · rw [List.find?_cons_of_pos hq] at h
        cases h
        rw [List.eraseP_cons_of_pos hq, List.filter_cons_of_neg (by simp), List.filter_eq_self.2]
        intro y hy
        simpa using fun hym : y = m => hx (hym ▸ hy)
      · rw [List.find?_cons_of_neg hq] at h
        have hxm : x ≠ m := fun hxm => hq (hxm ▸ List.find?_some h)
        rw [List.eraseP_cons_of_neg hq, List.filter_cons_of_pos (by simpa using hxm), ih hms h]

/-- A member is removed if the search finds it. -/
theorem dismiss_eq_some {register register' : Option Register}
    (h : d.dismiss p r register = (e, register', some m)) :
    (d.members p).find? (d.isMember r) = some m ∧
      Updates d e p m none ((d.members p).eraseP (d.isMember r)) ∧
      register' = register.map fun x =>
        (d.rule? m).elim x fun rule => (x.clearRule rule.id).1 := by
  unfold dismiss removeRule at h
  cases hfind : (d.members p).find? (d.isMember r) with
  | none =>
      rw [hfind] at h
      cases h
  | some m' =>
      rw [hfind] at h
      cases h
      have hupdates := updates_set d p m none ((d.members p).eraseP (d.isMember r))
      refine ⟨rfl, hupdates, ?_⟩
      simp only [hupdates.rules]

/-- Nothing happens if the search finds nothing. -/
theorem dismiss_eq_none {register register' : Option Register}
    (h : d.dismiss p r register = (e, register', none)) :
    (d.members p).find? (d.isMember r) = none ∧ e = d ∧ register' = register := by
  unfold dismiss removeRule at h
  cases hfind : (d.members p).find? (d.isMember r) with
  | none =>
      rw [hfind] at h
      cases h
      exact ⟨rfl, rfl, rfl⟩
  | some m' =>
      rw [hfind] at h
      cases h

/-- A rule that is changed in its place and keeps its name leaves all names as they are. -/
theorem ruleName_changeRule (d : Catalogue) (r : Nat) {f : Rule → Rule}
    (hf : ∀ rule, (f rule).name = rule.name) (r' : Nat) :
    (d.changeRule r f).ruleName r' = d.ruleName r' := by
  simp only [ruleName, rule?, changeRule, Array.getElem?_modify]
  split
  · cases d.rules[r']? with
    | none => rfl
    | some o => exact hf o.rule
  · rfl

/-! ## Calls -/

/-- What can be done to the policies of a catalogue. -/
inductive Call where
  /-- A rule is added to a policy. -/
  | add (p r : Nat)
  /-- A rule is removed from a policy, with its exemptions in a register if one is given. -/
  | remove (p r : Nat) (register : Option Register)
  /-- A rule is changed in its place. -/
  | change (r : Nat) (f : Rule → Rule)

/-- Calls are for rules that there are, and leave their names alone. -/
def Call.Proper (rules : Nat) : Call → Prop
  | add _ r => r < rules
  | remove _ r _ => r < rules
  | change _ f => ∀ rule, (f rule).name = rule.name

/-- What is answered. -/
inductive Reply where
  /-- It is done. -/
  | done
  /-- It is refused. -/
  | refused (f : Fault)
  /-- The member that was removed. -/
  | removed (m : Nat)
  /-- No member is meant. -/
  | absent

/-- Carries out a call. -/
def perform (d : Catalogue) : Call → Catalogue × Reply
  | .add p r => match d.addRule p r with
    | .ok e => (e, .done)
    | .error f => (d, .refused f)
  | .remove p r register => match d.dismiss p r register with
    | (e, _, some m) => (e, .removed m)
    | (e, _, none) => (e, .absent)
  | .change r f => (d.changeRule r f, .done)

/-- Calls and the answers to them, the latest first. -/
abbrev History := List (Call × Reply)

/-- Carries out calls one after the other, behind a history. -/
def performAll (d : Catalogue) (history : History) : List Call → Catalogue × History
  | [] => (d, history)
  | call :: rest => (d.perform call).1.performAll ((call, (d.perform call).2) :: history) rest

/-- The number of the call by which a rule came into a policy, if it has not been removed since. -/
def joined (p r : Nat) : History → Option Nat
  | [] => none
  | (.add p' r', .done) :: earlier =>
    if p' = p ∧ r' = r then some earlier.length else joined p r earlier
  | (.remove p' _ _, .removed m) :: earlier =>
    if p' = p ∧ m = r then none else joined p r earlier
  | _ :: earlier => joined p r earlier

/-- Rules came in by calls of the history. -/
theorem joined_lt {history : History} {t : Nat} (h : joined p r history = some t) :
    t < history.length := by
  fun_induction joined p r history with
  | case1 | case4 => cases h
  | case2 =>
      cases h
      exact Nat.lt_succ_self _
  | case3 _ _ _ _ ih => exact Nat.lt_succ_of_lt (ih h)
  | case5 _ _ _ _ _ _ ih => exact Nat.lt_succ_of_lt (ih h)
  | case6 _ _ _ _ ih => exact Nat.lt_succ_of_lt (ih h)

/-! ## What a policy lists -/

/-- A policy lists the rules that came into it and have not been removed since, in the order in
which they came in, and no two of one name. -/
structure Lists (p : Nat) (history : History) (d : Catalogue) : Prop where
  /-- The members are the rules that came in. -/
  mem_iff : ∀ r, r ∈ d.members p ↔ (joined p r history).isSome = true
  /-- They are in order. -/
  ordered : (d.members p).Pairwise fun a b => ∀ s t, joined p a history = some s →
    joined p b history = some t → s < t
  /-- Their names are different. -/
  distinct : (d.members p).Pairwise fun a b =>
    Value.equal (d.ruleName a) (d.ruleName b) = false
  /-- They are rules of the catalogue. -/
  known : ∀ r ∈ d.members p, r < d.rules.size

namespace Lists

variable {history : History}

/-- No member is listed twice. -/
theorem nodup (h : Lists p history d)
    (hnames : ∀ r < d.rules.size, (d.ruleName r).Discerns) : (d.members p).Nodup := by
  refine h.distinct.imp_of_mem ?_
  rintro a b ha _ hdistinct rfl
  rw [(hnames a (h.known a ha)).1] at hdistinct
  cases hdistinct

/-- At most one member has a name. -/
theorem eq_of_name (h : Lists p history d) {name : Value} (hname : name.Discerns) {a b : Nat}
    (ha : a ∈ d.members p) (hb : b ∈ d.members p)
    (hna : Value.equal (d.ruleName a) name = true)
    (hnb : Value.equal (d.ruleName b) name = true) : a = b := by
  let apart (a b : Nat) : Prop := Value.equal (d.ruleName a) (d.ruleName b) = false ∨
    Value.equal (d.ruleName b) (d.ruleName a) = false
  have : Std.Symm apart := ⟨fun _ _ => Or.symm⟩
  have hapart : (d.members p).Pairwise apart := h.distinct.imp Or.inl
  by_contra hne
  rcases hapart.forall ha hb hne with hab | hba
  · rw [hname.2 _ _ hna hnb] at hab
    cases hab
  · rw [hname.2 _ _ hnb hna] at hba
    cases hba

/-- A policy goes on listing its members if neither they nor their names change. -/
theorem congr {history' : History} (h : Lists p history d) (hmembers : e.members p = d.members p)
    (hnames : ∀ r, e.ruleName r = d.ruleName r) (hsize : e.rules.size = d.rules.size)
    (hjoined : ∀ r, joined p r history' = joined p r history) : Lists p history' e where
  mem_iff r := by rw [hmembers, hjoined, h.mem_iff]
  ordered := by
    simp only [hmembers, hjoined]
    exact h.ordered
  distinct := by
    simp only [hmembers, hnames]
    exact h.distinct
  known r hr := hsize ▸ h.known r (hmembers ▸ hr)

/-- A rule that is added is listed behind the members that are there. -/
theorem added (h : Lists p history d) (hp : p < d.policies.size)
    (hnames : ∀ r < d.rules.size, (d.ruleName r).Discerns) {p' : Nat} (hr : r < d.rules.size)
    (hadd : d.addRule p' r = .ok e) : Lists p ((.add p' r, .done) :: history) e := by
  obtain ⟨hupdates, hfree⟩ := addRule_eq_ok hadd
  by_cases hp' : p' = p
  · subst hp'
    have hmembers : e.members p' = d.members p' ++ [r] := hupdates.members hp
    have hnew : joined p' r ((.add p' r, .done) :: history) = some history.length :=
      if_pos ⟨rfl, rfl⟩
    have hold : ∀ a, a ≠ r → joined p' a ((.add p' r, .done) :: history) = joined p' a history :=
      fun a ha => if_neg fun hsame => ha hsame.2.symm
    -- the rule is not there yet, because its name would be there too
    have hout : ∀ a ∈ d.members p', a ≠ r := by
      rintro a ha rfl
      exact Bool.false_ne_true ((hfree a ha).symm.trans (hnames a hr).1)
    constructor
    · intro a
      rw [hmembers, List.mem_append, List.mem_singleton, h.mem_iff]
      by_cases ha : a = r
      · simp [ha, hnew]
      · simp [ha, hold a ha]
    · rw [hmembers, List.pairwise_append]
      refine ⟨h.ordered.imp_of_mem ?_, List.pairwise_singleton _ _, ?_⟩
      · intro a b ha hb hab
        rw [hold a (hout a ha), hold b (hout b hb)]
        exact hab
      · intro a ha b hb s t hs ht
        cases List.mem_singleton.1 hb
        rw [hnew] at ht
        cases ht
        exact joined_lt ((hold a (hout a ha)).symm.trans hs)
    · simp only [hmembers, hupdates.ruleName, List.pairwise_append]
      refine ⟨h.distinct, List.pairwise_singleton _ _, ?_⟩
      intro a ha b hb
      cases List.mem_singleton.1 hb
      exact hfree a ha
    · intro a ha
      rw [hmembers, List.mem_append, List.mem_singleton] at ha
      rw [hupdates.size]
      rcases ha with ha | rfl
      · exact h.known a ha
      · exact hr
  · exact h.congr (hupdates.members_of_ne (Ne.symm hp')) hupdates.ruleName hupdates.size
      fun a => if_neg fun hsame => hp' hsame.1

/-- The members that are left after one was removed. -/
theorem members_dismiss (h : Lists p history d)
    (hnames : ∀ r < d.rules.size, (d.ruleName r).Discerns) {register register' : Option Register}
    (hdismiss : d.dismiss p r register = (e, register', some m)) :
    Updates d e p m none ((d.members p).filter (· ≠ m)) := by
  obtain ⟨hfind, hupdates, _⟩ := dismiss_eq_some hdismiss
  rwa [eraseP_eq_filter (h.nodup hnames) hfind] at hupdates

/-- The other members stay listed when one is removed. -/
theorem removed (h : Lists p history d) (hp : p < d.policies.size)
    (hnames : ∀ r < d.rules.size, (d.ruleName r).Discerns) {p' : Nat}
    {register register' : Option Register}
    (hdismiss : d.dismiss p' r register = (e, register', some m)) :
    Lists p ((.remove p' r register, .removed m) :: history) e := by
  by_cases hp' : p' = p
  · subst hp'
    have hupdates := h.members_dismiss hnames hdismiss
    have hmembers : e.members p' = (d.members p').filter (· ≠ m) := hupdates.members hp
    have hgone : joined p' m ((.remove p' r register, .removed m) :: history) = none :=
      if_pos ⟨rfl, rfl⟩
    have hold : ∀ a, a ≠ m →
        joined p' a ((.remove p' r register, .removed m) :: history) = joined p' a history :=
      fun a ha => if_neg fun hsame => ha hsame.2.symm
    constructor
    · intro a
      rw [hmembers, List.mem_filter, h.mem_iff, decide_eq_true_eq]
      by_cases ha : a = m
      · simp [ha, hgone]
      · simp [ha, hold a ha]
    · rw [hmembers]
      refine (h.ordered.filter _).imp_of_mem ?_
      intro a b ha hb hab
      rw [hold a (of_decide_eq_true (List.mem_filter.1 ha).2),
        hold b (of_decide_eq_true (List.mem_filter.1 hb).2)]
      exact hab
    · simp only [hmembers, hupdates.ruleName]
      exact h.distinct.filter _
    · intro a ha
      rw [hmembers] at ha
      rw [hupdates.size]
      exact h.known a (List.mem_filter.1 ha).1
  · obtain ⟨_, hupdates, _⟩ := dismiss_eq_some hdismiss
    exact h.congr (hupdates.members_of_ne (Ne.symm hp')) hupdates.ruleName hupdates.size
      fun a => if_neg fun hsame => hp' hsame.1

/-- **One call.**  A policy goes on listing its members. -/
theorem perform (h : Lists p history d) (hp : p < d.policies.size)
    (hnames : ∀ r < d.rules.size, (d.ruleName r).Discerns) {call : Call}
    (hcall : call.Proper d.rules.size) :
    Lists p ((call, (d.perform call).2) :: history) (d.perform call).1 := by
  cases call with
  | add p' r =>
      rw [Catalogue.perform]
      cases hadd : d.addRule p' r with
      | ok e => exact h.added hp hnames hcall hadd
      | error f => exact h.congr rfl (fun _ => rfl) rfl fun _ => rfl
  | remove p' r register =>
      rw [Catalogue.perform]
      rcases hdismiss : d.dismiss p' r register with ⟨e, register', m | m⟩
      · obtain ⟨_, rfl, _⟩ := dismiss_eq_none hdismiss
        exact h.congr rfl (fun _ => rfl) rfl fun _ => rfl
      · exact h.removed hp hnames hdismiss
  | change r f =>
      exact h.congr rfl (d.ruleName_changeRule r hcall) Array.size_modify fun _ => rfl

end Lists

/-- Calls leave the names of rules alone, and how many rules and policies there are. -/
theorem kept_perform {call : Call} (hcall : call.Proper d.rules.size) :
    (d.perform call).1.rules.size = d.rules.size ∧
      (d.perform call).1.policies.size = d.policies.size ∧
      ∀ r, (d.perform call).1.ruleName r = d.ruleName r := by
  cases call with
  | add p r =>
      rw [perform]
      cases hadd : d.addRule p r with
      | ok e =>
          obtain ⟨hupdates, _⟩ := addRule_eq_ok hadd
          exact ⟨hupdates.size, hupdates.count, hupdates.ruleName⟩
      | error f => exact ⟨rfl, rfl, fun _ => rfl⟩
  | remove p r register =>
      rw [perform]
      rcases hdismiss : d.dismiss p r register with ⟨e, register', m | m⟩
      · obtain ⟨_, rfl, _⟩ := dismiss_eq_none hdismiss
        exact ⟨rfl, rfl, fun _ => rfl⟩
      · obtain ⟨_, hupdates, _⟩ := dismiss_eq_some hdismiss
        exact ⟨hupdates.size, hupdates.count, hupdates.ruleName⟩
  | change r f => exact ⟨Array.size_modify, rfl, d.ruleName_changeRule r hcall⟩

/-- **All calls.**  A policy goes on listing its members, whatever is done to the policies. -/
theorem Lists.performAll {history : History} (h : Lists p history d) (hp : p < d.policies.size)
    (hnames : ∀ r < d.rules.size, (d.ruleName r).Discerns) {calls : List Call}
    (hcalls : ∀ call ∈ calls, call.Proper d.rules.size) :
    Lists p (d.performAll history calls).2 (d.performAll history calls).1 ∧
      p < (d.performAll history calls).1.policies.size ∧
      (d.performAll history calls).1.rules.size = d.rules.size ∧
      ∀ r, (d.performAll history calls).1.ruleName r = d.ruleName r := by
  induction calls generalizing d history with
  | nil => exact ⟨h, hp, rfl, fun _ => rfl⟩
  | cons call rest ih =>
      obtain ⟨hcall, hrest⟩ := List.forall_mem_cons.1 hcalls
      obtain ⟨hsize, hcount, hsame⟩ := kept_perform hcall
      rw [Catalogue.performAll]
      obtain ⟨hlists, hp', hsize', hsame'⟩ := ih (h.perform hp hnames hcall) (hcount ▸ hp)
        (fun r hr => hsame r ▸ hnames r (hsize ▸ hr)) (hsize.symm ▸ hrest)
      exact ⟨hlists, hp', hsize'.trans hsize, fun r => (hsame' r).trans (hsame r)⟩

/-! ## What is answered -/

/-- What a policy answers when a rule is added or removed, or asked for by its name. -/
structure Answers (d : Catalogue) (p : Nat) : Prop where
  /-- A rule is refused if a member has its name. -/
  refuses_iff : ∀ r, (∃ f, d.addRule p r = .error f) ↔
    ∃ m ∈ d.members p, Value.equal (d.ruleName m) (d.ruleName r) = true
  /-- The complaint names the policy and the rule, unless a name cannot be written, and nothing
  changes. -/
  refused : ∀ r f, d.addRule p r = .error f →
    (∃ l, d.policies[p]? = some l ∧ f = (Fault.duplicateRule l.name (d.ruleName r)).worded ∧
      (l.name.isSpellable = true → (d.ruleName r).isSpellable = true →
        f = .duplicateRule l.name (d.ruleName r))) ∧
      d.perform (.add p r) = (d, .refused f)
  /-- A rule that is not refused becomes the last member, and belongs to the policy. -/
  added : ∀ r e, d.addRule p r = .ok e → Updates d e p r (some p) (d.members p ++ [r])
  /-- No rule is found by a name that no member has. -/
  finds_none_iff : ∀ l name, d.policy? p = some l → (l.find? name = none ↔
    ∀ m ∈ d.members p, Value.equal (d.ruleName m) name = false)
  /-- The rule that is found by a name is the only member that has it. -/
  finds : ∀ l name rule, name.Discerns → d.policy? p = some l → l.find? name = some rule →
    ∃ m ∈ d.members p, d.rule? m = some rule ∧ Value.equal rule.name name = true ∧
      ∀ m' ∈ d.members p, Value.equal (d.ruleName m') name = true → m' = m
  /-- A member is removed if one is meant. -/
  removes_iff : ∀ r register,
    (d.dismiss p r register).2.2.isSome = true ↔ ∃ m ∈ d.members p, d.IsMeant r m
  /-- It is the only one that is meant; the others stay in order, and it takes the exemptions for
  its id with it. -/
  removed : ∀ r < d.rules.size, ∀ register e register' m,
    d.dismiss p r register = (e, register', some m) →
      m ∈ d.members p ∧ d.IsMeant r m ∧ (∀ m' ∈ d.members p, d.IsMeant r m' → m' = m) ∧
        Updates d e p m none ((d.members p).filter (· ≠ m)) ∧
        ∃ rule, d.rule? m = some rule ∧ register' = register.map fun x =>
          ⟨x.entries.filter fun exemption => !Value.equal exemption.rule rule.id⟩
  /-- If none is meant, nothing changes. -/
  unmoved : ∀ r register e register', d.dismiss p r register = (e, register', none) →
    e = d ∧ register' = register

/-- A rule of the catalogue has a name. -/
theorem exists_rule? (hr : r < d.rules.size) :
    ∃ rule, d.rule? r = some rule ∧ d.ruleName r = rule.name := by
  have hrule : d.rule? r = some d.rules[r].rule := by
    rw [rule?, Array.getElem?_eq_getElem hr, Option.map_some]
  exact ⟨_, hrule, by rw [ruleName, hrule, Option.map_some, Option.getD_some]⟩

/-- The rules of a policy have the names of its members. -/
theorem find?_policy {l : Policy} (hl : d.policy? p = some l) (name : Value)
    (hknown : ∀ m ∈ d.members p, m < d.rules.size) :
    l.find? name = ((d.members p).find? fun m => Value.equal (d.ruleName m) name).bind d.rule? := by
  obtain ⟨listed, hlisted, rfl⟩ := Option.map_eq_some_iff.1 hl
  have hmembers : d.members p = listed.members := by rw [members, hlisted]; rfl
  rw [← hmembers] at *
  rw [Policy.find?, List.find?_filterMap]
  congr 1
  refine List.find?_congr fun m hm => ?_
  obtain ⟨rule, hrule, hname⟩ := exists_rule? (hknown m hm)
  rw [hrule, hname, Option.any_some]

/-- A policy that lists its members answers accordingly. -/
theorem Lists.answers {history : History} (h : Lists p history d) (hp : p < d.policies.size)
    (hnames : ∀ r < d.rules.size, (d.ruleName r).Discerns) : Answers d p where
  refuses_iff r := by
    constructor
    · rintro ⟨f, hf⟩
      exact (addRule_eq_error hf).2
    · rintro ⟨m, hm, hname⟩
      cases hadd : d.addRule p r with
      | error f => exact ⟨f, rfl⟩
      | ok e =>
          rw [(addRule_eq_ok hadd).2 m hm] at hname
          cases hname
  refused r f hf := by
    have hworded : f = (Fault.duplicateRule d.policies[p].name (d.ruleName r)).worded := by
      rw [(addRule_eq_error hf).1, Array.getElem?_eq_getElem hp]
      rfl
    refine ⟨⟨d.policies[p], Array.getElem?_eq_getElem hp, hworded, fun hpolicy hrule => ?_⟩, ?_⟩
    · rw [hworded, Fault.worded, if_pos]
      simp [Fault.shown, Value.allSpellable, hpolicy, hrule]
    · rw [Catalogue.perform, hf]
  added r e he := (addRule_eq_ok he).1
  finds_none_iff l name hl := by
    rw [find?_policy hl name h.known]
    constructor
    · intro hnone m hm
      by_contra hname
      have hfound : ((d.members p).find? fun m =>
          Value.equal (d.ruleName m) name).isSome = true :=
        List.find?_isSome.2 ⟨m, hm, Bool.eq_true_of_not_eq_false hname⟩
      obtain ⟨m', hm'⟩ := Option.isSome_iff_exists.1 hfound
      obtain ⟨rule, hrule, _⟩ := exists_rule? (h.known m' (List.mem_of_find?_eq_some hm'))
      rw [hm', Option.bind_some, hrule] at hnone
      cases hnone
    · intro hfree
      rw [List.find?_eq_none.2 fun m hm => Bool.eq_false_iff.1 (hfree m hm)]
      rfl
  finds l name rule hname hl hfind := by
    rw [find?_policy hl name h.known] at hfind
    obtain ⟨m, hm, hrule⟩ := Option.bind_eq_some_iff.1 hfind
    have hmem := List.mem_of_find?_eq_some hm
    have hmname := List.find?_some hm
    refine ⟨m, hmem, hrule, ?_, fun m' hm' hname' => h.eq_of_name hname hm' hmem hname' hmname⟩
    obtain ⟨rule', hrule', hsame⟩ := exists_rule? (h.known m hmem)
    cases hrule.symm.trans hrule'
    exact hsame ▸ hmname
  removes_iff r register := by
    rcases hdismiss : d.dismiss p r register with ⟨e, register', m | m⟩
    · refine iff_of_false Bool.false_ne_true ?_
      rintro ⟨m, hm, hmeant⟩
      exact List.find?_eq_none.1 (dismiss_eq_none hdismiss).1 m hm (isMember_iff.2 hmeant)
    · have hfind := (dismiss_eq_some hdismiss).1
      exact iff_of_true rfl
        ⟨m, List.mem_of_find?_eq_some hfind, isMember_iff.1 (List.find?_some hfind)⟩
  removed r hr register e register' m hdismiss := by
    obtain ⟨hfind, _, hregister⟩ := dismiss_eq_some hdismiss
    have hmem := List.mem_of_find?_eq_some hfind
    have hmeant := isMember_iff.1 (List.find?_some hfind)
    obtain ⟨rule, hrule, _⟩ := exists_rule? (h.known m hmem)
    refine ⟨hmem, hmeant, fun m' hm' hmeant' => ?_, h.members_dismiss hnames hdismiss, rule, hrule,
      ?_⟩
    · exact h.eq_of_name (hnames r hr) hm' hmem (hmeant'.equal_ruleName (hnames r hr))
        (hmeant.equal_ruleName (hnames r hr))
    · rw [hregister, hrule]
      rfl
  unmoved r register e register' hdismiss := (dismiss_eq_none hdismiss).2

/-- A policy without members lists what no history brings in. -/
theorem lists_nil (h : d.members p = []) : Lists p [] d where
  mem_iff r := by simp [h, joined]
  ordered := by simp [h]
  distinct := by simp [h]
  known := by simp [h]

/-- **Membership.**  Whatever is done to the policies of a catalogue, as long as rules keep their
names: a policy that began without members lists the rules that came into it and were not removed,
in the order in which they came in and under different names, and it answers accordingly. -/
theorem membership_kept (c : Catalogue) (p : Nat) (calls : List Call)
    (hp : p < c.policies.size) (hempty : c.members p = [])
    (hnames : ∀ r < c.rules.size, (c.ruleName r).Discerns)
    (hcalls : ∀ call ∈ calls, call.Proper c.rules.size) :
    ∃ d history, c.performAll [] calls = (d, history) ∧ Lists p history d ∧ Answers d p := by
  obtain ⟨hlists, hp', hsize, hsame⟩ := (lists_nil hempty).performAll hp hnames hcalls
  refine ⟨_, _, rfl, hlists, hlists.answers hp' fun r hr => ?_⟩
  rw [hsame r]
  exact hnames r (hsize ▸ hr)

/-- Two rules of one name, kind and id, one that shares the id with them, and one the name. -/
def twins : Catalogue where
  rules := #[⟨⟨.int 1, .text "ssh", .flag true, .generic⟩, none⟩,
    ⟨⟨.int 1, .text "ssh", .flag false, .generic⟩, none⟩,
    ⟨⟨.int 1, .text "banner", .flag true, .generic⟩, none⟩,
    ⟨⟨.int 2, .text "ssh", .flag true, .generic⟩, none⟩]
  policies := #[⟨.int 1, .text "baseline", [], []⟩]

/-- A rule is added, refused for another one of its name, removed through its twin, and replaced by
the twin. -/
def exchange : List Call :=
  [.add 0 0, .add 0 2, .add 0 3, .remove 0 1 none, .change 2 fun rule => { rule with id := .int 7 },
    .add 0 1]

/-- The twin comes behind the rule that was there all the time. -/
theorem membership_of_twins :
    ∃ d history, twins.performAll [] exchange = (d, history) ∧
      d.members 0 = [2, 1] ∧ history.map Prod.snd = [.done, .done, .removed 0,
        .refused (.duplicateRule (.text "baseline") (.text "ssh")), .done, .done] ∧
      Lists 0 history d ∧ Answers d 0 := by
  have hnames : ∀ r < twins.rules.size, (twins.ruleName r).Discerns := by
    intro r hr
    match r, hr with
    | 0, _ | 1, _ | 2, _ | 3, _ => exact Value.discerns_text _
  have hcalls : ∀ call ∈ exchange, call.Proper twins.rules.size := by
    simp [exchange, Call.Proper, twins]
  obtain ⟨d, history, hall, hlists, hanswers⟩ :=
    membership_kept twins 0 exchange (by decide) rfl hnames hcalls
  refine ⟨d, history, hall, ?_, ?_, hlists, hanswers⟩
  · have hmembers : (twins.performAll [] exchange).1.members 0 = [2, 1] := by cbv
    rwa [hall] at hmembers
  · have hreplies : (twins.performAll [] exchange).2.map Prod.snd = [.done, .done, .removed 0,
        .refused (.duplicateRule (.text "baseline") (.text "ssh")), .done, .done] := by cbv
    rwa [hall] at hreplies

end Catalogue

end ConfigAudit
