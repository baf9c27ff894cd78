/-
# References are kept

The database does not look after the references between its tables, so the operations have to.
After any operations ids and names are used once, every rule belongs to a stored policy and every
exemption to a stored rule, and what is deleted takes with it exactly what refers to it.

* `Store.Sound` : what holds of every store that operations have made;
* `Change.sound`, `Moved.sound` : what one operation keeps;
* `deleteRule_calm`, `deletePolicy_calm` : deletions that succeed;
* `references_kept` : what operations in a row keep, and what deletions delete.
-/
import ConfigAudit.Proofs.Store.Change

namespace ConfigAudit

/-! ## Lists with keys -/

/-- Of rows with different keys, all but one are those with other keys. -/
theorem filter_key_ne {α : Type} (key : α → Int) {before behind : List α} {a : α}
    (distinct : ((before ++ a :: behind).map key).Nodup) :
    (before ++ a :: behind).filter (fun x => key x != key a) = before ++ behind := by
  rw [List.map_append, List.map_cons, List.nodup_middle, List.nodup_cons, ← List.map_append]
    at distinct
  have hkeep : ∀ x ∈ before ++ behind, (key x != key a) = true := by
    intro x hx
    rw [bne_iff_ne]
    intro heq
    exact distinct.1 (List.mem_map.2 ⟨x, hx, heq⟩)
  rw [List.filter_append, List.filter_cons_of_neg (by simp), ← List.filter_append,
    List.filter_eq_self.2 hkeep]

/-- Of rows with different keys, each is found under its key. -/
theorem find?_key {α : Type} {key : α → Int} {l : List α} {a : α} (distinct : (l.map key).Nodup)
    (ha : a ∈ l) : l.find? (fun x => key x == key a) = some a := by
  cases hfind : l.find? fun x => key x == key a with
  | none => exact absurd (beq_self_eq_true (key a)) (List.find?_eq_none.1 hfind a ha)
  | some b =>
      have hkey : key b = key a := by simpa using List.find?_some hfind
      rw [List.inj_on_of_nodup_map distinct (List.mem_of_find?_eq_some hfind) ha hkey]

/-- Rows that are left over keep different keys. -/
theorem nodup_map_filter {α β : Type} {key : α → β} {l : List α} (h : (l.map key).Nodup)
    (p : α → Bool) : ((l.filter p).map key).Nodup :=
  h.sublist (List.filter_sublist.map key)

/-- A row with a new key keeps the keys different. -/
theorem nodup_map_concat {α β : Type} {key : α → β} {l : List α} {a : α} (h : (l.map key).Nodup)
    (new : key a ∉ l.map key) : ((l ++ [a]).map key).Nodup := by
  rw [List.map_append, List.map_singleton, List.nodup_append]
  refine ⟨h, List.nodup_singleton _, ?_⟩
  rintro x hx y hy rfl
  rw [List.mem_singleton.1 hy] at hx
  exact new hx

namespace Store

/-! ## Sound stores -/

/-- The pair that an exemption is for. -/
def pairOf (e : ExemptionRow) : Int × Int := (e.rule, e.device)

/-- What holds of every store that operations have made. -/
structure Sound (s : Store) : Prop where
  /-- No two policies have the same id. -/
  policyIds : (s.policies.map (·.id)).Nodup
  /-- No two policies have the same name. -/
  policyNames : (s.policies.map (·.name)).Nodup
  /-- No two rules have the same id. -/
  ruleIds : (s.rules.map (·.id)).Nodup
  /-- No two rules of a policy have the same name. -/
  ruleNames : (s.rules.map fun r => (r.policy, r.name)).Nodup
  /-- Every rule belongs to a stored policy. -/
  owned : ∀ r ∈ s.rules, ∃ p ∈ s.policies, p.id = r.policy
  /-- Every exemption belongs to a stored rule. -/
  attached : ∀ e ∈ s.exemptions, ∃ r ∈ s.rules, r.id = e.rule
  /-- There is at most one exemption of a rule and a device. -/
  pairs : (s.exemptions.map pairOf).Nodup

/-- The empty store is sound. -/
theorem sound_empty : empty.Sound where
  policyIds := List.nodup_nil
  policyNames := List.nodup_nil
  ruleIds := List.nodup_nil
  ruleNames := List.nodup_nil
  owned := fun _ hr => absurd hr List.not_mem_nil
  attached := fun _ he => absurd he List.not_mem_nil
  pairs := List.nodup_nil

variable {s s' : Store}

/-- A rule of a sound store is known by its id. -/
theorem Sound.rule_eq (h : s.Sound) {r r' : RuleRow} (hr : r ∈ s.rules) (hr' : r' ∈ s.rules)
    (hid : r.id = r'.id) : r = r' :=
  List.inj_on_of_nodup_map h.ruleIds hr hr' hid

/-- If no two rules of a policy have the same name, the rules of one policy have different names. -/
theorem nodup_names (names : (s.rules.map fun r => (r.policy, r.name)).Nodup) (n : Int) :
    ((s.rulesOf n).map (·.name)).Nodup := by
  have hpairs := nodup_map_filter names fun r => r.policy == n
  have hsplit : (s.rulesOf n).map (fun r => (r.policy, r.name)) =
      ((s.rulesOf n).map (·.name)).map fun t => (n, t) := by
    rw [List.map_map]
    refine List.map_congr_left ?_
    intro r hr
    rw [beq_iff_eq.1 (List.mem_filter.1 hr).2]
    rfl
  rw [← rulesOf, hsplit] at hpairs
  exact hpairs.of_map _

/-! ## What is left of a store -/

/-- What is left of a sound store without a policy. -/
theorem Sound.withoutPolicy_eq (h : s.Sound) (n : Int) :
    s.withoutPolicy n = ⟨s.policies.filter fun p => p.id != n, s.rules.filter fun r => r.policy != n,
      s.exemptions.filter fun e => (s.rulesOf n).all fun r => r.id != e.rule⟩ := by
  have hrules : (s.rules.filter fun r => r.id ∉ (s.rulesOf n).map (·.id)) =
      s.rules.filter fun r => r.policy != n := by
    apply List.filter_congr
    intro r hr
    rw [Bool.eq_iff_iff, decide_eq_true_iff, bne_iff_ne]
    constructor
    · intro hnot heq
      exact hnot (List.mem_map.2 ⟨r, List.mem_filter.2 ⟨hr, by simp [heq]⟩, rfl⟩)
    · intro hne hmem
      -- another rule of the policy with this id would be the same rule
      obtain ⟨r', hr', hid⟩ := List.mem_map.1 hmem
      obtain ⟨hmem', hpolicy⟩ := List.mem_filter.1 hr'
      obtain rfl := h.rule_eq hmem' hr hid
      exact hne (by simpa using hpolicy)
  have hexemptions : (s.exemptions.filter fun e => e.rule ∉ (s.rulesOf n).map (·.id)) =
      s.exemptions.filter fun e => (s.rulesOf n).all fun r => r.id != e.rule := by
    apply List.filter_congr
    intro e _
    rw [Bool.eq_iff_iff]
    simp
  rw [withoutPolicy, foldl_withoutRule, hrules, hexemptions]

/-! ## What one operation keeps -/

/-- A sound store without a rule is sound. -/
theorem Sound.withoutRule (h : s.Sound) (n : Int) : (s.withoutRule n).Sound where
  policyIds := h.policyIds
  policyNames := h.policyNames
  ruleIds := nodup_map_filter h.ruleIds _
  ruleNames := nodup_map_filter h.ruleNames _
  owned := fun r hr => h.owned r (List.mem_of_mem_filter hr)
  attached := by
    intro e he
    obtain ⟨hmem, hne⟩ := List.mem_filter.1 he
    obtain ⟨r, hr, hid⟩ := h.attached e hmem
    exact ⟨r, List.mem_filter.2 ⟨hr, hid ▸ hne⟩, hid⟩
  pairs := nodup_map_filter h.pairs _

/-- A sound store without a policy is sound. -/
theorem Sound.withoutPolicy (h : s.Sound) (n : Int) : (s.withoutPolicy n).Sound := by
  rw [h.withoutPolicy_eq n]
  refine ⟨nodup_map_filter h.policyIds _, nodup_map_filter h.policyNames _,
    nodup_map_filter h.ruleIds _, nodup_map_filter h.ruleNames _, ?_, ?_,
    nodup_map_filter h.pairs _⟩
  · intro r hr
    obtain ⟨hmem, hne⟩ := List.mem_filter.1 hr
    obtain ⟨p, hp, hid⟩ := h.owned r hmem
    exact ⟨p, List.mem_filter.2 ⟨hp, hid ▸ hne⟩, hid⟩
  · intro e he
    obtain ⟨hmem, hnone⟩ := List.mem_filter.1 he
    obtain ⟨r, hr, hid⟩ := h.attached e hmem
    refine ⟨r, List.mem_filter.2 ⟨hr, ?_⟩, hid⟩
    rw [bne_iff_ne]
    intro hpolicy
    have hmem' : r ∈ s.rulesOf n := List.mem_filter.2 ⟨hr, by simp [hpolicy]⟩
    have hne := List.all_eq_true.1 hnone r hmem'
    simp [hid] at hne

/-- A policy with a new id and a new name keeps a store sound. -/
theorem Sound.addPolicy (h : s.Sound) {row : PolicyRow}
    (numbered : row.id = nextId (s.policies.map (·.id)))
    (free : ∀ q ∈ s.policies, q.name ≠ row.name) :
    Sound { s with policies := s.policies ++ [row] } where
  policyIds := nodup_map_concat h.policyIds (numbered ▸ nextId_not_mem _)
  policyNames := by
    refine nodup_map_concat h.policyNames ?_
    intro hmem
    obtain ⟨q, hq, heq⟩ := List.mem_map.1 hmem
    exact free q hq heq
  ruleIds := h.ruleIds
  ruleNames := h.ruleNames
  owned := by
    intro r hr
    obtain ⟨p, hp, hid⟩ := h.owned r hr
    exact ⟨p, List.mem_append_left _ hp, hid⟩
  attached := h.attached
  pairs := h.pairs

/-- A rule with a new id and a new name in a stored policy keeps a store sound. -/
theorem Sound.addRule (h : s.Sound) {row : RuleRow} {p : PolicyRow} (found : p ∈ s.policies)
    (belongs : row.policy = p.id) (numbered : row.id = nextId (s.rules.map (·.id)))
    (free : ∀ r ∈ s.rules, r.policy = p.id → r.name ≠ row.name) :
    Sound { s with rules := s.rules ++ [row] } where
  policyIds := h.policyIds
  policyNames := h.policyNames
  ruleIds := nodup_map_concat h.ruleIds (numbered ▸ nextId_not_mem _)
  ruleNames := by
    refine nodup_map_concat h.ruleNames ?_
    intro hmem
    obtain ⟨r, hr, heq⟩ := List.mem_map.1 hmem
    obtain ⟨hpolicy, hname⟩ := Prod.mk.inj heq
    exact free r hr (hpolicy.trans belongs) hname
  owned := by
    intro r hr
    rcases List.mem_append.1 hr with hr | hr
    · exact h.owned r hr
    · rw [List.mem_singleton.1 hr]
      exact ⟨p, found, belongs.symm⟩
  attached := by
    intro e he
    obtain ⟨r, hr, hid⟩ := h.attached e he
    exact ⟨r, List.mem_append_left _ hr, hid⟩
  pairs := h.pairs

/-- A rule in whose place another may have been put keeps its id. -/
theorem id_replaced (row r : RuleRow) : (if r.id == row.id then row else r).id = r.id := by
  split
  · rename_i hid
    exact (beq_iff_eq.1 hid).symm
  · rfl

/-- A rule in whose place another of its policy may have been put keeps its policy. -/
theorem policy_replaced {row old r : RuleRow} {rows : List RuleRow}
    (distinct : (rows.map (·.id)).Nodup) (found : old ∈ rows) (same : row.id = old.id)
    (stays : row.policy = old.policy) (hr : r ∈ rows) :
    (if r.id == row.id then row else r).policy = r.policy := by
  split
  · rename_i hid
    have hold : r.id = old.id := (beq_iff_eq.1 hid).trans same
    rw [List.inj_on_of_nodup_map distinct hr found hold, stays]
  · rfl

/-- Replacing a rule keeps the ids. -/
theorem map_id_replaceRule (row : RuleRow) (rows : List RuleRow) :
    (replaceRule row rows).map (·.id) = rows.map (·.id) := by
  rw [replaceRule, List.map_map]
  exact List.map_congr_left fun r _ => id_replaced row r

/-- The rules after one is replaced: the new row, and the old ones of other ids. -/
theorem mem_replaceRule {row r : RuleRow} {rows : List RuleRow} (h : r ∈ replaceRule row rows) :
    r = row ∨ r ∈ rows ∧ r.id ≠ row.id := by
  obtain ⟨r₀, hr₀, heq⟩ := List.mem_map.1 h
  split at heq
  · exact Or.inl heq.symm
  · rename_i hne
    refine Or.inr ⟨heq ▸ hr₀, ?_⟩
    rw [← heq]
    simpa using hne

/-- A changed rule whose name no other rule of its policy has keeps a store sound. -/
theorem Sound.updateRule (h : s.Sound) {old row : RuleRow} (found : old ∈ s.rules)
    (same : row.id = old.id) (stays : row.policy = old.policy)
    (free : ∀ r ∈ s.rules, r.id ≠ old.id → r.policy = old.policy → r.name ≠ row.name) :
    Sound { s with rules := replaceRule row s.rules } where
  policyIds := h.policyIds
  policyNames := h.policyNames
  ruleIds := by
    rw [map_id_replaceRule]
    exact h.ruleIds
  ruleNames := by
    -- rules of other ids than the changed one keep their names, and none of these is its name
    have hother : ∀ r ∈ s.rules, r.id ≠ row.id → (r.policy, r.name) ≠ (row.policy, row.name) := by
      intro r hr hid heq
      obtain ⟨hpolicy, hname⟩ := Prod.mk.inj heq
      exact free r hr (same ▸ hid) (hpolicy.trans stays) hname
    have hpairwise := (List.pairwise_map.1 h.ruleIds).and (List.pairwise_map.1 h.ruleNames)
    unfold replaceRule
    rw [List.map_map]
    refine List.pairwise_map.2 (hpairwise.imp_of_mem ?_)
    rintro a b ha hb ⟨hid, hname⟩
    rw [Function.comp_apply, Function.comp_apply]
    split
    · rename_i haid
      split
      · rename_i hbid
        exact absurd ((beq_iff_eq.1 haid).trans (beq_iff_eq.1 hbid).symm) hid
      · rename_i hbid
        exact (hother b hb (by simpa using hbid)).symm
    · rename_i haid
      split
      · exact hother a ha (by simpa using haid)
      · exact hname
  owned := by
    intro r hr
    rcases mem_replaceRule hr with rfl | ⟨hr, _⟩
    · rw [stays]
      exact h.owned old found
    · exact h.owned r hr
  attached := by
    intro e he
    have hid : e.rule ∈ s.rules.map (·.id) := by
      obtain ⟨r, hr, hid⟩ := h.attached e he
      exact List.mem_map.2 ⟨r, hr, hid⟩
    rw [← map_id_replaceRule row] at hid
    obtain ⟨r, hr, hid⟩ := List.mem_map.1 hid
    exact ⟨r, hr, hid⟩
  pairs := h.pairs

/-- The exemptions after one is entered: the new row, and the old ones. -/
theorem mem_enterRow {row e : ExemptionRow} {rows : List ExemptionRow} (h : e ∈ enterRow row rows) :
    e = row ∨ e ∈ rows := by
  induction rows with
  | nil => exact Or.inl (List.mem_singleton.1 h)
  | cons e' rest ih =>
      rw [enterRow] at h
      split at h
      · rcases List.mem_cons.1 h with rfl | h
        · exact Or.inl rfl
        · exact Or.inr (List.mem_cons_of_mem _ h)
      · rcases List.mem_cons.1 h with rfl | h
        · exact Or.inr List.mem_cons_self
        · exact (ih h).imp_right (List.mem_cons_of_mem _)

/-- Whether a row is for the pair of another. -/
theorem isRowFor_iff {row e : ExemptionRow} :
    isRowFor row.rule row.device e = true ↔ pairOf e = pairOf row := by
  rw [isRowFor, Bool.and_eq_true, beq_iff_eq, beq_iff_eq, pairOf, pairOf, Prod.mk.injEq]

/-- An exemption of a pair is entered in the place of the one for this pair, if there is one. -/
theorem map_pairOf_enterRow (row : ExemptionRow) (rows : List ExemptionRow) :
    (enterRow row rows).map pairOf =
      if pairOf row ∈ rows.map pairOf then rows.map pairOf else rows.map pairOf ++ [pairOf row] := by
  induction rows with
  | nil => simp [enterRow]
  | cons e rest ih =>
      rw [enterRow]
      split
      · rename_i hfor
        rw [List.map_cons, List.map_cons, isRowFor_iff.1 hfor, if_pos List.mem_cons_self]
      · rename_i hfor
        have hne : pairOf row ≠ pairOf e := fun heq => hfor (isRowFor_iff.2 heq.symm)
        rw [List.map_cons, List.map_cons, ih]
        by_cases hmem : pairOf row ∈ rest.map pairOf
        · rw [if_pos hmem, if_pos (List.mem_cons_of_mem _ hmem)]
        · rw [if_neg hmem, if_neg (by simpa [hne] using hmem), List.cons_append]

/-- An exemption from a stored rule keeps a store sound. -/
theorem Sound.addExemption (h : s.Sound) {r : RuleRow} {row : ExemptionRow} (found : r ∈ s.rules)
    (belongs : row.rule = r.id) : Sound { s with exemptions := enterRow row s.exemptions } where
  policyIds := h.policyIds
  policyNames := h.policyNames
  ruleIds := h.ruleIds
  ruleNames := h.ruleNames
  owned := h.owned
  attached := by
    intro e he
    rcases mem_enterRow he with rfl | he
    · exact ⟨r, found, belongs.symm⟩
    · exact h.attached e he
  pairs := by
    rw [map_pairOf_enterRow]
    split
    · exact h.pairs
    · rename_i new
      rw [← List.map_singleton, ← List.map_append]
      exact nodup_map_concat h.pairs new

/-- Fewer exemptions keep a store sound. -/
theorem Sound.filterExemptions (h : s.Sound) (p : ExemptionRow → Bool) :
    Sound { s with exemptions := s.exemptions.filter p } where
  policyIds := h.policyIds
  policyNames := h.policyNames
  ruleIds := h.ruleIds
  ruleNames := h.ruleNames
  owned := h.owned
  attached := fun e he => h.attached e (List.mem_of_mem_filter he)
  pairs := nodup_map_filter h.pairs p

/-- **An operation that succeeds keeps a store sound.** -/
theorem Change.sound {op : Operation} {a : Answer} (h : s.Sound) (hchange : Change s op a s') :
    s'.Sound := by
  cases hchange with
  | createPolicy _ new _ => exact h.addPolicy new.numbered new.free
  | deletePolicy _ _ => exact h.withoutPolicy _
  | addRule found _ kept free => exact h.addRule found kept.policy_eq kept.id_eq free
  | updateRule found _ kept free => exact h.updateRule found kept.id_eq kept.policy_eq free
  | deleteRule _ _ => exact h.withoutRule _
  | addExemption found _ _ => exact h.addExemption found rfl
  | removeExemption _ _ => exact h.filterExemptions _
  | noExemption => exact h

/-- So does one that fails. -/
theorem Moved.sound {op : Operation} (h : s.Sound) (hmoved : Moved s op s') : s'.Sound := by
  rcases hmoved with rfl | ⟨a, hchange⟩ | ⟨f, hleft⟩
  · exact h
  · exact hchange.sound h
  · cases hleft with
    | createPolicy _ new _ => exact h.addPolicy new.numbered new.free

end Store

/-- Operations in a row keep the store of a session sound. -/
theorem Session.sound_after (g : Setting) (w : Weather) {s : Session} (h : s.Settled)
    (hs : s.stored.Sound) (ops : List Operation) :
    (s.after g w ops).Settled ∧ (s.after g w ops).stored.Sound :=
  after_induction Store.Sound (fun _ => True) (fun _ _ _ _ hs hmoved => hmoved.sound hs) ops
    (fun _ _ => trivial) h hs

namespace Store

/-! ## What deletions delete -/

/-- What is lost with a rule: its row and its exemptions. -/
structure LostRule (s s' : Store) (n : Int) : Prop where
  /-- No policy is lost. -/
  policies : s'.policies = s.policies
  /-- The rule is lost, and no other one. -/
  rules : ∃ r before behind, r.id = n ∧ s.rules = before ++ r :: behind ∧ s'.rules = before ++ behind
  /-- The exemptions of the rule are lost, and no others. -/
  exemptions : s'.exemptions = s.exemptions.filter fun e => e.rule != n

/-- What is lost with a policy: its row, its rules and their exemptions. -/
structure LostPolicy (s s' : Store) (n : Int) : Prop where
  /-- The policy is lost, and no other one. -/
  policies : ∃ p before behind, p.id = n ∧ s.policies = before ++ p :: behind ∧
    s'.policies = before ++ behind
  /-- The rules of the policy are lost, and no others. -/
  rules : s'.rules = s.rules.filter fun r => r.policy != n
  /-- The exemptions of these rules are lost, and no others. -/
  exemptions : s'.exemptions =
    s.exemptions.filter fun e => (s.rulesOf n).all fun r => r.id != e.rule

/-- A sound store loses with a rule what it should. -/
theorem Sound.lostRule (h : s.Sound) {r : RuleRow} (hr : r ∈ s.rules) :
    LostRule s (s.withoutRule r.id) r.id where
  policies := rfl
  rules := by
    obtain ⟨before, behind, hsplit⟩ := List.append_of_mem hr
    refine ⟨r, before, behind, rfl, hsplit, ?_⟩
    have hids := h.ruleIds
    rw [hsplit] at hids
    rw [Store.withoutRule, hsplit]
    exact filter_key_ne _ hids
  exemptions := rfl

/-- A sound store loses with a policy what it should. -/
theorem Sound.lostPolicy (h : s.Sound) {p : PolicyRow} (hp : p ∈ s.policies) :
    LostPolicy s (s.withoutPolicy p.id) p.id := by
  rw [h.withoutPolicy_eq]
  refine ⟨?_, rfl, rfl⟩
  obtain ⟨before, behind, hsplit⟩ := List.append_of_mem hp
  refine ⟨p, before, behind, rfl, hsplit, ?_⟩
  have hids := h.policyIds
  rw [hsplit] at hids
  rw [hsplit]
  exact filter_key_ne _ hids

end Store

namespace Session

open Store

variable {s : Session} {rows : Store}

/-! ## Deletions that succeed -/

/-- In calm weather a value is looked for and found to mean something. -/
theorem key_calm {report : DatabaseFault → Fault} {v : Value} {n : Int} (usable : s.broken = none)
    (meant : v.means n = true) :
    reporting report (do
      reach .calm .get
      answer (columnInteger? v)) s = .ok (some n) { s with calls := s.calls + 1 } := by
  have hrun : (do
      reach .calm .get
      answer (columnInteger? v)) s = .ok (some n) { s with calls := s.calls + 1 } := by
    rw [bind_of_ok (reach_of_none rfl usable), Value.means_iff.1 meant]
    rfl
  unfold reporting
  rw [hrun]

/-- In calm weather a rule of a sound store is found under its id. -/
theorem findRule_calm (h : Ready rows s) (sound : rows.Sound) {r : RuleRow} (hr : r ∈ rows.rules)
    {id : Value} (meant : id.means r.id = true) :
    findRule .calm id s = .ok r { s with calls := s.calls + 1 } := by
  have hread : (read : Work Fault Store) { s with calls := s.calls + 1 } =
      .ok rows { s with calls := s.calls + 1 } := by
    rw [← h.rows_eq]
    rfl
  unfold findRule
  rw [bind_of_ok (key_calm h.usable meant), bind_of_ok hread, Option.bind_some, rule?,
    find?_key sound.ruleIds hr]
  rfl

/-- In calm weather a policy of a sound store is found under its id. -/
theorem findPolicy_calm (h : Ready rows s) (sound : rows.Sound) {p : PolicyRow}
    (hp : p ∈ rows.policies) {id : Value} (meant : id.means p.id = true) :
    findPolicy .calm id s = .ok p { s with calls := s.calls + 1 } := by
  have hread : (read : Work Fault Store) { s with calls := s.calls + 1 } =
      .ok rows { s with calls := s.calls + 1 } := by
    rw [← h.rows_eq]
    rfl
  unfold findPolicy
  rw [bind_of_ok (key_calm h.usable meant), bind_of_ok hread, Option.bind_some, policy?,
    find?_key sound.policyIds hp]
  rfl

/-- In calm weather the exemptions from a rule are dropped. -/
theorem dropExemptions_calm (usable : s.broken = none) (rule : Int) :
    ∃ n rows, dropExemptions .calm rule s = .ok n { s with
      rows := rows, calls := s.calls + 1 } :=
  ⟨_, _, bind_of_ok (reach_of_none rfl usable)⟩

/-- In calm weather rules are dropped. -/
theorem dropRules_calm (usable : s.broken = none) (rs : List RuleRow) :
    ∃ s', dropRules .calm rs s = .ok () s' ∧ s'.broken = none ∧
      s'.pending = s.pending ++ (rs.map (·.id)).map .deletedRule := by
  induction rs generalizing s with
  | nil => exact ⟨s, rfl, usable, (List.append_nil _).symm⟩
  | cons r rest ih =>
      obtain ⟨n, rows, hdrop⟩ := dropExemptions_calm usable r.id
      obtain ⟨s', hrest, husable, hpending⟩ := @ih { s with
        rows := rows, calls := s.calls + 1, pending := s.pending ++ [.deletedRule r.id] } usable
      refine ⟨s', ?_, husable, ?_⟩
      · have hdiscard : (discard (dropExemptions .calm r.id) : Work DatabaseFault Unit) s =
            .ok () { s with rows := rows, calls := s.calls + 1 } := bind_of_ok hdrop
        exact (bind_of_ok hdiscard).trans hrest
      · rw [hpending, List.append_assoc]
        rfl

/-- In calm weather a rule of a sound store can be deleted. -/
theorem deleteRule_calm (h : Ready rows s) (sound : rows.Sound) {r : RuleRow} (hr : r ∈ rows.rules)
    {id : Value} (meant : id.means r.id = true) : ∃ n s', deleteRule .calm id s = .ok n s' := by
  obtain ⟨n, rows', hdrop⟩ := @dropExemptions_calm { s with calls := s.calls + 1 } h.usable r.id
  have hwritten : (s.pending ++ [Pending.deletedRule r.id]).foldlM Pending.write rows' =
      .ok { rows' with rules := rows'.rules.filter (·.id != r.id) } := by
    rw [h.pending_eq, List.nil_append, foldlM_single]
    rfl
  obtain ⟨t, hcommit⟩ : ∃ t, commit .calm { s with
      rows := rows', pending := s.pending ++ [.deletedRule r.id], calls := s.calls + 1 + 1 } =
        .ok () t := ⟨_, commit_of_none rfl h.usable hwritten⟩
  refine ⟨n, t, (bind_of_ok (findRule_calm h sound hr meant)).trans (undoing_of_ok ?_)⟩
  rw [bind_of_ok hdrop, bind_defer]
  exact bind_of_ok hcommit

/-- In calm weather a policy of a sound store can be deleted. -/
theorem deletePolicy_calm (h : Ready rows s) (sound : rows.Sound) {p : PolicyRow}
    (hp : p ∈ rows.policies) {id : Value} (meant : id.means p.id = true) :
    ∃ s', deletePolicy .calm id s = .ok () s' := by
  obtain ⟨t, hdrop, husable, hpending⟩ :=
    @dropRules_calm { s with calls := s.calls + 1 } h.usable (rows.rulesOf p.id)
  have hwritten : (t.pending ++ [Pending.deletedPolicy p.id]).foldlM Pending.write t.rows =
      .ok { t.rows with
        policies := t.rows.policies.filter (·.id != p.id)
        rules := t.rows.rules.filter fun r => r.id ∉ (rows.rulesOf p.id).map (·.id) } := by
    rw [hpending, h.pending_eq, List.nil_append, List.foldlM_append, deletedRules_written]
    rfl
  obtain ⟨s', hcommit⟩ : ∃ s', commit .calm { t with
      pending := t.pending ++ [.deletedPolicy p.id] } = .ok () s' :=
    ⟨_, commit_of_none rfl husable hwritten⟩
  have hread : (read : Work DatabaseFault Store) { s with calls := s.calls + 1 } =
      .ok rows { s with calls := s.calls + 1 } := by
    rw [← h.rows_eq]
    rfl
  refine ⟨s', (bind_of_ok (findPolicy_calm h sound hp meant)).trans (undoing_of_ok ?_)⟩
  rw [bind_of_ok hread, bind_of_ok hdrop, bind_defer]
  exact hcommit

/-! ## References -/

/-- **References are kept.**  Whatever operations have been asked for, whether they succeeded or
failed and whatever was out of order, no id and no name is used twice and every reference leads to
a row, and a deletion then takes with it exactly what refers to the row that is deleted; with the
database in order, every row can be deleted by a session that is of use, and by a new one. -/
theorem references_kept (g : Setting) (w : Weather) (ops : List Operation) :
    let s := (opened .empty).after g w ops
    s.stored.Sound ∧
    (∀ w' id a s', perform g w' (.deleteRule id) s = .ok a s' → ∃ k, id.means k = true ∧
      LostRule s.stored s'.stored k ∧
      a = .count (s.stored.exemptions.countP fun e => e.rule == k)) ∧
    (∀ w' id a s', perform g w' (.deletePolicy id) s = .ok a s' → ∃ k, id.means k = true ∧
      LostPolicy s.stored s'.stored k) ∧
    ∀ t, Ready s.stored t →
      (∀ r ∈ s.stored.rules, ∀ id, id.means r.id = true →
        ∃ a t', perform g .calm (.deleteRule id) t = .ok a t') ∧
      ∀ p ∈ s.stored.policies, ∀ id, id.means p.id = true →
        ∃ a t', perform g .calm (.deletePolicy id) t = .ok a t' := by
  intro s
  obtain ⟨hsettled, hsound⟩ := sound_after g w (ready_opened .empty).settled sound_empty ops
  refine ⟨hsound, ?_, ?_, ?_⟩
  · intro w' id a s' hrun
    have hchange := (changed_of_perform hsettled hrun).2
    generalize s'.stored = rows at hchange ⊢
    cases hchange with
    | deleteRule found meant => exact ⟨_, meant, hsound.lostRule found, rfl⟩
  · intro w' id a s' hrun
    have hchange := (changed_of_perform hsettled hrun).2
    generalize s'.stored = rows at hchange ⊢
    cases hchange with
    | deletePolicy found meant => exact ⟨_, meant, hsound.lostPolicy found⟩
  · intro t ht
    have hready : Ready s.stored { t with passed := .nothing } :=
      ⟨ht.stored_eq, ht.rows_eq, ht.pending_eq, ht.usable⟩
    refine ⟨fun r hr id meant => ?_, fun p hp id meant => ?_⟩
    · obtain ⟨n, t', hdelete⟩ := deleteRule_calm hready hsound hr meant
      exact ⟨.count n, t', bind_of_ok hdelete⟩
    · obtain ⟨t', hdelete⟩ := deletePolicy_calm hready hsound hp meant
      exact ⟨.done, t', bind_of_ok hdelete⟩

end Session

end ConfigAudit
