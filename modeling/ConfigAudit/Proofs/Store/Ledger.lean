/-
# Policies are loaded as they were asked for

Whoever asks a store for changes can keep a ledger of what was asked for and succeeded, under the
ids that were answered.  Whatever has been asked for, the store loads exactly the policies of the
ledger, with their rules.

* `AskedPolicy`, `ledger` : the ledger, which knows nothing of rows;
* `Store.Mirrors` : the rows of a store and a ledger say the same;
* `Change.mirrors`, `mirrors_after` : one operation keeps this, and so do several in a row;
* `loaded_as_asked` : what is loaded after operations in a row.
-/
import ConfigAudit.Proofs.Store.Loading
import ConfigAudit.Proofs.Store.Sound

namespace ConfigAudit

/-! ## Ledgers -/

/-- A policy as it was created, with the rules that were asked for. -/
structure AskedPolicy where
  /-- The id. -/
  id : Int
  /-- The name. -/
  name : Value
  /-- The groups that it is for. -/
  targets : List Value
  /-- The rules under the ids that were answered. -/
  rules : List (Int × Rule)

namespace AskedPolicy

/-- The policy with one more rule. -/
def withRule (a : AskedPolicy) (n : Int) (r : Rule) : AskedPolicy :=
  { a with rules := a.rules ++ [(n, r)] }

/-- The policy with another rule under the id of the rule, if it has one under this id. -/
def withChange (a : AskedPolicy) (r : Rule) : AskedPolicy :=
  { a with rules := a.rules.map fun x => if r.id.means x.1 then (x.1, r) else x }

/-- The policy without the rule of an id. -/
def withoutRule (a : AskedPolicy) (id : Value) : AskedPolicy :=
  { a with rules := a.rules.filter fun x => !id.means x.1 }

end AskedPolicy

/-- The ledger after an operation that was answered. -/
def noted (l : List AskedPolicy) : Operation × Answer → List AskedPolicy
  | (.createPolicy _ _, .policy ⟨.int n, name, targets, _⟩) => l ++ [⟨n, name, targets, []⟩]
  | (.deletePolicy id, _) => l.filter fun a => !id.means a.id
  | (.addRule policy r, .rule ⟨.int n, _, _, _⟩) =>
      l.map fun a => if policy.means a.id then a.withRule n r else a
  | (.updateRule r, _) => l.map fun a => a.withChange r
  | (.deleteRule id, _) => l.map fun a => a.withoutRule id
  | _ => l

/-- The ledger of operations that were answered. -/
def ledger (answered : List (Operation × Answer)) : List AskedPolicy := answered.foldl noted []

/-- The operations that succeed, with their answers. -/
def Session.answered (g : Setting) (w : Weather) (s : Session) :
    List Operation → List (Operation × Answer)
  | [] => []
  | op :: ops => match perform g w op s with
    | .ok a s' => (op, a) :: s'.answered g w ops
    | .error _ s' => s'.answered g w ops

/-- The policy as it should be loaded: with rules in which an empty context or driver counts as
none. -/
def AskedPolicy.restored (a : AskedPolicy) : Policy :=
  ⟨.int a.id, a.name, a.targets, a.rules.map fun x => x.2.restored x.1⟩

/-- Whether the parts of an operation are of the right types: rules as they should be, policies for
groups that are texts, under names that are no integers too large for a column. -/
def Operation.Typed : Operation → Prop
  | createPolicy name targets => (createPolicy name targets).Sane ∧ targets.IsTexts
  | addRule _ r | updateRule r => r.Typed
  | _ => True

/-- Such an operation keeps a session in use. -/
theorem Operation.Typed.sane {op : Operation} (h : op.Typed) : op.Sane := by
  cases op with
  | createPolicy name targets => exact h.1
  | _ => trivial

/-- Such an operation leaves no policy behind. -/
theorem Operation.Typed.grouped {op : Operation} (h : op.Typed) : op.Grouped := by
  cases op with
  | createPolicy name targets => exact h.2
  | _ => trivial

/-! ## Rows and ledgers -/

/-- A value that stands for one id stands for no other. -/
theorem Value.means_eq_beq {v : Value} {n : Int} (h : v.means n = true) (k : Int) :
    v.means k = (k == n) := by
  rw [Bool.eq_iff_iff, beq_iff_eq]
  constructor
  · intro hk
    exact eq_of_means hk h
  · rintro rfl
    exact h

namespace Store

/-- Whether a row keeps a rule of a ledger. -/
def KeepsRule (row : RuleRow) (x : Int × Rule) : Prop :=
  x.2.Typed ∧ ∃ policy, Keeps row x.1 policy x.2

/-- A row that keeps a rule of a ledger has its id. -/
theorem KeepsRule.id_eq {row : RuleRow} {x : Int × Rule} (h : KeepsRule row x) : row.id = x.1 := by
  obtain ⟨_, _, hkeeps⟩ := h
  exact hkeeps.id_eq

/-- Whether a row and rows of rules say the same as a policy of a ledger. -/
structure MirrorsPolicy (rules : List RuleRow) (row : PolicyRow) (a : AskedPolicy) : Prop where
  /-- The ids are the same. -/
  id_eq : row.id = a.id
  /-- The policy without its rules is the same. -/
  created : policyOfRow row = .ok ⟨.int a.id, a.name, a.targets, []⟩
  /-- The rules are the same. -/
  rules : List.Forall₂ KeepsRule (rules.filter fun r => r.policy == row.id) a.rules

/-- Whether a store is sound and says the same as a ledger. -/
structure Mirrors (s : Store) (l : List AskedPolicy) : Prop where
  /-- The store is sound. -/
  sound : s.Sound
  /-- The policies are the same. -/
  policies : List.Forall₂ (MirrorsPolicy s.rules) s.policies l

/-- The empty store says the same as the empty ledger. -/
theorem mirrors_empty : empty.Mirrors [] := ⟨sound_empty, .nil⟩

/-- Policies still mirror a ledger if each of them does. -/
theorem forall₂_of_mem {α β : Type} {R S : α → β → Prop} {l : List α} {m : List β}
    (h : List.Forall₂ R l m) (himp : ∀ a ∈ l, ∀ b, R a b → S a b) : List.Forall₂ S l m :=
  ((List.forall₂_and_left l m).2 ⟨fun _ ha => ha, h⟩).imp fun a b hab => himp a hab.1 b hab.2

variable {s s' : Store} {l : List AskedPolicy}

/-! ## One policy -/

section OnePolicy

variable {rules : List RuleRow} {p : PolicyRow} {a : AskedPolicy}

/-- A new policy has no rules yet. -/
theorem mirrorsPolicy_new {row : PolicyRow} {name : Value} {targets : List Value}
    (created : policyOfRow row = .ok ⟨.int row.id, name, targets, []⟩)
    (new : ∀ r ∈ rules, r.policy ≠ row.id) :
    MirrorsPolicy rules row ⟨row.id, name, targets, []⟩ := by
  have hnone : rules.filter (fun r => r.policy == row.id) = [] := by
    rw [List.filter_eq_nil_iff]
    intro r hr
    simpa using new r hr
  exact ⟨rfl, created, hnone ▸ .nil⟩

/-- Deleting another policy makes no difference. -/
theorem MirrorsPolicy.withoutPolicy (h : MirrorsPolicy rules p a) {n : Int} (hne : p.id ≠ n) :
    MirrorsPolicy (rules.filter fun r => r.policy != n) p a where
  id_eq := h.id_eq
  created := h.created
  rules := by
    have hsame : ∀ r : RuleRow, (r.policy == p.id && r.policy != n) = (r.policy == p.id) := by
      intro r
      rw [Bool.eq_iff_iff, Bool.and_eq_true, beq_iff_eq, bne_iff_ne]
      exact ⟨And.left, fun heq => ⟨heq, heq ▸ hne⟩⟩
    rw [List.filter_filter]
    simp only [hsame]
    exact h.rules

/-- A rule is added to its policy, and to no other. -/
theorem MirrorsPolicy.addRule (h : MirrorsPolicy rules p a) {row : RuleRow} {n : Int} {r : Rule}
    (kept : KeepsRule row (n, r)) :
    MirrorsPolicy (rules ++ [row]) p (if row.policy == p.id then a.withRule n r else a) := by
  split
  · rename_i hpolicy
    refine ⟨h.id_eq, h.created, ?_⟩
    have hrow : [row].filter (fun r => r.policy == p.id) = [row] := by
      simp only [List.filter_cons, hpolicy, if_true, List.filter_nil]
    rw [List.filter_append, hrow]
    exact List.rel_append h.rules (.cons kept .nil)
  · rename_i hpolicy
    refine ⟨h.id_eq, h.created, ?_⟩
    have hrow : [row].filter (fun r => r.policy == p.id) = [] := by
      simp only [List.filter_cons, hpolicy, List.filter_nil, Bool.false_eq_true, if_false]
    rw [List.filter_append, hrow, List.append_nil]
    exact h.rules

/-- A rule is changed in its place. -/
theorem MirrorsPolicy.updateRule (h : MirrorsPolicy rules p a) {old row : RuleRow} {r : Rule}
    (distinct : (rules.map (·.id)).Nodup) (found : old ∈ rules) (meant : r.id.means old.id = true)
    (kept : KeepsRule row (old.id, r)) (stays : row.policy = old.policy) :
    MirrorsPolicy (replaceRule row rules) p (a.withChange r) where
  id_eq := h.id_eq
  created := h.created
  rules := by
    have hid : row.id = old.id := kept.id_eq
    have hfilter : rules.filter ((fun r => r.policy == p.id) ∘
        fun r => if r.id == row.id then row else r) = rules.filter fun r => r.policy == p.id := by
      refine List.filter_congr ?_
      intro r hr
      rw [Function.comp_apply, policy_replaced distinct found hid stays hr]
    rw [replaceRule, List.filter_map, hfilter]
    refine List.forall₂_map_left_iff.2 (List.forall₂_map_right_iff.2 (h.rules.imp ?_))
    intro r' x hkeeps
    rw [hkeeps.id_eq, hid, Value.means_eq_beq meant]
    split
    · rename_i heq
      rw [beq_iff_eq.1 heq]
      exact kept
    · exact hkeeps

/-- A rule is deleted, if the policy has it. -/
theorem MirrorsPolicy.deleteRule (h : MirrorsPolicy rules p a) {id : Value} {n : Int}
    (meant : id.means n = true) :
    MirrorsPolicy (rules.filter fun r => r.id != n) p (a.withoutRule id) where
  id_eq := h.id_eq
  created := h.created
  rules := by
    rw [List.filter_comm]
    refine List.rel_filter ?_ h.rules
    intro row x hkeeps
    change (row.id != n) = true ↔ (!id.means x.1) = true
    rw [hkeeps.id_eq, Value.means_eq_beq meant, bne]

end OnePolicy

/-! ## One operation -/

/-- **An operation does to the store what it does to the ledger.** -/
theorem Change.mirrors {op : Operation} {a : Answer} (h : s.Mirrors l) (typed : op.Typed)
    (hchange : Change s op a s') : s'.Mirrors (noted l (op, a)) := by
  refine ⟨hchange.sound h.sound, ?_⟩
  cases hchange with
  | @createPolicy name targets groups row p grouped new answered =>
      obtain ⟨_, _, hp⟩ := bind_eq_ok_iff.1 answered
      cases hp
      -- the new id is no policy's, and every rule belongs to a policy
      have hnew : ∀ r ∈ s.rules, r.policy ≠ row.id := by
        intro r hr heq
        obtain ⟨q, hq, hid⟩ := h.sound.owned r hr
        refine nextId_not_mem (s.policies.map (·.id)) ?_
        rw [← new.numbered, ← heq, ← hid]
        exact List.mem_map_of_mem hq
      exact List.rel_append h.policies
        (.cons (mirrorsPolicy_new answered hnew) .nil)
  | @deletePolicy id p found meant =>
      rw [h.sound.withoutPolicy_eq]
      have hfilter := List.rel_filter (p := fun q => q.id != p.id) (q := fun a => !id.means a.id)
        (fun q a hq => by
          change (q.id != p.id) = true ↔ (!id.means a.id) = true
          rw [hq.id_eq, Value.means_eq_beq meant, bne]) h.policies
      refine forall₂_of_mem hfilter ?_
      intro q hq a hmirrors
      exact hmirrors.withoutPolicy (bne_iff_ne.1 (List.mem_filter.1 hq).2)
  | @addRule policy r p row found meant kept free =>
      refine List.forall₂_map_right_iff.2 (h.policies.imp ?_)
      intro q a hmirrors
      rw [hmirrors.id_eq.symm, Value.means_eq_beq meant, ← kept.policy_eq, Bool.beq_comm]
      have hid := kept.id_eq
      rw [← hid] at kept
      exact hmirrors.addRule ⟨typed, p.id, kept⟩
  | @updateRule r old row found meant kept free =>
      refine List.forall₂_map_right_iff.2 (h.policies.imp ?_)
      intro q a hmirrors
      exact hmirrors.updateRule h.sound.ruleIds found meant ⟨typed, old.policy, kept⟩
        kept.policy_eq
  | deleteRule found meant =>
      refine List.forall₂_map_right_iff.2 (h.policies.imp ?_)
      intro q a hmirrors
      exact hmirrors.deleteRule meant
  | addExemption found meant placed => exact h.policies
  | removeExemption meant placed => exact h.policies
  | noExemption => exact h.policies

/-! ## Loading -/

/-- A policy of a ledger is loaded from its row. -/
theorem MirrorsPolicy.loads (h : s.Sound) {row : PolicyRow} {a : AskedPolicy}
    (hmirrors : MirrorsPolicy s.rules row a) : s.Loads .standard row a.restored := by
  have hrules : List.Forall₂ (Rebuilds .standard) (s.rulesOf row.id)
      (a.rules.map fun x => x.2.restored x.1) := by
    refine List.forall₂_map_right_iff.2 (hmirrors.rules.imp ?_)
    rintro r x ⟨typed, _, hkeeps⟩
    exact rebuilds_of_keeps typed hkeeps
  exact ⟨_, hmirrors.created, addRows_eq_ok hrules (nodup_names h.ruleNames row.id) _
    fun _ _ _ hr => absurd hr List.not_mem_nil⟩

/-- The policies of a store that mirrors a ledger, all or those of some ids. -/
theorem Mirrors.policiesOf (h : s.Mirrors l) (ids : Option (List Int)) :
    s.policiesOf .standard ids =
      .ok ((l.filter fun a => isSelected ids a.id).map AskedPolicy.restored) := by
  have hselected := List.rel_filter (p := fun row => isSelected ids row.id)
    (q := fun a => isSelected ids a.id) (fun row a hrow => by
      change isSelected ids row.id = true ↔ isSelected ids a.id = true
      rw [hrow.id_eq]) h.policies
  exact policiesOfRows_eq_ok_iff.2
    (List.forall₂_map_right_iff.2 (hselected.imp fun _ _ hrow => hrow.loads h.sound))

/-- A policy that is created for named groups is answered with its name and these groups. -/
theorem created_as_asked {n : String} {targets : Value} {ts : List String} {p : Policy}
    (hmembers : targets.members = .ok (ts.map .text))
    (hchange : Change s (.createPolicy (.text n) targets) (.policy p) s') :
    p.name = .text n ∧ p.targets.Nodup ∧ ∀ v, v ∈ p.targets ↔ v ∈ ts.map .text := by
  cases hchange with
  | createPolicy grouped new answered =>
      obtain ⟨us, hus, hall⟩ := storedTargets_texts hmembers
      have hwritten := new.written
      rw [grouped] at hus
      rw [Except.ok.inj hus, storedForm_of_plain (Json.plain_texts us)] at hwritten
      obtain ⟨vs, hvs, hnodup, hmem⟩ := policyOfRow_texts (Except.ok.inj hwritten).symm
      have hnamed := new.named
      rw [answered] at hvs
      rw [columnText_text] at hnamed
      rw [Except.ok.inj hvs, ← Option.some.inj (Except.ok.inj hnamed)]
      refine ⟨rfl, hnodup.map fun _ _ heq => Value.text.inj heq, ?_⟩
      intro v
      rw [List.mem_map, List.mem_map]
      simp only [hmem, hall]

end Store

namespace Session

open Store

variable {g : Setting} {w : Weather} {s : Session} {l : List AskedPolicy}

/-! ## Operations in a row -/

/-- Operations in a row do to the store what they do to the ledger, and keep the session in use. -/
theorem mirrors_after (ready : Ready s.stored s) (h : s.stored.Mirrors l) (ops : List Operation)
    (typed : ∀ op ∈ ops, op.Typed) :
    Ready (s.after g w ops).stored (s.after g w ops) ∧
      (s.after g w ops).stored.Mirrors ((answered g w s ops).foldl noted l) := by
  induction ops generalizing s l with
  | nil => exact ⟨ready, h⟩
  | cons op ops ih =>
      have htyped := fun op' hop' => typed op' (List.mem_cons_of_mem op hop')
      have hop := typed op List.mem_cons_self
      rw [after_cons, next, answered]
      cases hrun : perform g w op s with
      | ok a s' =>
          obtain ⟨hready, hchange⟩ := changed_of_perform ready.settled hrun
          exact ih hready (hchange.mirrors h hop) htyped
      | error f s' =>
          rcases failed_of_perform ready.settled hrun with hundone | ⟨_, _, hleft⟩
          · have hstored : s'.stored = s.stored := hundone.stored_eq
            exact ih (hundone.toSettled.ready (hundone.usable hop.sane ready.usable))
              (hstored ▸ h) htyped
          · exact absurd hleft (not_leftBehind hop.grouped)

/-- What is answered was done. -/
theorem exists_change_of_mem_answered (h : Settled s) {ops : List Operation} {x : Operation × Answer}
    (hx : x ∈ answered g w s ops) : ∃ s₁ s₂, Change s₁ x.1 x.2 s₂ := by
  induction ops generalizing s with
  | nil => exact absurd hx List.not_mem_nil
  | cons op ops ih =>
      have hsettled := (moved_next h g w op).1
      rw [next] at hsettled
      rw [answered] at hx
      cases hrun : perform g w op s with
      | ok a s' =>
          rw [hrun] at hx hsettled
          rcases List.mem_cons.1 hx with rfl | hx
          · exact ⟨_, _, (changed_of_perform h hrun).2⟩
          · exact ih hsettled hx
      | error f s' =>
          rw [hrun] at hx hsettled
          exact ih hsettled hx

/-! ## Loading -/

/-- **Policies are loaded as they were asked for.**  Whatever has been asked of an empty store, with
parts of the right types, whether it succeeded or failed, and whatever was out of order: the session
is of use, and in it as in a new one loading succeeds and answers the policies of the ledger in the
order in which they were created, each with its rules in the order in which they were added.
Restricted to some ids, loading answers those of these policies whose ids are among them, if the
database can hold all of these ids and takes so many at once.  And the policies of the ledger have
the names and the sets of groups that were asked for. -/
theorem loaded_as_asked (g : Setting) (w : Weather) (ops : List Operation)
    (typed : ∀ op ∈ ops, op.Typed) :
    let s := (opened .empty).after g w ops
    let l := ledger (answered g w (opened .empty) ops)
    Ready s.stored s ∧
    (∀ t, Ready s.stored t → ∀ limit : Option Nat,
      t.outcome (loadPolicies .calm .standard limit none) = .ok (l.map AskedPolicy.restored) ∧
      ∀ ks : List Int, t.outcome (loadPolicies .calm .standard limit (some (ks.map .int))) =
        if limit.any (· < ks.length) then .error (.storage (.failed .loadPolicies .tooManyValues))
        else if ks.all fitsColumn then
          .ok ((l.filter fun a => ks.contains a.id).map AskedPolicy.restored)
        else .error (.database .integerRange)) ∧
    ∀ (n : String) (targets : Value) (ts : List String) (p : Policy),
      (.createPolicy (.text n) targets, .policy p) ∈ answered g w (opened .empty) ops →
      targets.members = .ok (ts.map .text) →
      p.name = .text n ∧ p.targets.Nodup ∧ ∀ v, v ∈ p.targets ↔ v ∈ ts.map .text := by
  intro s l
  have hopened := ready_opened .empty
  obtain ⟨hready, hmirrors⟩ : Ready s.stored s ∧ s.stored.Mirrors l :=
    mirrors_after hopened mirrors_empty ops typed
  refine ⟨hready, fun t ht limit => ⟨?_, fun ks => ?_⟩, ?_⟩
  · have hfilter : l.filter (fun a => isSelected none a.id) = l :=
      List.filter_eq_self.2 fun _ _ => rfl
    rw [outcome_loadPolicies ht, ← hfilter]
    exact hmirrors.policiesOf none
  · rw [outcome_loadPolicies ht, Value.restriction_ints]
    split
    · rfl
    · split
      · exact hmirrors.policiesOf (some ks)
      · rfl
  · intro n targets ts p hmem hmembers
    obtain ⟨_, _, hchange⟩ := exists_change_of_mem_answered hopened.settled hmem
    exact created_as_asked hmembers hchange

/-- A rule that looks for a text. -/
def bannerRule : Rule :=
  ⟨.int 0, .text "banner", .flag true, .text ⟨.text "running_config", .text "banner motd",
    .flag false, .flag false, .flag false, .text "", .flag false, .flag false, .null⟩⟩

/-- The rule is of the right types. -/
theorem bannerRule_typed : bannerRule.Typed where
  name := ⟨_, rfl⟩
  enabled := ⟨_, rfl⟩
  body := .text "running_config" "banner motd" false false false (some "") false false none

/-- A policy for some groups is created, a rule is added to it, and the rule is changed. -/
def coreBaseline : List Operation :=
  [.createPolicy (.text "baseline") (.list [.text "edge", .text "core", .text "edge"]),
    .addRule (.int 1) bannerRule,
    .updateRule { bannerRule with id := .int 1, name := .text "motd" }]

/-- The parts of these operations are of the right types. -/
theorem coreBaseline_typed : ∀ op ∈ coreBaseline, op.Typed := by
  simp only [coreBaseline, List.forall_mem_cons, List.not_mem_nil, false_implies, implies_true,
    and_true]
  refine ⟨⟨nofun, ?_⟩, bannerRule_typed, ⟨⟨_, rfl⟩, ⟨_, rfl⟩, bannerRule_typed.body⟩⟩
  rintro xs h x hx
  cases h
  simp only [List.mem_cons, List.not_mem_nil, or_false] at hx
  rcases hx with rfl | rfl | rfl <;> exact ⟨_, rfl⟩

/-- The policy is loaded as it was asked for. -/
theorem loaded_of_coreBaseline :
    ((opened .empty).after noInterpreters .calm coreBaseline).outcome
        (loadPolicies .calm .standard (some 999) none) =
      .ok ((ledger (answered noInterpreters .calm (opened .empty) coreBaseline)).map
        AskedPolicy.restored) := by
  obtain ⟨hready, hload, _⟩ := loaded_as_asked noInterpreters .calm coreBaseline coreBaseline_typed
  exact (hload _ hready (some 999)).1

/-- A policy without rules. -/
def plainBaseline : List Operation := [.createPolicy (.text "baseline") (.list [])]

/-- So it is not true that loading, restricted to any integers, answers the policies whose ids are
among them. -/
theorem not_loaded_of_any_ids :
    ¬ ∀ (g : Setting) (w : Weather) (ops : List Operation) (ks : List Int),
      (∀ op ∈ ops, op.Typed) →
      ((opened .empty).after g w ops).outcome
          (loadPolicies .calm .standard none (some (ks.map .int))) =
        .ok (((ledger (answered g w (opened .empty) ops)).filter fun a => ks.contains a.id).map
          AskedPolicy.restored) := by
  intro claim
  have hload := claim noInterpreters .calm plainBaseline [0x8000000000000000] (by
    intro op hop
    rw [List.mem_singleton.1 hop]
    refine ⟨nofun, ?_⟩
    rintro xs h x hx
    cases h
    cases hx)
  have hready : Ready _ ((opened .empty).after noInterpreters .calm plainBaseline) :=
    ⟨rfl, rfl, rfl, rfl⟩
  rw [outcome_loadPolicies hready, Value.restriction_ints] at hload
  cases hload

end Session

end ConfigAudit
