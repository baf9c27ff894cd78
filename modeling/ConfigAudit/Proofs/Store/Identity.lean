/-
# The ids of new rules

A new rule receives one more than the largest id that is there.  Ids of rules that are still there
are never handed out again, but the id of a rule that had the largest one is, once this rule has
been deleted.

* `EverStored` : the ids of rules that have been there at some time;
* `EverStored.below` : these ids leave no gaps;
* `new_id_used_iff` : when the id of a new rule has been there before.
-/
import Mathlib.Data.List.Induction
import ConfigAudit.Proofs.Store.Exemptions

namespace ConfigAudit

/-! ## The largest id -/

/-- The largest id is one of the ids, or there is none above 0. -/
theorem foldl_max_mem (ids : List Int) (a : Int) : ids.foldl max a = a ∨ ids.foldl max a ∈ ids := by
  induction ids generalizing a with
  | nil => exact Or.inl rfl
  | cons b ids ih =>
      rw [List.foldl_cons]
      rcases ih (max a b) with heq | hmem
      · rw [heq]
        rcases Int.le_total a b with h | h
        · exact Or.inr (by rw [Int.max_eq_right h]; exact List.mem_cons_self)
        · exact Or.inl (Int.max_eq_left h)
      · exact Or.inr (List.mem_cons_of_mem b hmem)

/-- The id of a new row is above all others. -/
theorem lt_nextId {ids : List Int} {n : Int} (h : n ∈ ids) : n < nextId ids :=
  Int.lt_add_one_iff.2 (le_foldl_of_mem ids 0 n h)

/-- The id of a new row is positive. -/
theorem nextId_pos (ids : List Int) : 0 < nextId ids :=
  Int.lt_add_one_iff.2 (le_foldl_max ids 0)

/-- The id of a new row is the first one above 0 and all others. -/
theorem nextId_le_iff {ids : List Int} {n : Int} (pos : 0 < n) :
    nextId ids ≤ n ↔ ∀ k ∈ ids, k < n := by
  constructor
  · intro h k hk
    exact Int.lt_of_lt_of_le (lt_nextId hk) h
  · intro h
    rcases foldl_max_mem ids 0 with heq | hmem
    · rw [nextId, largestId, heq]
      exact pos
    · exact h _ hmem

namespace Store

/-- An operation that succeeds leaves the ids of rules alone, but for a new one above all others. -/
theorem Change.rule_id_cases {s s' : Store} {op : Operation} {a : Answer} (h : Change s op a s')
    {r : RuleRow} (hr : r ∈ s'.rules) :
    r.id ∈ s.rules.map (·.id) ∨ r.id = nextId (s.rules.map (·.id)) := by
  have hold : ∀ r ∈ s.rules, r.id ∈ s.rules.map (·.id) := fun r hr => List.mem_map.2 ⟨r, hr, rfl⟩
  cases h with
  | createPolicy | addExemption | removeExemption | noExemption => exact Or.inl (hold r hr)
  | @deletePolicy _ p =>
      rw [withoutPolicy, foldl_withoutRule] at hr
      exact Or.inl (hold r (List.mem_of_mem_filter hr))
  | deleteRule => exact Or.inl (hold r (List.mem_of_mem_filter hr))
  | addRule _ _ kept =>
      rcases List.mem_append.1 hr with hr | hr
      · exact Or.inl (hold r hr)
      · rw [List.mem_singleton.1 hr]
        exact Or.inr kept.id_eq
  | @updateRule _ old row found _ kept =>
      rcases mem_replaceRule hr with rfl | ⟨hr, _⟩
      · rw [kept.id_eq]
        exact Or.inl (hold old found)
      · exact Or.inl (hold r hr)

/-- So does any operation. -/
theorem Moved.rule_id_cases {s s' : Store} {op : Operation} (h : Moved s op s') {r : RuleRow}
    (hr : r ∈ s'.rules) : r.id ∈ s.rules.map (·.id) ∨ r.id = nextId (s.rules.map (·.id)) := by
  rcases h with rfl | ⟨a, hchange⟩ | ⟨f, hleft⟩
  · exact Or.inl (List.mem_map_of_mem hr)
  · exact hchange.rule_id_cases hr
  · cases hleft with
    | createPolicy => exact Or.inl (List.mem_map_of_mem hr)

end Store

namespace Session

open Store

variable {g : Setting} {w : Weather} {ops : List Operation} {n : Int}

/-! ## The ids that have been there -/

/-- The rules of a store that operations have made of the empty one, or of one on the way there,
have an id. -/
def EverStored (g : Setting) (w : Weather) (ops : List Operation) (n : Int) : Prop :=
  ∃ before, before <+: ops ∧ ∃ r ∈ ((opened .empty).after g w before).stored.rules, r.id = n

/-- One more operation comes last. -/
theorem after_concat (s : Session) (ops : List Operation) (op : Operation) :
    s.after g w (ops ++ [op]) = (s.after g w ops).next g w op := by
  rw [after, List.foldl_append]
  rfl

/-- What is there has been there. -/
theorem everStored_of_mem {r : RuleRow} (h : r ∈ ((opened .empty).after g w ops).stored.rules) :
    EverStored g w ops r.id :=
  ⟨ops, List.prefix_rfl, r, h, rfl⟩

/-- Without operations nothing has been there. -/
theorem not_everStored_nil : ¬ EverStored g w [] n := by
  rintro ⟨before, hprefix, r, hr, _⟩
  rw [List.prefix_nil.1 hprefix] at hr
  cases hr

/-- What has been there after one more operation has been there before, or is there now. -/
theorem everStored_concat {op : Operation} : EverStored g w (ops ++ [op]) n ↔
    EverStored g w ops n ∨
      ∃ r ∈ (((opened .empty).after g w ops).next g w op).stored.rules, r.id = n := by
  constructor
  · rintro ⟨before, hprefix, hstored⟩
    rcases List.prefix_concat_iff.1 hprefix with rfl | hprefix
    · rw [after_concat] at hstored
      exact Or.inr hstored
    · exact Or.inl ⟨before, hprefix, hstored⟩
  · rintro (⟨before, hprefix, hstored⟩ | ⟨r, hr, rfl⟩)
    · exact ⟨before, hprefix.trans (List.prefix_append ops [op]), hstored⟩
    · rw [← after_concat] at hr
      exact everStored_of_mem hr

/-- **No gaps.**  The ids that have been there are positive, and all positive ids below one of them
have been there, too. -/
theorem EverStored.below (h : EverStored g w ops n) :
    0 < n ∧ ∀ k, 0 < k → k ≤ n → EverStored g w ops k := by
  induction ops using List.reverseRecOn generalizing n with
  | nil => exact absurd h not_everStored_nil
  | append_singleton ops op ih =>
      have hkept : EverStored g w ops n →
          0 < n ∧ ∀ k, 0 < k → k ≤ n → EverStored g w (ops ++ [op]) k := by
        intro hn
        exact ⟨(ih hn).1, fun k hk hle => everStored_concat.2 (Or.inl ((ih hn).2 k hk hle))⟩
      have hpresent : ∀ k ∈ ((opened .empty).after g w ops).stored.rules.map (·.id),
          EverStored g w ops k := by
        intro k hk
        obtain ⟨r, hr, rfl⟩ := List.mem_map.1 hk
        exact everStored_of_mem hr
      rcases everStored_concat.1 h with hn | ⟨r, hr, rfl⟩
      · exact hkept hn
      · have hsettled := (sound_after g w (ready_opened .empty).settled sound_empty ops).1
        rcases (moved_next hsettled g w op).2.rule_id_cases hr with hold | hnew
        · exact hkept (hpresent _ hold)
        · -- an id below the new one lies below one that was there
          refine ⟨hnew ▸ nextId_pos _, fun k hk hle => ?_⟩
          rcases Int.le_iff_eq_or_lt.1 hle with rfl | hlt
          · exact h
          · have hnot : ¬ ∀ j ∈ ((opened .empty).after g w ops).stored.rules.map (·.id), j < k := by
              rw [← nextId_le_iff hk, ← hnew]
              exact Int.not_le.2 hlt
            obtain ⟨j, hj, hkj⟩ :
                ∃ j ∈ ((opened .empty).after g w ops).stored.rules.map (·.id), k ≤ j := by
              by_contra hnone
              exact hnot fun j hj => Int.not_le.1 fun hkj => hnone ⟨j, hj, hkj⟩
            exact everStored_concat.2 (Or.inl ((ih (hpresent j hj)).2 k hk hkj))

/-! ## The id of a new rule -/

/-- **The ids of new rules.**  After any operations on an empty store, a rule that is added receives
an id under which it is found from then on.  This id has been that of an earlier rule exactly if
some rule that has been there had an id above those of all rules that are still there; so it is new
exactly if no rule with the largest id has been deleted. -/
theorem new_id_used_iff (g : Setting) (w : Weather) (ops : List Operation) (policy : Value)
    (r : Rule) (a : Answer) (s : Session)
    (added : perform g w (.addRule policy r) ((opened .empty).after g w ops) = .ok a s) :
    ∃ row, a = .rule { r with id := .int row.id } ∧ Keeps row row.id row.policy r ∧
      s.stored.rule? row.id = some row ∧
      (EverStored g w ops row.id ↔ ∃ n, EverStored g w ops n ∧
        ∀ old ∈ ((opened .empty).after g w ops).stored.rules, old.id < n) := by
  obtain ⟨hsettled, hsound⟩ := sound_after g w (ready_opened .empty).settled sound_empty ops
  obtain ⟨_, hchange⟩ := changed_of_perform hsettled added
  have hsound' := hchange.sound hsound
  generalize s.stored = rows at hchange hsound' ⊢
  cases hchange with
  | @addRule _ _ p row _ _ kept _ =>
      have hid : row.id = nextId (((opened .empty).after g w ops).stored.rules.map (·.id)) :=
        kept.id_eq
      refine ⟨row, rfl, ⟨rfl, rfl, kept.named, kept.tag_eq, kept.enabled_eq, kept.written⟩,
        find?_key hsound'.ruleIds (List.mem_append_right _ (List.mem_singleton_self row)), ?_, ?_⟩
      · intro hused
        refine ⟨row.id, hused, fun old hold => ?_⟩
        rw [hid]
        exact lt_nextId (List.mem_map.2 ⟨old, hold, rfl⟩)
      · rintro ⟨n, hn, habove⟩
        obtain ⟨hpos, hbelow⟩ := hn.below
        refine hbelow row.id (hid ▸ nextId_pos _) ?_
        rw [hid, nextId_le_iff hpos]
        intro k hk
        obtain ⟨old, hold, rfl⟩ := List.mem_map.1 hk
        exact habove old hold

/-- The only rule is deleted. -/
def bannerDeleted : List Operation := baseline ++ [.deleteRule (.int 1)]

/-- Another rule, without an id so far. -/
def motdRule : Rule := ⟨.int 0, .text "motd", .flag true, .generic⟩

/-- The session after the other rule has been added. -/
def motdSession : Session :=
  ((opened .empty).after noInterpreters .calm bannerDeleted).next noInterpreters .calm
    (.addRule (.int 1) motdRule)

/-- The other rule is added. -/
theorem perform_motdRule :
    perform noInterpreters .calm (.addRule (.int 1) motdRule)
      ((opened .empty).after noInterpreters .calm bannerDeleted) =
        .ok (.rule { motdRule with id := .int 1 }) motdSession := by
  cbv

/-- The deleted rule had been there. -/
theorem everStored_banner : EverStored noInterpreters .calm bannerDeleted 1 :=
  ⟨baseline, List.prefix_append _ _, ⟨1, 1, "banner", "generic", true, .table []⟩,
    List.mem_singleton_self _, rfl⟩

/-- The new rule has the id of the deleted one, and whoever kept this id finds the new rule. -/
theorem new_id_of_bannerDeleted :
    ∃ row, row.id = 1 ∧ motdSession.stored.rule? 1 = some row ∧
      columnText? motdRule.name = .ok (some row.name) ∧
      ∃ n, EverStored noInterpreters .calm bannerDeleted n ∧
        ∀ old ∈ ((opened .empty).after noInterpreters .calm bannerDeleted).stored.rules,
          old.id < n := by
  obtain ⟨row, heq, hkept, hfound, hused⟩ := new_id_used_iff noInterpreters .calm bannerDeleted
    (.int 1) motdRule _ motdSession perform_motdRule
  have hid : row.id = 1 := (Value.int.inj (congrArg Rule.id (Answer.rule.inj heq))).symm
  rw [hid] at hfound hused
  exact ⟨row, hid, hfound, hkept.named, hused.1 everStored_banner⟩

/-- So it is not true that a rule that is added always receives an id that no rule has had. -/
theorem not_always_new_id :
    ¬ ∀ (g : Setting) (w : Weather) (ops : List Operation) (policy : Value) (r r' : Rule)
      (s : Session) (n : Int),
      perform g w (.addRule policy r) ((opened .empty).after g w ops) = .ok (.rule r') s →
      r'.id = .int n → ¬ EverStored g w ops n := by
  intro claim
  exact claim noInterpreters .calm bannerDeleted (.int 1) motdRule _ motdSession 1 perform_motdRule
    rfl everStored_banner

end Session

end ConfigAudit
