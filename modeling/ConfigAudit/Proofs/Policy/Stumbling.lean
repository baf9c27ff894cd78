/-
# Files that policies cannot be read from

A file of policies is read, or it is refused with a fault of the audit itself, unless its reading
stumbles.  There are few ways to stumble, and each of them is found at the first place of the file
at which something is wrong:

* the bytes are no text, or an escaped number in the document is no character;
* a scalar is not what its tag says, or a date does not exist;
* an id, or the id of an exempted device, is an infinity;
* a pattern asks for more repeats than matchers can count, or the call that has a script read breaks
  off;
* something is wrong inside of a policy or with a rule whose name is too long an integer to be told.

`Stumbles` lists them, and `loadPolicies_answered_iff` says that there are no others.
-/
import ConfigAudit.Policy.File
import ConfigAudit.Proofs.Policy.Answered
import ConfigAudit.Proofs.Policy.Written

namespace ConfigAudit

/-- A step fails with a fault that is not of the audit itself. -/
abbrev Astray {α : Type} (x : Except Fault α) : Prop := Escapes (·.stopsAudit = true) x

/-! ## Places -/

/-- A complaint that is to be told under a name that cannot be told. -/
def UntellableIn {α : Type} (entry : Value) (x : Except Fault α) : Prop :=
  ∃ f cause, x = .error f ∧ f.complaint? = some cause ∧ (nameOf entry).isSpellable = false

/-- What shows a single value is worded exactly if this can be told. -/
theorem Fault.worded_of_shown {f : Fault} {v : Value} (h : f.shown = [v]) :
    f.worded = if v.isSpellable then f else .value .integerSize := by
  simp only [worded, h, Value.allSpellable, Bool.and_true]

/-- The place of a policy turns answered faults into faults of the audit, unless there is a complaint
and the name of the policy cannot be told. -/
theorem astray_inPolicy_iff {α : Type} {entry : Value} {x : Except Fault α} :
    Astray (inPolicy entry x) ↔ Unanswered x ∨ UntellableIn entry x := by
  cases x with
  | ok a =>
      refine iff_of_false (FailsOnly.ok a).not_escapes ?_
      rintro (h | ⟨_, _, h, _⟩)
      · exact (FailsOnly.ok a).not_escapes h
      · cases h
  | error f =>
      rw [inPolicy, Unanswered, escapes_error_iff, Fault.isAnswered]
      cases hcause : f.complaint? with
      | none => simp [Astray, UntellableIn, escapes_error_iff, hcause]
      | some cause =>
          dsimp only
          rw [Fault.worded_of_shown rfl]
          cases hname : (nameOf entry).isSpellable with
          | true => simp [Astray, UntellableIn, escapes_error_iff, Fault.stopsAudit, hname]
          | false => simp [Astray, UntellableIn, escapes_error_iff, Fault.stopsAudit, hname, hcause]

/-- The place of a document turns plain faults into faults of the audit. -/
theorem astray_inDocument_iff {α : Type} {x : Except ValueFault α} :
    Astray (inDocument x) ↔ Escapes (·.isPlain = true) x := by
  cases x with
  | ok a => exact iff_of_false (FailsOnly.ok a).not_escapes (FailsOnly.ok a).not_escapes
  | error f =>
      rw [inDocument, escapes_error_iff, ValueFault.isPlain]
      cases f.family <;> simp [Astray, escapes_error_iff, Fault.stopsAudit]

/-- The place of a rule's defect is named in a fault of the audit, unless the name of the rule cannot
be told. -/
theorem astray_inRuleFile_iff {α : Type} {path : String} {x : Except Fault α} :
    Astray (inRuleFile path x) ↔
      Astray x ∨ ∃ defect name, x = .error (.rule defect name) ∧ name.isSpellable = false := by
  unfold inRuleFile
  split
  · rename_i defect name
    rw [Fault.worded_of_shown rfl]
    cases hname : name.isSpellable <;>
      simp [Astray, escapes_error_iff, Fault.stopsAudit, hname]
  · rename_i hother
    refine (or_iff_left ?_).symm
    rintro ⟨defect, name, h, _⟩
    exact hother defect name h

/-! ## Ids -/

/-- An entry asks for an infinity. -/
def Value.AsksForInfinity (entry : Value) : Prop :=
  entry.askedId.truthy = true ∧ entry.askedId.IsInfinity

/-- Of some entries, the first one whose id cannot be read asks for an infinity. -/
def AskForInfinity (entries : List Value) : Prop :=
  ∃ before entry after, entries = before ++ entry :: after ∧ (∃ ids, idsOf before = .ok ids) ∧
    entry.AsksForInfinity

/-- The id of an entry is an integer, or is refused plainly, or it is an infinity. -/
theorem escapes_asked_iff {entry : Value} :
    Escapes (·.isPlain = true) (entry.get "id" >>= IdPool.asked) ↔ entry.AsksForInfinity := by
  rw [(Value.plain_get "id" entry).escapes_bind_iff]
  have hasked : ∀ v : Value, Escapes (·.isPlain = true) (IdPool.asked v) ↔
      v.truthy = true ∧ v.IsInfinity := by
    intro v
    unfold IdPool.asked
    split
    · rename_i hv
      rw [escapes_bind_iff, Value.escapes_toInteger_iff, hv, eq_self, true_and]
      refine or_iff_left ?_
      rintro ⟨n, _, hn⟩
      exact (FailsOnly.ok [n]).not_escapes hn
    · rename_i hv
      exact iff_of_false (FailsOnly.ok []).not_escapes fun h => hv h.1
  constructor
  · rintro ⟨v, hv, h⟩
    obtain ⟨_, rfl⟩ := Value.get_id_eq_ok_iff.1 hv
    exact (hasked _).1 h
  · intro h
    -- only tables ask for anything
    have htable : ∃ es, entry = .table es := by
      obtain ⟨hset, _⟩ := h
      cases entry with
      | table es => exact ⟨es, rfl⟩
      | _ => cases hset
    exact ⟨entry.askedId, Value.get_id_eq_ok_iff.2 ⟨htable, rfl⟩, (hasked _).2 h⟩

/-- The ids of entries are learned up to the first one that cannot be read. -/
theorem escapes_idsOf_iff {entries : List Value} :
    Escapes (·.isPlain = true) (idsOf entries) ↔ AskForInfinity entries := by
  induction entries with
  | nil =>
      refine iff_of_false (FailsOnly.ok []).not_escapes ?_
      rintro ⟨before, entry, after, h, _⟩
      simp at h
  | cons e rest ih =>
      have hstep : idsOf (e :: rest) = ((e.get "id" >>= IdPool.asked) >>= fun here =>
          idsOf rest >>= fun others => .ok (here ++ others)) := by
        rw [bind_assoc]
        rfl
      have hrest : ∀ here : List Int, Escapes (·.isPlain = true)
          (idsOf rest >>= fun others => Except.ok (here ++ others)) ↔ AskForInfinity rest := by
        intro here
        rw [escapes_bind_iff, ih]
        refine or_iff_left ?_
        rintro ⟨others, _, h⟩
        exact (FailsOnly.ok _).not_escapes h
      rw [hstep, escapes_bind_iff, escapes_asked_iff]
      constructor
      · rintro (h | ⟨here, hhere, h⟩)
        · exact ⟨[], e, rest, rfl, ⟨[], rfl⟩, h⟩
        · obtain ⟨before, entry, after, rfl, ⟨ids, hids⟩, hasks⟩ := (hrest here).1 h
          refine ⟨e :: before, entry, after, rfl, ⟨here ++ ids, ?_⟩, hasks⟩
          obtain ⟨v, hv, hhere⟩ := bind_eq_ok_iff.1 hhere
          exact bind_eq_ok_iff.2 ⟨v, hv, bind_eq_ok_iff.2 ⟨here, hhere,
            bind_eq_ok_iff.2 ⟨ids, hids, rfl⟩⟩⟩
      · rintro ⟨before, entry, after, hsplit, ⟨ids, hids⟩, hasks⟩
        cases before with
        | nil =>
            cases hsplit
            exact Or.inl hasks
        | cons b before =>
            cases hsplit
            obtain ⟨v, hv, hids⟩ := bind_eq_ok_iff.1 hids
            obtain ⟨here, hhere, hids⟩ := bind_eq_ok_iff.1 hids
            obtain ⟨others, hothers, _⟩ := bind_eq_ok_iff.1 hids
            exact Or.inr ⟨here, bind_eq_ok_iff.2 ⟨v, hv, hhere⟩,
              (hrest here).2 ⟨before, entry, after, rfl, ⟨others, hothers⟩, hasks⟩⟩

/-- An entry whose id has been learned is given one, or is refused in an answered way. -/
theorem IdPool.answered_allocate (p : IdPool) {v : Value}
    (h : v.truthy = true → ∃ n, v.toInteger = .ok n) : Answered (p.allocate v) := by
  unfold allocate
  split
  · rename_i hv
    obtain ⟨n, hn⟩ := h hv
    rw [hn]
    change Answered (if n ∈ p.claimed then _ else _)
    split
    · exact .error (Fault.isAnswered_worded rfl)
    · exact .ok _
  · exact .ok _

/-- The ids that entries ask for are integers, once they have been learned. -/
theorem asked_of_idsOf {entries : List Value} {ids : List Int} (h : idsOf entries = .ok ids)
    {e : Value} (he : e ∈ entries) (hset : e.askedId.truthy = true) :
    ∃ n, e.askedId.toInteger = .ok n := by
  induction entries generalizing ids with
  | nil => exact absurd he List.not_mem_nil
  | cons entry rest ih =>
      obtain ⟨v, hv, h⟩ := bind_eq_ok_iff.1 h
      obtain ⟨here, hhere, h⟩ := bind_eq_ok_iff.1 h
      obtain ⟨others, hothers, _⟩ := bind_eq_ok_iff.1 h
      rcases List.mem_cons.1 he with rfl | he
      · obtain ⟨_, rfl⟩ := Value.get_id_eq_ok_iff.1 hv
        rw [IdPool.asked, if_pos hset] at hhere
        obtain ⟨n, hn, _⟩ := bind_eq_ok_iff.1 hhere
        exact ⟨n, hn⟩
      · exact ih hothers he

/-! ## Rules -/

/-- Reading a rule stumbles. -/
inductive StumblesAtRule (g : PolicyReading) (d : PolicyDraft) (p : Policy)
    (fields : List (Value × Value)) : Prop where
  /-- The rule is built, and when it is validated it asks for too much. -/
  | validation {id : Int} {ids : IdPool} {rule : Rule}
      (numbered : d.ruleIds.allocate (Value.table fields).askedId = .ok (id, ids))
      (built : g.kinds.ruleOf (ruleEntry id fields) = .ok rule) (validated : g.validate = true)
      (exceeds : rule.Exceeds g.setting)
  /-- The rule is entered, and of its exemptions the first one that cannot be entered is for an
  infinity. -/
  | device {rule : Rule} {ids : IdPool} {p' : Policy} {before after : List Value} {item v : Value}
      {register : Register} (entered : enterRule g d p fields = .ok (rule, ids, p'))
      (listed : (Value.table fields).excuses = .ok (before ++ item :: after))
      (read : addExemptions rule.id d.exemptions before = .ok register)
      (device : item.index "device_id" = .ok v) (infinite : v.IsInfinity)

/-- What cannot be written is answered as such. -/
theorem Value.plain_spell (v : Value) : Plainly v.spell := by
  unfold spell
  split
  · exact .ok _
  · exact .error rfl

/-- An expiry is read, or is refused in an answered way. -/
theorem answered_readExpiry (v : Value) : Answered (readExpiry v) := by
  unfold readExpiry
  split
  · exact .ok _
  · exact .ok _
  · split
    · exact .ok _
    · split
      · rename_i f hf
        exact .error (ValueFault.isAnswered_of_isPlain (Value.plain_spell _ _ hf))
      · split
        · exact .ok _
        · exact .error rfl

/-- An exemption is read, or is refused in an answered way, unless it is for an infinity. -/
theorem unanswered_exemptionOf_iff {rule item : Value} :
    Unanswered (exemptionOf rule item) ↔
      ∃ v, item.index "device_id" = .ok v ∧ v.IsInfinity := by
  rw [exemptionOf, Unanswered, (item.answered_index "device_id").escapes_bind_iff]
  constructor
  · rintro ⟨v, hv, h⟩
    rcases escapes_bind_iff.1 h with h | ⟨d, _, h⟩
    · exact ⟨v, lift_eq_ok_iff.1 hv, Value.unanswered_toInteger_iff.1 h⟩
    · -- the date of expiration is read, or refused in an answered way
      refine absurd h (FailsOnly.not_escapes ?_)
      refine (Value.plain_get _ item).answered.bind fun v _ => ?_
      exact (answered_readExpiry v).bind fun _ _ => .ok _
  · rintro ⟨v, hv, h⟩
    exact ⟨v, lift_eq_ok_iff.2 hv,
      escapes_bind_iff.2 (Or.inl (Value.unanswered_toInteger_iff.2 h))⟩

/-- Entering an exemption fails only if the ids of another one cannot be told. -/
theorem plain_enterExemption (r : Register) (x : Exemption) : Plainly (enterExemption r x) := by
  unfold enterExemption
  split
  · exact (Value.plain_spell _).discard.bind fun _ _ =>
      (Value.plain_spell _).discard.bind fun _ _ => .ok _
  · exact .ok _

/-- Exemptions are entered up to the first one that cannot be. -/
theorem unanswered_addExemptions_iff {rule : Value} {r : Register} {items : List Value} :
    Unanswered (addExemptions rule r items) ↔
      ∃ before item after r' v, items = before ++ item :: after ∧
        addExemptions rule r before = .ok r' ∧ item.index "device_id" = .ok v ∧ v.IsInfinity := by
  have hitem : ∀ (r : Register) (item : Value),
      Unanswered (exemptionOf rule item >>= fun x => liftM (enterExemption r x)) ↔
        ∃ v, item.index "device_id" = .ok v ∧ v.IsInfinity := by
    intro r item
    rw [Unanswered, escapes_bind_iff, ← Unanswered, unanswered_exemptionOf_iff]
    refine or_iff_left ?_
    rintro ⟨x, _, h⟩
    exact (plain_enterExemption r x).answered.not_escapes h
  rw [addExemptions_eq, Unanswered, escapes_foldlM_iff]
  constructor
  · rintro ⟨before, item, after, r', hitems, hbefore, h⟩
    rw [← addExemptions_eq] at hbefore
    obtain ⟨v, hv, hinfinite⟩ := (hitem r' item).1 h
    exact ⟨before, item, after, r', v, hitems, hbefore, hv, hinfinite⟩
  · rintro ⟨before, item, after, r', v, hitems, hbefore, hv, hinfinite⟩
    rw [addExemptions_eq] at hbefore
    exact ⟨before, item, after, r', hitems, hbefore, (hitem _ item).2 ⟨v, hv, hinfinite⟩⟩

/-- A rule is entered, or refused in an answered way, unless it asks for too much. -/
theorem unanswered_enterRule_iff {g : PolicyReading} {d : PolicyDraft} {p : Policy}
    {fields : List (Value × Value)}
    (asked : Answered (d.ruleIds.allocate (Value.table fields).askedId)) :
    Unanswered (enterRule g d p fields) ↔
      ∃ id ids rule, d.ruleIds.allocate (Value.table fields).askedId = .ok (id, ids) ∧
        g.kinds.ruleOf (ruleEntry id fields) = .ok rule ∧ g.validate = true ∧
        rule.Exceeds g.setting := by
  have hadd : ∀ (rule : Rule) (ids : IdPool),
      Answered (p.add rule >>= fun p' => Except.ok (rule, ids, p')) :=
    fun rule ids => (p.answered_add rule).bind fun _ _ => .ok _
  -- what is left once the rule has been built
  have hvalidate : ∀ (rule : Rule) (ids : IdPool), Unanswered (do
      if g.validate then rule.validate g.setting
      let p' ← p.add rule
      return (rule, ids, p')) ↔ g.validate = true ∧ rule.Exceeds g.setting := by
    intro rule ids
    split
    · rename_i hg
      change Escapes _ (rule.validate g.setting >>= fun _ => _) ↔ _
      rw [escapes_bind_iff, ← Unanswered, Rule.unanswered_validate_iff, hg, eq_self, true_and]
      refine or_iff_left ?_
      rintro ⟨_, _, h⟩
      exact (hadd rule ids).not_escapes h
    · rename_i hg
      exact iff_of_false (hadd rule ids).not_escapes fun h => hg h.1
  rw [enterRule, Unanswered, asked.escapes_bind_iff]
  constructor
  · rintro ⟨⟨id, ids⟩, hnumbered, h⟩
    obtain ⟨rule, hbuilt, h⟩ := (g.kinds.answered_ruleOf id fields).escapes_bind_iff.1 h
    obtain ⟨hg, hexceeds⟩ := (hvalidate rule ids).1 h
    exact ⟨id, ids, rule, hnumbered, hbuilt, hg, hexceeds⟩
  · rintro ⟨id, ids, rule, hnumbered, hbuilt, hg, hexceeds⟩
    exact ⟨(id, ids), hnumbered, (g.kinds.answered_ruleOf id fields).escapes_bind_iff.2
      ⟨rule, hbuilt, (hvalidate rule ids).2 ⟨hg, hexceeds⟩⟩⟩

/-- A rule is read, or refused in an answered way, unless its reading stumbles. -/
theorem unanswered_readRule_iff {g : PolicyReading} {d : PolicyDraft} {p : Policy}
    {fields : List (Value × Value)}
    (asked : Answered (d.ruleIds.allocate (Value.table fields).askedId)) :
    Unanswered (readRule g d p (.table fields)) ↔ StumblesAtRule g d p fields := by
  rw [readRule_table, Unanswered, escapes_bind_iff, ← Unanswered, unanswered_enterRule_iff asked]
  constructor
  · rintro (⟨id, ids, rule, hnumbered, hbuilt, hg, hexceeds⟩ | ⟨⟨rule, ids, p'⟩, hentered, h⟩)
    · exact .validation hnumbered hbuilt hg hexceeds
    · obtain ⟨items, hitems, h⟩ := (Value.plain_members _).answered.escapes_bind_iff.1 h
      rcases escapes_bind_iff.1 h with h | ⟨_, _, h⟩
      · obtain ⟨before, item, after, register, v, rfl, hread, hv, hinfinite⟩ :=
          unanswered_addExemptions_iff.1 h
        exact .device hentered (lift_eq_ok_iff.1 hitems) hread hv hinfinite
      · exact absurd h (FailsOnly.ok _).not_escapes
  · rintro (⟨hnumbered, hbuilt, hg, hexceeds⟩ | ⟨hentered, hlisted, hread, hv, hinfinite⟩)
    · exact Or.inl ⟨_, _, _, hnumbered, hbuilt, hg, hexceeds⟩
    · refine Or.inr ⟨_, hentered, (Value.plain_members _).answered.escapes_bind_iff.2
        ⟨_, lift_eq_ok_iff.2 hlisted, escapes_bind_iff.2 (Or.inl ?_)⟩⟩
      exact unanswered_addExemptions_iff.2 ⟨_, _, _, _, _, rfl, hread, hv, hinfinite⟩

/-! ## Policies -/

/-- Reading a policy stumbles at one of its rules, after those before it have been read. -/
inductive StumblesAmongRules (g : PolicyReading) (d : PolicyDraft) (entry : Value) : Prop where
  /-- Everything else about the policy is in order. -/
  | rule {name groups : Value} {id : Int} {ids : IdPool} {targets before after : List Value}
      {fields : List (Value × Value)} {d' : PolicyDraft} {p' : Policy}
      (named : entry.get "name" = .ok name) (nonempty : name.truthy = true)
      (numbered : d.policyIds.allocate entry.askedId = .ok (id, ids))
      (targeted : entry.get "target_groups" = .ok groups)
      (grouped : (orEmpty groups).memberSet = .ok targets)
      (listed : ConfigAudit.listed "rules" entry = .ok (before ++ .table fields :: after))
      (read : readRules g { d with policyIds := ids } ⟨.int id, name, targets, []⟩ before =
        .ok (d', p'))
      (stumbles : StumblesAtRule g d' p' fields)

/-- Reading a policy stumbles. -/
inductive StumblesAtPolicy (g : PolicyReading) (d : PolicyDraft) (entry : Value) : Prop where
  /-- It stumbles at a rule. -/
  | rule (stumbles : StumblesAmongRules g d entry)
  /-- There is a complaint, and the name of the policy cannot be told. -/
  | name (untellable : UntellableIn entry (readPolicy g d entry))

/-- Reading the rules of a policy stumbles at the first one that reading stumbles at. -/
theorem unanswered_readRules_iff {g : PolicyReading} {d : PolicyDraft} {p : Policy}
    {rules : List Value} (tables : ∀ e ∈ rules, ∃ es, e = .table es)
    (rulesAsked : ∀ e ∈ rules, ∀ p : IdPool, Answered (p.allocate e.askedId)) :
    Unanswered (readRules g d p rules) ↔
      ∃ before fields after d' p', rules = before ++ .table fields :: after ∧
        readRules g d p before = .ok (d', p') ∧ StumblesAtRule g d' p' fields := by
  rw [readRules_eq, Unanswered, escapes_foldlM_iff]
  constructor
  · rintro ⟨before, e, after, ⟨d', p'⟩, hsplit, hbefore, h⟩
    have he : e ∈ rules := hsplit ▸ List.mem_append_right _ List.mem_cons_self
    obtain ⟨fields, rfl⟩ := tables e he
    rw [← readRules_eq] at hbefore
    exact ⟨before, fields, after, d', p', hsplit, hbefore,
      (unanswered_readRule_iff (rulesAsked _ he _)).1 h⟩
  · rintro ⟨before, fields, after, d', p', hsplit, hbefore, h⟩
    have he : .table fields ∈ rules := hsplit ▸ List.mem_append_right _ List.mem_cons_self
    rw [readRules_eq] at hbefore
    exact ⟨before, .table fields, after, (d', p'), hsplit, hbefore,
      (unanswered_readRule_iff (rulesAsked _ he _)).2 h⟩

/-- A policy is read, or refused in an answered way, unless its reading stumbles at a rule. -/
theorem unanswered_readPolicy_iff {g : PolicyReading} {d : PolicyDraft} {entry : Value}
    {rules : List Value} (members : listed "rules" entry = .ok rules)
    (tables : ∀ e ∈ rules, ∃ es, e = .table es)
    (asked : ∀ p : IdPool, Answered (p.allocate entry.askedId))
    (rulesAsked : ∀ e ∈ rules, ∀ p : IdPool, Answered (p.allocate e.askedId)) :
    Unanswered (readPolicy g d entry) ↔ StumblesAmongRules g d entry := by
  rw [readPolicy, Unanswered, (Value.plain_get "name" entry).answered.escapes_bind_iff]
  constructor
  · rintro ⟨name, hname, h⟩
    split at h
    · obtain ⟨f, hf, hne⟩ := h
      cases hf
      exact absurd rfl hne
    · rename_i hnonempty
      obtain ⟨v, hv, h⟩ := (Value.plain_get "id" entry).answered.escapes_bind_iff.1 h
      obtain ⟨_, rfl⟩ := Value.get_id_eq_ok_iff.1 (lift_eq_ok_iff.1 hv)
      obtain ⟨⟨id, ids⟩, hnumbered, h⟩ := (asked d.policyIds).escapes_bind_iff.1 h
      obtain ⟨groups, hgroups, h⟩ :=
        (Value.plain_get "target_groups" entry).answered.escapes_bind_iff.1 h
      obtain ⟨targets, htargets, h⟩ := (Value.plain_memberSet _).answered.escapes_bind_iff.1 h
      rw [members] at h
      obtain ⟨before, fields, after, d', p', rfl, hbefore, hstumbles⟩ := (unanswered_readRules_iff tables rulesAsked).1 h
      exact .rule (lift_eq_ok_iff.1 hname) (by simpa using hnonempty) hnumbered
        (lift_eq_ok_iff.1 hgroups) (lift_eq_ok_iff.1 htargets) members hbefore hstumbles
  · rintro ⟨named, nonempty, numbered, targeted, grouped, listed, read, stumbles⟩
    refine ⟨_, lift_eq_ok_iff.2 named, ?_⟩
    have htable : ∃ es, entry = .table es := by
      cases entry with
      | table es => exact ⟨es, rfl⟩
      | _ => cases named
    rw [nonempty]
    refine (Value.plain_get "id" entry).answered.escapes_bind_iff.2
      ⟨_, lift_eq_ok_iff.2 (Value.get_id_eq_ok_iff.2 ⟨htable, rfl⟩), ?_⟩
    refine (asked d.policyIds).escapes_bind_iff.2 ⟨_, numbered, ?_⟩
    refine (Value.plain_get "target_groups" entry).answered.escapes_bind_iff.2
      ⟨_, lift_eq_ok_iff.2 targeted, ?_⟩
    refine (Value.plain_memberSet _).answered.escapes_bind_iff.2 ⟨_, lift_eq_ok_iff.2 grouped, ?_⟩
    cases members.symm.trans listed
    rw [members]
    exact (unanswered_readRules_iff tables rulesAsked).2 ⟨_, _, _, _, _, rfl, read, stumbles⟩

/-- Policies are read up to the first one that cannot be read. -/
theorem astray_readPolicies_iff {g : PolicyReading} {d : PolicyDraft} {entries : List Value}
    (asked : ∀ (d : PolicyDraft), ∀ e ∈ entries,
      (Astray (inPolicy e (readPolicy g d e)) ↔ StumblesAtPolicy g d e)) :
    Astray (readPolicies g d entries) ↔
      ∃ before entry after d' ps, entries = before ++ entry :: after ∧
        readPolicies g d before = .ok (d', ps) ∧ StumblesAtPolicy g d' entry := by
  induction entries generalizing d with
  | nil =>
      refine iff_of_false (FailsOnly.ok (d, [])).not_escapes ?_
      rintro ⟨before, entry, after, d', ps, h, _⟩
      simp at h
  | cons e rest ih =>
      have askedRest : ∀ d, ∀ e' ∈ rest, (Astray (inPolicy e' (readPolicy g d e')) ↔
          StumblesAtPolicy g d e') := fun d e' he' => asked d e' (List.mem_cons_of_mem e he')
      -- what is put before the other policies does not stumble
      have hrest : ∀ (d' : PolicyDraft) (p : Policy), Astray (readPolicies g d' rest >>= fun s =>
          Except.ok (s.1, p :: s.2)) ↔ Astray (readPolicies g d' rest) := by
        intro d' p
        rw [Astray, escapes_bind_iff]
        refine or_iff_left ?_
        rintro ⟨s, _, h⟩
        exact (FailsOnly.ok _).not_escapes h
      rw [readPolicies, Astray, escapes_bind_iff, ← Astray, asked d e List.mem_cons_self]
      constructor
      · rintro (h | ⟨⟨d₁, p⟩, hfirst, h⟩)
        · exact ⟨[], e, rest, d, [], rfl, rfl, h⟩
        · obtain ⟨before, entry, after, d', ps, rfl, hbefore, hstumbles⟩ :=
            (ih askedRest).1 ((hrest d₁ p).1 h)
          exact ⟨e :: before, entry, after, d', p :: ps, rfl,
            bind_eq_ok_iff.2 ⟨_, hfirst, bind_eq_ok_iff.2 ⟨_, hbefore, rfl⟩⟩, hstumbles⟩
      · rintro ⟨before, entry, after, d', ps, hsplit, hbefore, hstumbles⟩
        cases before with
        | nil =>
            cases hsplit
            cases hbefore
            exact Or.inl hstumbles
        | cons b before =>
            cases hsplit
            obtain ⟨⟨d₁, p⟩, hfirst, hbefore⟩ := bind_eq_ok_iff.1 hbefore
            obtain ⟨⟨d₂, ps'⟩, hothers, heq⟩ := bind_eq_ok_iff.1 hbefore
            cases heq
            exact Or.inr ⟨(d₁, p), hfirst, (hrest d₁ p).2
              ((ih askedRest).2 ⟨before, entry, after, d', ps', rfl, hothers, hstumbles⟩)⟩

/-! ## Documents -/

/-- Reading a document stumbles. -/
inductive PolicySet.Stumbles (g : PolicyReading) (data : Value) : Prop where
  /-- Of the policies, the first one whose id cannot be read asks for an infinity. -/
  | policyId {entries rules : List Value} (listed : data.field? "policies" = some (.list entries))
      (members : rulesOf entries = .ok rules) (asks : AskForInfinity entries)
  /-- Of the rules, the first one whose id cannot be read asks for an infinity. -/
  | ruleId {entries rules : List Value} {ids : List Int}
      (listed : data.field? "policies" = some (.list entries))
      (members : rulesOf entries = .ok rules) (policyIds : idsOf entries = .ok ids)
      (asks : AskForInfinity rules)
  /-- Reading a policy stumbles, after those before it have been read. -/
  | policy {before after : List Value} {entry : Value} {d d' : PolicyDraft} {ps : List Policy}
      (listed : data.field? "policies" = some (.list (before ++ entry :: after)))
      (drafted : draft (before ++ entry :: after) = .ok d)
      (read : readPolicies g d before = .ok (d', ps)) (stumbles : StumblesAtPolicy g d' entry)

/-- The members of a list of rules are found entry by entry. -/
theorem plain_rulesOf (entries : List Value) : Plainly (rulesOf entries) := by
  induction entries with
  | nil => exact .ok _
  | cons e rest ih =>
      have hlisted : Plainly (listed "rules" e) :=
        (Value.plain_get "rules" e).bind fun _ _ => Value.plain_members _
      exact hlisted.bind fun _ _ => ih.bind fun _ _ => .ok _

/-- The rules of an entry are among the rules of all entries. -/
theorem listed_of_rulesOf {entries rules : List Value} (h : rulesOf entries = .ok rules) {e : Value}
    (he : e ∈ entries) : ∃ here, listed "rules" e = .ok here ∧ ∀ r ∈ here, r ∈ rules := by
  induction entries generalizing rules with
  | nil => exact absurd he List.not_mem_nil
  | cons entry rest ih =>
      obtain ⟨here, hhere, h⟩ := bind_eq_ok_iff.1 h
      obtain ⟨there, hthere, h⟩ := bind_eq_ok_iff.1 h
      cases h
      rcases List.mem_cons.1 he with rfl | he
      · exact ⟨here, hhere, fun r hr => List.mem_append_left there hr⟩
      · obtain ⟨others, hothers, hmem⟩ := ih hthere he
        exact ⟨others, hothers, fun r hr => List.mem_append_right here (hmem r hr)⟩

/-- The ids of a document are learned, or are refused plainly, or there is an infinity. -/
theorem escapes_draft_iff {entries : List Value} :
    Escapes (·.isPlain = true) (draft entries) ↔
      ∃ rules, rulesOf entries = .ok rules ∧
        (AskForInfinity entries ∨ (∃ ids, idsOf entries = .ok ids) ∧ AskForInfinity rules) := by
  have hlast : ∀ (rules : List Value) (policyIds : List Int), Escapes (·.isPlain = true)
      (idsOf rules >>= fun ids => Except.ok (PolicyDraft.mk (.make "policy" policyIds)
        (.make "rule" ids) .empty)) ↔ AskForInfinity rules := by
    intro rules policyIds
    rw [escapes_bind_iff, escapes_idsOf_iff]
    refine or_iff_left ?_
    rintro ⟨ids, _, h⟩
    exact (FailsOnly.ok _).not_escapes h
  rw [draft, (plain_rulesOf entries).escapes_bind_iff]
  constructor
  · rintro ⟨rules, hrules, h⟩
    rcases escapes_bind_iff.1 h with h | ⟨ids, hids, h⟩
    · exact ⟨rules, hrules, Or.inl (escapes_idsOf_iff.1 h)⟩
    · exact ⟨rules, hrules, Or.inr ⟨⟨ids, hids⟩, (hlast rules ids).1 h⟩⟩
  · rintro ⟨rules, hrules, h | ⟨⟨ids, hids⟩, h⟩⟩
    · exact ⟨rules, hrules, escapes_bind_iff.2 (Or.inl (escapes_idsOf_iff.2 h))⟩
    · exact ⟨rules, hrules, escapes_bind_iff.2 (Or.inr ⟨ids, hids, (hlast rules ids).2 h⟩)⟩

/-- Behind a draft, a policy is read or refused with a fault of the audit, unless its reading
stumbles. -/
theorem astray_readPolicy_of_draft {g : PolicyReading} {entries : List Value} {d : PolicyDraft}
    (drafted : draft entries = .ok d) (d' : PolicyDraft) {e : Value} (he : e ∈ entries) :
    Astray (inPolicy e (readPolicy g d' e)) ↔ StumblesAtPolicy g d' e := by
  obtain ⟨rules, hrules, drafted⟩ := bind_eq_ok_iff.1 drafted
  obtain ⟨policyIds, hpolicyIds, drafted⟩ := bind_eq_ok_iff.1 drafted
  obtain ⟨ruleIds, hruleIds, _⟩ := bind_eq_ok_iff.1 drafted
  obtain ⟨here, hhere, hmem⟩ := listed_of_rulesOf hrules he
  have hpolicy : Unanswered (readPolicy g d' e) ↔ StumblesAmongRules g d' e := by
    refine unanswered_readPolicy_iff hhere (fun r hr => (idsOf_eq_ok hruleIds).1 r (hmem r hr)) ?_ ?_
    · exact fun p => p.answered_allocate fun hset => asked_of_idsOf hpolicyIds he hset
    · exact fun r hr p => p.answered_allocate fun hset => asked_of_idsOf hruleIds (hmem r hr) hset
  rw [astray_inPolicy_iff, hpolicy]
  constructor
  · rintro (h | h)
    · exact .rule h
    · exact .name h
  · rintro (h | h)
    · exact Or.inl h
    · exact Or.inr h

/-- A document is read, or refused with a fault of the audit, unless its reading stumbles. -/
theorem PolicySet.astray_ofValue_iff {g : PolicyReading} {data : Value} :
    Astray (ofValue g data) ↔ Stumbles g data := by
  unfold ofValue
  split
  · rename_i entries hentries
    -- the ids are asked for before any entry is read
    rw [Astray, escapes_bind_iff, ← Astray, astray_inDocument_iff, escapes_draft_iff]
    constructor
    · rintro (⟨rules, hrules, h | ⟨⟨ids, hids⟩, h⟩⟩ | ⟨d, hdraft, h⟩)
      · exact .policyId hentries hrules h
      · exact .ruleId hentries hrules hids h
      · have hdraft := inDocument_eq_ok_iff.1 hdraft
        rcases escapes_bind_iff.1 h with h | ⟨s, _, h⟩
        · obtain ⟨before, entry, after, d', ps, rfl, hread, hstumbles⟩ :=
            (astray_readPolicies_iff fun d' e he =>
              astray_readPolicy_of_draft hdraft d' he).1 h
          exact .policy hentries hdraft hread hstumbles
        · exact absurd h (FailsOnly.ok _).not_escapes
    · rintro (⟨hlisted, hrules, h⟩ | ⟨hlisted, hrules, hids, h⟩ | ⟨hlisted, hdraft, hread, h⟩)
      · cases hentries.symm.trans hlisted
        exact Or.inl ⟨_, hrules, Or.inl h⟩
      · cases hentries.symm.trans hlisted
        exact Or.inl ⟨_, hrules, Or.inr ⟨⟨_, hids⟩, h⟩⟩
      · cases hentries.symm.trans hlisted
        refine Or.inr ⟨_, inDocument_eq_ok_iff.2 hdraft, escapes_bind_iff.2 (Or.inl ?_)⟩
        exact (astray_readPolicies_iff fun d' e he =>
          astray_readPolicy_of_draft hdraft d' he).2 ⟨_, _, _, _, _, rfl, hread, h⟩
  · rename_i hother
    refine iff_of_false (fun h => escapes_error_iff.1 h rfl) ?_
    rintro (⟨hlisted, _, _⟩ | ⟨hlisted, _, _, _⟩ | ⟨hlisted, _, _, _⟩)
    · exact hother _ hlisted
    · exact hother _ hlisted
    · exact hother _ hlisted

/-! ## Files -/

/-- Reading the policies in the bytes of a file stumbles. -/
inductive Stumbles (g : PolicyReading) (bytes : List UInt8) : Prop where
  /-- The bytes are no text. -/
  | encoding {f : Utf8Fault} (text : readTextFile bytes = .error f)
  /-- An escaped number in the document is no character. -/
  | codePoint {cs : List Char} {n : Nat} (text : readTextFile bytes = .ok cs)
      (document : Yaml.readDocument cs = .error (.malformed (.codePoint n)))
  /-- A scalar is not what its tag says. -/
  | scalar {cs : List Char} {f : ValueFault} (text : readTextFile bytes = .ok cs)
      (document : Yaml.readDocument cs = .error (.value f))
  /-- A date does not exist. -/
  | date {cs : List Char} {f : MomentFault} (text : readTextFile bytes = .ok cs)
      (document : Yaml.readDocument cs = .error (.moment f))
  /-- Reading the policies of the document stumbles. -/
  | policies {cs : List Char} {data : Value} (text : readTextFile bytes = .ok cs)
      (document : Yaml.readDocument cs = .ok data) (stumbles : PolicySet.Stumbles g data)
  /-- A rule of the document is refused, and its name cannot be told. -/
  | rule {cs : List Char} {data name : Value} {defect : RuleDefect} (text : readTextFile bytes = .ok cs)
      (document : Yaml.readDocument cs = .ok data)
      (refused : PolicySet.ofValue g data = .error (.rule defect name))
      (unnamed : name.isSpellable = false)

/-- What is loaded from a file that is there. -/
theorem loadDocument_found {files : Files} {path : String} {bytes : List UInt8}
    (found : files (tidyPath path) = some (.file bytes)) :
    loadDocument files path = match readFile path bytes with
      | .ok v => .ok v
      | .error (.yaml _ (.codePoint n)) => .error (.yaml (tidyPath path) (.codePoint n))
      | .error (.yaml file f) => .error (.run (.invalidFile file (f.message file)))
      | .error f => .error f := by
  have hbytes : files.bytes? path = .ok (some bytes) := by rw [Files.bytes?, found]
  rw [loadDocument, hbytes]
  rfl

/-- No document is read of bytes over which reading stumbles before. -/
theorem not_stumbles_of_document {g : PolicyReading} {bytes : List UInt8} {cs : List Char}
    (text : readTextFile bytes = .ok cs) {f : Yaml.DocumentFault}
    (document : Yaml.readDocument cs = .error f) (value : ∀ e, f ≠ .value e)
    (moment : ∀ e, f ≠ .moment e) (codePoint : ∀ n, f ≠ .malformed (.codePoint n)) :
    ¬ Stumbles g bytes := by
  rintro (text' | ⟨text', document'⟩ | ⟨text', document'⟩ | ⟨text', document'⟩ |
    ⟨text', document', _⟩ | ⟨text', document', _, _⟩) <;> cases text.symm.trans text' <;>
    cases document.symm.trans document'
  · exact codePoint _ rfl
  · exact value _ rfl
  · exact moment _ rfl

/-- The policies of a file are read, or refused with a fault of the audit, unless their reading
stumbles. -/
theorem loadPolicies_astray_iff {g : PolicyReading} {files : Files} {path : String}
    {bytes : List UInt8} (found : files (tidyPath path) = some (.file bytes)) :
    Astray (loadPolicies g files path) ↔ Stumbles g bytes := by
  rw [loadPolicies, astray_inRuleFile_iff, loadDocument_found found, readFile]
  have hplain : ∀ f : Fault, (∀ defect name, f ≠ .rule defect name) →
      ((Astray (.error f : Except Fault PolicySet) ∨ ∃ defect name,
        (.error f : Except Fault PolicySet) = .error (.rule defect name) ∧
          name.isSpellable = false) ↔ ¬ f.stopsAudit = true) := by
    intro f hf
    rw [Astray, escapes_error_iff]
    refine or_iff_left ?_
    rintro ⟨defect, name, h, _⟩
    exact hf defect name (Except.error.inj h)
  cases text : readTextFile bytes with
  | error f => exact iff_of_true (Or.inl (escapes_error_iff.2 Bool.false_ne_true)) (.encoding text)
  | ok cs =>
      dsimp only
      cases document : Yaml.readDocument cs with
      | ok data =>
          constructor
          · rintro (h | ⟨defect, name, refused, unnamed⟩)
            · exact .policies text document (PolicySet.astray_ofValue_iff.1 h)
            · exact .rule text document refused unnamed
          · rintro (text' | ⟨text', document'⟩ | ⟨text', document'⟩ | ⟨text', document'⟩ |
              ⟨text', document', stumbles⟩ | ⟨text', document', refused, unnamed⟩) <;>
              cases text.symm.trans text' <;> cases document.symm.trans document'
            · exact Or.inl (PolicySet.astray_ofValue_iff.2 stumbles)
            · exact Or.inr ⟨_, _, refused, unnamed⟩
      | error e =>
          cases e with
          | value f =>
              exact iff_of_true (Or.inl (escapes_error_iff.2 Bool.false_ne_true))
                (.scalar text document)
          | moment f =>
              exact iff_of_true (Or.inl (escapes_error_iff.2 Bool.false_ne_true))
                (.date text document)
          | malformed y =>
              cases y with
              | codePoint n =>
                  -- the one defect of the text itself that is not reported
                  exact iff_of_true (Or.inl (escapes_error_iff.2 Bool.false_ne_true))
                    (.codePoint text document)
              | marked | character =>
                  refine iff_of_false (fun h => (hplain _ (by nofun)).1 h rfl) ?_
                  exact not_stumbles_of_document text document (by nofun) (by nofun) (by nofun)

/-- The policies of a file are read, or refused with a fault of the audit, exactly if their reading
does not stumble. -/
theorem loadPolicies_answered_iff {g : PolicyReading} {files : Files} {path : String}
    {bytes : List UInt8} (found : files (tidyPath path) = some (.file bytes)) :
    ((∃ set, loadPolicies g files path = .ok set) ∨
      ∃ f, loadPolicies g files path = .error f ∧ f.stopsAudit = true) ↔ ¬ Stumbles g bytes := by
  rw [← loadPolicies_astray_iff found]
  cases hload : loadPolicies g files path with
  | ok set => exact iff_of_true (Or.inl ⟨set, rfl⟩) (FailsOnly.ok set).not_escapes
  | error f => simp [Astray, escapes_error_iff]

end ConfigAudit
