/-
# Exemptions as they are written

The exemptions of all rules of a document go into one register, under the ids of the rules.  No
two rules have the same id, so what the register answers for a rule comes from the list of its own
entry, and there from the last item for the device.

* `Value.Names`, `Value.Lasts` : what an item of such a list says;
* `ExcusedBy` : what a list says about a device at an instant;
* `Register.find?_entered` : a register answers with the last exemption that was entered;
* `PolicySet.accepted_as_written` : the policies, rules and exemptions of an accepted document.
-/
import ConfigAudit.Proofs.Policy.Written
import ConfigAudit.Proofs.Rule.Precedence
import ConfigAudit.Proofs.Store.Exemptions

namespace ConfigAudit

/-! ## Items -/

/-- An item of a list of exemptions is for a device. -/
def Value.Names (item : Value) (d : Int) : Prop :=
  ∃ v, item.index "device_id" = .ok v ∧ v.toInteger = .ok d

/-- An item of a list of exemptions has no date of expiration, or one that lies ahead. -/
def Value.Lasts (item : Value) (t : Moment) : Prop :=
  ∃ v expiry, item.get "expiration_date" = .ok v ∧ readExpiry v = .ok expiry ∧
    ∀ m, expiry = some m → t.instant < m.instant

/-- A list of exemptions excuses a device at an instant: of the items for the device, the last one
lasts. -/
def ExcusedBy (items : List Value) (d : Int) (t : Moment) : Prop :=
  ∃ before item after, items = before ++ item :: after ∧ item.Names d ∧
    (∀ x ∈ after, ¬ x.Names d) ∧ item.Lasts t

/-- An item is for one device only. -/
theorem Value.Names.eq {item : Value} {d d' : Int} (h : item.Names d) (h' : item.Names d') :
    d = d' := by
  obtain ⟨v, hv, hd⟩ := h
  obtain ⟨v', hv', hd'⟩ := h'
  cases hv.symm.trans hv'
  exact Except.ok.inj (hd.symm.trans hd')

/-- An exemption is for the device of its item, and ends as the item says. -/
theorem exemptionOf_eq_ok {rule item : Value} {x : Exemption} (h : exemptionOf rule item = .ok x) :
    ∃ d expiry, x = ⟨rule, .int d, expiry⟩ ∧ item.Names d ∧
      ∃ v, item.get "expiration_date" = .ok v ∧ readExpiry v = .ok expiry := by
  obtain ⟨v, hv, h⟩ := bind_eq_ok_iff.1 h
  obtain ⟨d, hd, h⟩ := bind_eq_ok_iff.1 h
  obtain ⟨w, hw, h⟩ := bind_eq_ok_iff.1 h
  obtain ⟨expiry, hexpiry, h⟩ := bind_eq_ok_iff.1 h
  cases h
  exact ⟨d, expiry, rfl, ⟨v, lift_eq_ok_iff.1 hv, lift_eq_ok_iff.1 hd⟩, w, lift_eq_ok_iff.1 hw,
    hexpiry⟩

/-- An exemption is for a device if its item is. -/
theorem isFor_iff_names {n d : Int} {item : Value} {x : Exemption}
    (h : exemptionOf (.int n) item = .ok x) :
    x.isFor (.int n) (.int d) = true ↔ item.Names d := by
  obtain ⟨d', expiry, rfl, hnames, _⟩ := exemptionOf_eq_ok h
  rw [Exemption.isFor_int]
  constructor
  · rintro ⟨_, rfl⟩
    exact hnames
  · intro hnames'
    exact ⟨rfl, hnames.eq hnames'⟩

/-- An exemption holds at an instant if its item lasts. -/
theorem ends_iff_lasts {rule item : Value} {x : Exemption} (h : exemptionOf rule item = .ok x)
    (t : Moment) : (∀ m, x.expiry = some m → t.instant < m.instant) ↔ item.Lasts t := by
  obtain ⟨d, expiry, rfl, _, v, hv, hexpiry⟩ := exemptionOf_eq_ok h
  constructor
  · intro hlasts
    exact ⟨v, expiry, hv, hexpiry, hlasts⟩
  · rintro ⟨v', expiry', hv', hexpiry', hlasts⟩
    cases hv.symm.trans hv'
    cases hexpiry.symm.trans hexpiry'
    exact hlasts

/-! ## Registers -/

/-- Both ids of an exemption are integers. -/
def Exemption.Numbered (x : Exemption) : Prop := ∃ n d expiry, x = ⟨.int n, .int d, expiry⟩

/-- **The last exemption counts.**  After some exemptions have been entered, a register answers for
a pair with the last one of them for the pair, and as before if there is none. -/
theorem Register.find?_entered {xs : List Exemption} (numbered : ∀ x ∈ xs, x.Numbered)
    (r : Register) (n d : Int) :
    (xs.foldl add r).find? (.int n) (.int d) =
      (xs.reverse.find? (·.isFor (.int n) (.int d))).or (r.find? (.int n) (.int d)) := by
  induction xs using List.reverseRecOn with
  | nil => rfl
  | append_singleton xs x ih =>
      obtain ⟨numberedBefore, n', d', expiry, rfl⟩ :
          (∀ y ∈ xs, y.Numbered) ∧ x.Numbered := by
        refine ⟨fun y hy => numbered y (List.mem_append_left _ hy), ?_⟩
        exact numbered x (List.mem_append_right _ (List.mem_singleton.2 rfl))
      rw [List.foldl_append, List.reverse_append, List.reverse_singleton, List.singleton_append,
        List.foldl_cons, List.foldl_nil]
      by_cases hpair : (n', d') = (n, d)
      · cases hpair
        rw [List.find?_cons_of_pos ((Exemption.isFor_int ..).2 ⟨rfl, rfl⟩)]
        exact find?_insert_self expiry _
      · have hother : ¬ (Exemption.mk (.int n') (.int d') expiry).isFor (.int n) (.int d) = true := by
          rw [Exemption.isFor_int, ← Prod.mk.injEq]
          exact hpair
        rw [List.find?_cons_of_neg hother, ← ih numberedBefore]
        exact find?_insert_of_ne expiry _ hpair

/-- What a register holds after some exemptions have been entered is one of them, or was there. -/
theorem Register.mem_of_entered {xs : List Exemption} {r : Register} {x : Exemption}
    (h : x ∈ (xs.foldl add r).entries) : x ∈ xs ∨ x ∈ r.entries := by
  induction xs generalizing r with
  | nil => exact Or.inr h
  | cons y ys ih =>
      rcases ih h with hys | hr
      · exact Or.inl (List.mem_cons_of_mem y hys)
      · have hinsert : ∀ es, x ∈ insert y es → x = y ∨ x ∈ es := by
          intro es
          induction es with
          | nil => exact fun hx => Or.inl (List.mem_singleton.1 hx)
          | cons e es ihes =>
              intro hx
              rw [insert] at hx
              split at hx
              · exact (List.mem_cons.1 hx).imp_right (List.mem_cons_of_mem e)
              · rcases List.mem_cons.1 hx with rfl | hx
                · exact Or.inr List.mem_cons_self
                · exact (ihes hx).imp_right (List.mem_cons_of_mem e)
        rcases hinsert _ hr with rfl | hr
        · exact Or.inl List.mem_cons_self
        · exact Or.inr hr

/-- Of two lists that belong together, a member of one is the first of its kind if its partner is
the first in the other. -/
theorem find?_eq_some_iff_of_forall₂ {α β : Type} {R : α → β → Prop} {p : β → Bool} {q : α → Prop}
    (function : ∀ {a b b'}, R a b → R a b' → b = b') (agree : ∀ {a b}, R a b → (p b = true ↔ q a))
    {as : List α} {bs : List β} (h : List.Forall₂ R as bs) {b : β} :
    bs.find? p = some b ↔
      ∃ before a after, as = before ++ a :: after ∧ R a b ∧ q a ∧ ∀ c ∈ before, ¬ q c := by
  induction h with
  | nil => simp
  | @cons a₀ b₀ as bs hhead _ ih =>
      by_cases hq : q a₀
      · rw [List.find?_cons_of_pos ((agree hhead).2 hq)]
        constructor
        · intro heq
          cases heq
          exact ⟨[], a₀, as, rfl, hhead, hq, fun _ hc => nomatch hc⟩
        · rintro ⟨before, a, after, hsplit, hab, _, hnone⟩
          cases before with
          | nil =>
              cases hsplit
              rw [function hhead hab]
          | cons c before =>
              cases hsplit
              exact absurd hq (hnone _ List.mem_cons_self)
      · rw [List.find?_cons_of_neg fun hp => hq ((agree hhead).1 hp), ih]
        constructor
        · rintro ⟨before, a, after, rfl, hab, ha, hnone⟩
          exact ⟨a₀ :: before, a, after, rfl, hab, ha, List.forall_mem_cons.2 ⟨hq, hnone⟩⟩
        · rintro ⟨before, a, after, hsplit, hab, ha, hnone⟩
          cases before with
          | nil =>
              cases hsplit
              exact absurd ha hq
          | cons c before =>
              cases hsplit
              exact ⟨before, a, after, rfl, hab, ha, (List.forall_mem_cons.1 hnone).2⟩

/-! ## Rules of a document -/

namespace WrittenRule

variable {g : PolicyReading}

/-- The exemptions from a rule have the id of the rule. -/
theorem exemption_ids (w : WrittenRule g) {x : Exemption} (hx : x ∈ w.exemptions) :
    ∃ d expiry, x = ⟨.int w.id, .int d, expiry⟩ := by
  have hread : ∃ item ∈ w.items, exemptionOf w.rule.id item = .ok x := by
    obtain ⟨i, hi, rfl⟩ := List.mem_iff_getElem.1 hx
    have hitem : i < w.items.length := w.read.length_eq ▸ hi
    exact ⟨_, List.getElem_mem hitem, (List.forall₂_iff_get.1 w.read).2 i hitem hi⟩
  obtain ⟨item, _, hitem⟩ := hread
  obtain ⟨d, expiry, rfl, _⟩ := exemptionOf_eq_ok hitem
  exact ⟨d, expiry, by rw [w.rule_id]⟩

/-- The register of a document answers for a rule with the last exemption that its entry lists. -/
theorem find?_ofList {ws : List (WrittenRule g)} (distinct : (ws.map WrittenRule.id).Nodup)
    {w : WrittenRule g} (hw : w ∈ ws) (d : Int) :
    (Register.ofList (ws.flatMap WrittenRule.exemptions)).find? (.int w.id) (.int d) =
      w.exemptions.reverse.find? (·.isFor (.int w.id) (.int d)) := by
  have numbered : ∀ x ∈ ws.flatMap WrittenRule.exemptions, x.Numbered := by
    intro x hx
    obtain ⟨w', _, hx⟩ := List.mem_flatMap.1 hx
    obtain ⟨d', expiry, rfl⟩ := w'.exemption_ids hx
    exact ⟨_, _, _, rfl⟩
  obtain ⟨before, after, rfl⟩ := List.append_of_mem hw
  rw [List.map_append, List.map_cons, List.nodup_append, List.nodup_cons] at distinct
  -- the other rules have other ids
  have elsewhere : ∀ ws' : List (WrittenRule g), (∀ w' ∈ ws', w'.id ≠ w.id) →
      (ws'.flatMap WrittenRule.exemptions).reverse.find? (·.isFor (.int w.id) (.int d)) = none := by
    intro ws' hne
    rw [List.find?_eq_none]
    intro x hx
    obtain ⟨w', hw', hx⟩ := List.mem_flatMap.1 (List.mem_reverse.1 hx)
    obtain ⟨d', expiry, rfl⟩ := w'.exemption_ids hx
    rw [Exemption.isFor_int]
    exact fun h => hne w' hw' h.1
  have hbefore := elsewhere before fun w' hw' heq =>
    distinct.2.2 _ (List.mem_map_of_mem hw') _ List.mem_cons_self heq
  have hafter := elsewhere after fun w' hw' heq =>
    distinct.2.1.1 (heq ▸ List.mem_map_of_mem hw')
  rw [Register.ofList, Register.find?_entered numbered, List.flatMap_append, List.flatMap_cons,
    List.reverse_append, List.reverse_append, List.find?_append, List.find?_append, hbefore, hafter,
    Option.none_or, Option.or_none]
  exact Option.or_none

/-- The last exemption for a device comes from the last item for it. -/
theorem find?_reverse_eq_some_iff (w : WrittenRule g) {d : Int} {x : Exemption} :
    w.exemptions.reverse.find? (·.isFor (.int w.id) (.int d)) = some x ↔
      ∃ before item after, w.items = before ++ item :: after ∧ item.Names d ∧
        (∀ y ∈ after, ¬ y.Names d) ∧ exemptionOf (.int w.id) item = .ok x := by
  have hread := w.read
  rw [w.rule_id] at hread
  have hfirst := find?_eq_some_iff_of_forall₂ (p := (·.isFor (.int w.id) (.int d)))
    (fun h h' => Except.ok.inj (h.symm.trans h')) isFor_iff_names (List.rel_reverse hread) (b := x)
  rw [hfirst]
  constructor
  · rintro ⟨before, item, after, hitems, hx, hnames, hnone⟩
    refine ⟨after.reverse, item, before.reverse, ?_, hnames, ?_, hx⟩
    · rw [← List.reverse_reverse w.items, hitems, List.reverse_append, List.reverse_cons,
        List.append_assoc, List.singleton_append]
    · intro y hy
      exact hnone y (List.mem_reverse.1 hy)
  · rintro ⟨before, item, after, hitems, hnames, hnone, hx⟩
    refine ⟨after.reverse, item, before.reverse, ?_, hx, hnames, ?_⟩
    · rw [hitems, List.reverse_append, List.reverse_cons, List.append_assoc, List.singleton_append]
    · intro y hy
      exact hnone y (List.mem_reverse.1 hy)

/-- The last exemption for a device holds if the list excuses the device. -/
theorem active_iff_excusedBy (w : WrittenRule g) {d : Int} {t : Moment} :
    (∃ x, w.exemptions.reverse.find? (·.isFor (.int w.id) (.int d)) = some x ∧
      ∀ m, x.expiry = some m → t.instant < m.instant) ↔ ExcusedBy w.items d t := by
  constructor
  · rintro ⟨x, hx, hlasts⟩
    obtain ⟨before, item, after, hitems, hnames, hnone, hitem⟩ := w.find?_reverse_eq_some_iff.1 hx
    exact ⟨before, item, after, hitems, hnames, hnone, (ends_iff_lasts hitem t).1 hlasts⟩
  · rintro ⟨before, item, after, hitems, hnames, hnone, hlasts⟩
    -- every item of the list has been read
    have hread : ∃ x, exemptionOf (.int w.id) item = .ok x := by
      have hmem : item ∈ w.items := hitems ▸ List.mem_append_right _ List.mem_cons_self
      obtain ⟨i, hi, rfl⟩ := List.mem_iff_getElem.1 hmem
      have hx : i < w.exemptions.length := w.read.length_eq ▸ hi
      exact ⟨_, w.rule_id ▸ (List.forall₂_iff_get.1 w.read).2 i hi hx⟩
    obtain ⟨x, hx⟩ := hread
    exact ⟨x, w.find?_reverse_eq_some_iff.2 ⟨before, item, after, hitems, hnames, hnone, hx⟩,
      (ends_iff_lasts hx t).2 hlasts⟩

/-- There is an exemption for a device if an item of the list is for it. -/
theorem isSome_find?_iff (w : WrittenRule g) {d : Int} :
    (w.exemptions.reverse.find? (·.isFor (.int w.id) (.int d))).isSome = true ↔
      ∃ item ∈ w.items, item.Names d := by
  have hread := w.read
  rw [w.rule_id] at hread
  rw [List.find?_isSome]
  constructor
  · rintro ⟨x, hx, hfor⟩
    obtain ⟨i, hi, rfl⟩ := List.mem_iff_getElem.1 (List.mem_reverse.1 hx)
    have hitem : i < w.items.length := hread.length_eq ▸ hi
    exact ⟨_, List.getElem_mem hitem,
      (isFor_iff_names ((List.forall₂_iff_get.1 hread).2 i hitem hi)).1 hfor⟩
  · rintro ⟨item, hitem, hnames⟩
    obtain ⟨i, hi, rfl⟩ := List.mem_iff_getElem.1 hitem
    have hx : i < w.exemptions.length := hread.length_eq ▸ hi
    exact ⟨_, List.mem_reverse.2 (List.getElem_mem hx),
      (isFor_iff_names ((List.forall₂_iff_get.1 hread).2 i hi hx)).2 hnames⟩

end WrittenRule

/-! ## Documents -/

/-- A rule and what a register says about it are as its entry says. -/
structure Rule.AsWritten (g : PolicyReading) (register : Register) (entry : Value) (r : Rule) :
    Prop where
  /-- The rule is built from the fields of the entry, once it has been given an id. -/
  built : ∃ id fields, entry = .table fields ∧ r.id = .int id ∧
    g.kinds.ruleOf (ruleEntry id fields) = .ok r
  /-- The register holds exemptions from it for the devices that the entry's list names, and a
  device is excused from it at an instant if the list excuses it. -/
  excused : ∃ items, entry.excuses = .ok items ∧
    (∀ d, (register.find? r.id (.int d)).isSome = true ↔ ∃ item ∈ items, item.Names d) ∧
    ∀ d t, register.isExempted r.id (.int d) t = true ↔ ExcusedBy items d t

/-- A policy and what a register says about its rules are as its entry says. -/
structure Policy.AsWritten (g : PolicyReading) (register : Register) (entry : Value) (p : Policy) :
    Prop where
  /-- It is named as the entry says. -/
  named : entry.get "name" = .ok p.name
  /-- It is for the groups that the entry names. -/
  targeted : ∃ v, entry.get "target_groups" = .ok v ∧ (orEmpty v).memberSet = .ok p.targets
  /-- Its rules are those that the entry lists, in order. -/
  rules : ∃ entries, listed "rules" entry = .ok entries ∧
    List.Forall₂ (Rule.AsWritten g register) entries p.rules
  /-- They have different names. -/
  distinct : p.Named

/-- A rule of a document is as it is written, if no two rules have the same id. -/
theorem WrittenRule.asWritten {g : PolicyReading} {ws : List (WrittenRule g)}
    (distinct : (ws.map WrittenRule.id).Nodup) {w : WrittenRule g} (hw : w ∈ ws) :
    w.rule.AsWritten g (.ofList (ws.flatMap WrittenRule.exemptions)) w.entry where
  built := ⟨w.id, w.fields, rfl, w.rule_id, w.built⟩
  excused := by
    refine ⟨w.items, w.listed, fun d => ?_, fun d t => ?_⟩
    · rw [w.rule_id, find?_ofList distinct hw]
      exact w.isSome_find?_iff
    · rw [Register.isExempted_iff, w.rule_id, find?_ofList distinct hw]
      exact w.active_iff_excusedBy

/-- **Documents are read as they are written.**  The policies of an accepted document are those of
its entries, in order, and so are the rules of each, which have different names.  For every rule
the register excuses a device at an instant exactly if, of the items for the device in the list of
the rule's own entry, the last one has no date of expiration or one behind the instant.  The
register holds no other exemptions. -/
theorem PolicySet.accepted_as_written {g : PolicyReading} {data : Value} {set : PolicySet}
    (h : ofValue g data = .ok set) :
    (∃ entries, data.field? "policies" = some (.list entries) ∧
      List.Forall₂ (Policy.AsWritten g set.exemptions) entries set.policies) ∧
    ∀ x ∈ set.exemptions.entries, ∃ r ∈ set.policies.flatMap Policy.rules, ∃ d,
      x.rule = r.id ∧ x.device = .int d ∧ (set.exemptions.find? r.id (.int d)).isSome = true := by
  obtain ⟨ws, hentries, hpolicies, hexemptions⟩ := ofValue_written h
  have hrules : set.policies.flatMap Policy.rules =
      (ws.flatMap WrittenPolicy.rules).map WrittenRule.rule := by
    rw [hpolicies, List.flatMap_map, List.map_flatMap]
    exact List.flatMap_congr fun w _ => w.members
  have hall : ws.flatMap WrittenPolicy.exemptions =
      (ws.flatMap WrittenPolicy.rules).flatMap WrittenRule.exemptions := by
    rw [List.flatMap_assoc]
    rfl
  -- all rules have different ids
  have distinct : ((ws.flatMap WrittenPolicy.rules).map WrittenRule.id).Nodup := by
    obtain ⟨ruleIds, hids, hnodup⟩ := ruleIds_of_accepted h
    have hids' : ((ws.flatMap WrittenPolicy.rules).map WrittenRule.id).map Value.int =
        ruleIds.map Value.int := by
      rw [← hids, hrules, List.map_map, List.map_map]
      exact List.map_congr_left fun w _ => w.rule_id.symm
    have hinj : Function.Injective (List.map Value.int) :=
      List.map_injective_iff.2 fun _ _ heq => Value.int.inj heq
    rw [hinj hids']
    exact hnodup
  rw [hall] at hexemptions
  constructor
  · refine ⟨_, hentries, ?_⟩
    rw [hpolicies, List.forall₂_map_left_iff, List.forall₂_map_right_iff, List.forall₂_same]
    intro w hw
    refine ⟨w.named, w.targeted, ⟨_, w.listed, ?_⟩, w.distinct⟩
    rw [w.members, List.forall₂_map_left_iff, List.forall₂_map_right_iff, List.forall₂_same,
      hexemptions]
    exact fun w' hw' => WrittenRule.asWritten distinct (List.mem_flatMap.2 ⟨w, hw, hw'⟩)
  · intro x hx
    rw [hexemptions] at hx
    obtain ⟨w, hw, hx'⟩ := List.mem_flatMap.1 ((Register.mem_of_entered hx).resolve_right nofun)
    obtain ⟨d, expiry, rfl⟩ := w.exemption_ids hx'
    refine ⟨w.rule, ?_, d, w.rule_id.symm, rfl, ?_⟩
    · rw [hrules]
      exact List.mem_map_of_mem hw
    · rw [w.rule_id, hexemptions, Register.find?, List.find?_isSome]
      exact ⟨_, hx, (Exemption.isFor_int ..).2 ⟨rfl, rfl⟩⟩

/-- An exemption from one of the rules of a document. -/
def excuse (device : Value) (fields : List (String × Value)) : Value :=
  .record ([("device_id", device)] ++ fields)

/-- Noon of a day, by no known offset. -/
def noon : Moment := ⟨⟨2026, 3, 1⟩, ⟨12, 0, 0, 0⟩, none⟩

/-- A minute before, by universal time. -/
def beforeNoon : Moment := ⟨⟨2026, 3, 1⟩, ⟨11, 59, 0, 0⟩, some 0⟩

/-- Two policies with a rule each.  The first rule has two exemptions for one device, of which the
second one ends at noon. -/
def excusingEntries : List Value :=
  [.record [("name", .text "core"), ("rules", .list [textEntry "banner" [("exemptions", .list [
      excuse (.int 7) [], excuse (.text "7") [("expiration_date", .moment noon)]])]])],
    .record [("name", .text "edge"), ("rules", .list [textEntry "banner" [("exemptions", .list [
      excuse (.int 8) []])]])]]

/-- Before noon the device is excused from the rule of its exemptions, but not at noon, and not
from the other rule. -/
theorem PolicySet.read_of_excusingEntries :
    ∃ set, ofValue plainReading (documentOf excusingEntries) = .ok set ∧
      ((∃ entries, (documentOf excusingEntries).field? "policies" = some (.list entries) ∧
        List.Forall₂ (Policy.AsWritten plainReading set.exemptions) entries set.policies) ∧
      ∀ x ∈ set.exemptions.entries, ∃ r ∈ set.policies.flatMap Policy.rules, ∃ d,
        x.rule = r.id ∧ x.device = .int d ∧
          (set.exemptions.find? r.id (.int d)).isSome = true) ∧
      set.exemptions.isExempted (.int 1) (.int 7) beforeNoon = true ∧
      set.exemptions.isExempted (.int 1) (.int 7) noon = false ∧
      set.exemptions.isExempted (.int 2) (.int 7) beforeNoon = false := by
  have hread : (ofValue plainReading (documentOf excusingEntries)).map
      (fun set => set.exemptions.entries) =
        .ok [⟨.int 1, .int 7, some noon.assumeUniversal⟩, ⟨.int 2, .int 8, none⟩] := by cbv
  cases hset : ofValue plainReading (documentOf excusingEntries) with
  | error f =>
      rw [hset] at hread
      cases hread
  | ok set =>
      rw [hset] at hread
      have hregister : set.exemptions =
          ⟨[⟨.int 1, .int 7, some noon.assumeUniversal⟩, ⟨.int 2, .int 8, none⟩]⟩ := by
        rw [← Except.ok.inj hread]
      refine ⟨set, rfl, accepted_as_written hset, ?_, ?_, ?_⟩
      · rw [hregister]
        cbv
      · rw [hregister]
        cbv
      · rw [hregister]
        cbv

end ConfigAudit
