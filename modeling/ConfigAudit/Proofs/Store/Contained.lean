/-
# Stored rules that no kind accepts

Rows of rules may come from anywhere: any tag, and any document as the definition.  A row whose
tag selects a kind that knows every key of its definition is rebuilt as a rule of this kind.  Any
other row is loaded as a stand-in that keeps its place, its id, its name and its switch, and that
reports an error wherever it is asked.

This only holds of definitions that are tables or count as empty.  A list, a text or a number
cannot be merged with what the row says, and its row keeps all policies from being loaded.

* `RuleRow.Fits`, `Recovers` : which rows are rebuilt, and what rows are loaded as;
* `ruleOfRow_of_merges`, `ruleOfRow_of_not_merges` : what becomes of one row;
* `loadPolicies_contained` : what becomes of all of them.
-/
import ConfigAudit.Proofs.Rule.Verdict
import ConfigAudit.Proofs.Script.Decoded
import ConfigAudit.Proofs.Store.Exemptions
import ConfigAudit.Proofs.Store.Loading

namespace ConfigAudit

/-! ## Definitions of rows -/

namespace RuleRow

/-- The entries of a definition; there are none if it is no table. -/
def entries (r : RuleRow) : List (Value × Value) :=
  match r.definition with
  | .table es => es
  | _ => []

/-- Whether a definition can be merged with what the row says: it counts as empty, or is a
table. -/
def Merges (r : RuleRow) : Prop := r.definition.truthy = true → ∃ es, r.definition = .table es

/-- Whether a row can be rebuilt as a rule of a kind: its tag selects the kind, and the kind knows
all keys of the definition. -/
structure Fits (r : RuleRow) (kinds : KindTable) (k : Kind) : Prop where
  /-- There is a tag. -/
  tagged : r.tag ≠ ""
  /-- It selects the kind. -/
  selected : kinds.lookup? (.text r.tag) = some k
  /-- The keys are known. -/
  known : ∀ e ∈ r.entries, k.knows e.1 = true

/-- A row as a rule of a kind: fields that its definition leaves out have their defaults. -/
def rebuilt (r : RuleRow) (k : Kind) : Rule :=
  ⟨.int r.id, .text r.name, .flag r.enabled, k.body fun name =>
    (Value.lookup (.text name) r.entries).getD ((k.fields.lookup name).getD .null)⟩

/-- The stand-in for a row, for a reason. -/
def standIn (r : RuleRow) (reason : String) : Rule :=
  ⟨.int r.id, .text r.name, .flag r.enabled, .standIn (.text reason)⟩

end RuleRow

/-- What a row is loaded as: a rule of the kind that it fits, or a stand-in if it fits none. -/
inductive Recovers (kinds : KindTable) (r : RuleRow) : Rule → Prop where
  /-- A rule of the kind. -/
  | rebuilt {k : Kind} (fits : r.Fits kinds k) : Recovers kinds r (r.rebuilt k)
  /-- A stand-in. -/
  | standIn (reason : String) (unfit : ∀ k, ¬ r.Fits kinds k) :
      Recovers kinds r (r.standIn reason)

/-- A document that has been stored is a value that can be read. -/
theorem decoded_of_storedForm {v w : Value} (h : storedForm v = .ok w) : Json.Decoded w := by
  unfold storedForm at h
  split at h
  · rename_i s _
    cases h
    cases hread : Json.parse s with
    | error m =>
        rw [Json.read, hread]
        exact .null
    | ok x =>
        rw [Json.read, hread]
        exact Json.decoded_of_parse hread
  all_goals cases h

namespace RuleRow

variable {r : RuleRow}

/-- The keys of a stored definition are texts. -/
theorem keys_of_decoded (h : Json.Decoded r.definition) : ∀ e ∈ r.entries, ∃ k, e.1 = .text k := by
  unfold entries
  cases hd : r.definition with
  | table es =>
      rw [hd] at h
      cases h with
      | table keys _ => exact keys
  | _ => exact nofun

end RuleRow

/-! ## Fields of merged documents -/

/-- The fields of a kind are none of those that every rule has. -/
theorem Kind.not_mem_commonFields {k : Kind} {name : String} (h : name ∈ k.fields.map Prod.fst) :
    name ∉ commonFields := by
  have hall : ∀ k ∈ all, ∀ name ∈ k.fields.map Prod.fst, name ∉ commonFields := by decide
  have hmem : k ∈ all := by
    cases k with
    | script l => cases l <;> decide
    | _ => decide
  exact hall k hmem name h

/-- The body of a rule depends on the fields of its kind only. -/
theorem Kind.body_congr {k : Kind} {f g : String → Value}
    (h : ∀ name ∈ k.fields.map Prod.fst, f name = g name) : k.body f = k.body g := by
  cases k <;> simp only [fields, List.map_cons, List.map_nil, List.forall_mem_cons] at h <;>
    simp only [body, h]

/-- Every kind knows the fields that every rule has. -/
theorem Kind.knows_of_mem_commonFields (k : Kind) {name : String} (h : name ∈ commonFields) :
    k.knows (.text name) = true := by
  rw [knows, List.any_eq_true]
  exact ⟨name, List.mem_append_left _ h, by simp⟩

namespace Store

/-- The entries of a definition with what the row says. -/
def mergedEntries (r : RuleRow) : List (Value × Value) :=
  Value.put (.text "enabled") (.flag r.enabled) <| Value.put (.text "name") (.text r.name) <|
    Value.put (.text "id") (.int r.id) <| Value.put (.text "type") (.text r.tag) r.entries

/-- The document of a row whose definition can be merged. -/
theorem documentOf_of_merges {r : RuleRow} (h : r.Merges) :
    documentOf r = .ok (.table (mergedEntries r)) := by
  unfold documentOf mergedEntries RuleRow.entries
  cases htruthy : r.definition.truthy with
  | true =>
      obtain ⟨es, hes⟩ := h htruthy
      rw [hes]
      rfl
  | false =>
      have hnone : (match r.definition with
          | .table es => es
          | _ => []) = [] := by
        split
        · rename_i es hes
          rw [hes] at htruthy
          simpa [Value.truthy] using htruthy
        · rfl
      rw [hnone]
      rfl

/-- No document can be made of a row whose definition cannot be merged. -/
theorem documentOf_of_not_merges {r : RuleRow} (h : ¬ r.Merges) :
    documentOf r = .error (.notMapping r.definition.kind) := by
  obtain ⟨htruthy, hne⟩ := Classical.not_imp.1 h
  unfold documentOf
  rw [if_pos htruthy]
  split
  · rename_i es hes
    exact absurd ⟨es, hes⟩ hne
  · rfl

section Merged

variable {r : RuleRow} {kinds : KindTable} (keys : ∀ e ∈ r.entries, ∃ k, e.1 = .text k)

include keys

/-- The keys stay texts while what the row says is put in, one field after the other. -/
theorem keys_while_merging :
    let typed := Value.put (.text "type") (.text r.tag) r.entries
    let numbered := Value.put (.text "id") (.int r.id) typed
    let named := Value.put (.text "name") (.text r.name) numbered
    (∀ e ∈ typed, ∃ k, e.1 = .text k) ∧ (∀ e ∈ numbered, ∃ k, e.1 = .text k) ∧
      ∀ e ∈ named, ∃ k, e.1 = .text k := by
  intro typed numbered named
  have htyped : ∀ e ∈ typed, ∃ k, e.1 = .text k := Json.texts_of_mem_put keys
  have hnumbered : ∀ e ∈ numbered, ∃ k, e.1 = .text k := Json.texts_of_mem_put htyped
  exact ⟨htyped, hnumbered, Json.texts_of_mem_put hnumbered⟩

/-- The keys of a merged document are texts. -/
theorem isText_mergedEntries : ∀ e ∈ mergedEntries r, e.1.isText = true := by
  intro e he
  obtain ⟨k, hk⟩ := Json.texts_of_mem_put (keys_while_merging keys).2.2 e he
  rw [hk]
  rfl

/-- The row has the last word on the fields that every rule has. -/
theorem lookup_commonFields :
    Value.lookup (.text "type") (mergedEntries r) = some (.text r.tag) ∧
      Value.lookup (.text "id") (mergedEntries r) = some (.int r.id) ∧
      Value.lookup (.text "name") (mergedEntries r) = some (.text r.name) ∧
      Value.lookup (.text "enabled") (mergedEntries r) = some (.flag r.enabled) := by
  obtain ⟨htype, hid, hname⟩ := keys_while_merging keys
  unfold mergedEntries
  refine ⟨?_, ?_, ?_, Value.lookup_put_text _ _ _⟩
  · rw [Value.lookup_put_text_ne (by decide) _ hname, Value.lookup_put_text_ne (by decide) _ hid,
      Value.lookup_put_text_ne (by decide) _ htype, Value.lookup_put_text]
  · rw [Value.lookup_put_text_ne (by decide) _ hname, Value.lookup_put_text_ne (by decide) _ hid,
      Value.lookup_put_text]
  · rw [Value.lookup_put_text_ne (by decide) _ hname, Value.lookup_put_text]

/-- On other fields the definition has. -/
theorem lookup_mergedEntries {name : String} (hname : name ∉ Kind.commonFields) :
    Value.lookup (.text name) (mergedEntries r) = Value.lookup (.text name) r.entries := by
  obtain ⟨htype, hid, hnamed⟩ := keys_while_merging keys
  simp only [Kind.commonFields, List.mem_cons, not_or] at hname
  obtain ⟨hnotType, hnotId, hnotName, hnotEnabled, _⟩ := hname
  rw [mergedEntries, Value.lookup_put_text_ne hnotEnabled _ hnamed,
    Value.lookup_put_text_ne hnotName _ hid, Value.lookup_put_text_ne hnotId _ htype,
    Value.lookup_put_text_ne hnotType _ keys]

/-- The keys of a merged document are those of the definition and those that every rule has. -/
theorem mem_mergedEntries {x : Value} :
    x ∈ (mergedEntries r).map Prod.fst ↔
      (∃ name ∈ Kind.commonFields, x = .text name) ∨ x ∈ r.entries.map Prod.fst := by
  obtain ⟨htype, hid, hname⟩ := keys_while_merging keys
  rw [mergedEntries, Value.mem_put_text hname, Value.mem_put_text hid, Value.mem_put_text htype,
    Value.mem_put_text keys]
  simp only [Kind.commonFields, List.mem_cons, List.not_mem_nil, or_false, exists_eq_or_imp,
    exists_eq_left]
  tauto

/-- A kind knows the keys of a merged document if it knows those of the definition. -/
theorem knows_mergedEntries_iff (k : Kind) :
    (∀ x ∈ (mergedEntries r).map Prod.fst, k.knows x = true) ↔
      ∀ e ∈ r.entries, k.knows e.1 = true := by
  constructor
  · intro h e he
    exact h e.1 ((mem_mergedEntries keys).2 (Or.inr (List.mem_map_of_mem he)))
  · intro h x hx
    rcases (mem_mergedEntries keys).1 hx with ⟨name, hname, rfl⟩ | hx
    · exact k.knows_of_mem_commonFields hname
    · obtain ⟨e, he, rfl⟩ := List.mem_map.1 hx
      exact h e he

end Merged

end Store

/-! ## Rules from merged documents -/

/-- A kind knows texts by what they say. -/
theorem Kind.knows_congr (k : Kind) {x u : Value} (text : x.isText = true)
    (same : x.asText? = u.asText?) : k.knows x = k.knows u := by
  have htext : u.isText = true := by rw [Value.isText, ← same]; exact text
  have hequal : ∀ name, Value.equal (.text name) x = Value.equal (.text name) u := by
    intro name
    rw [Bool.eq_iff_iff, Value.equal_iff_of_isText rfl text, Value.equal_iff_of_isText rfl htext,
      same]
  simp only [knows, hequal]

/-- A document with a text as a key that the kind does not know is refused. -/
theorem Kind.checkFields_of_unknown {k : Kind} {es : List (Value × Value)} {x : Value}
    (keys : ∀ e ∈ es, e.1.isText = true) (hx : x ∈ es.map Prod.fst)
    (unknown : k.knows x = false) : ∃ names,
      k.checkFields (.table es) = .error (.rule (.unknownFields k.tag names)
      ((Value.lookup (.text "name") es).getD .null)) := by
  have htexts : ∀ x ∈ es.map Prod.fst, x.isText = true := List.forall_mem_map.2 keys
  have hmembers : (Value.table es).members = .ok (es.map Prod.fst) := rfl
  obtain ⟨us, hus, _, hback, hall⟩ := Value.memberSet_of_isText hmembers htexts
  have hunknown : ∀ u ∈ us.filter fun u => !k.knows u, u.isText = true :=
    fun u hu => htexts u (hback u (List.mem_filter.1 hu).1)
  obtain ⟨vs, hvs, hperm⟩ := Value.sorted_of_isText hunknown
  obtain ⟨names, hnames⟩ := Value.exists_joinTexts ", " fun v hv => hunknown v (hperm.mem_iff.1 hv)
  -- the unknown key is among those that are reported
  have hne : vs ≠ [] := by
    obtain ⟨u, hu, hsame⟩ := hall x hx
    have hu' : k.knows u = false := by rw [← k.knows_congr (htexts x hx) hsame, unknown]
    have hmem : u ∈ us.filter fun u => !k.knows u := List.mem_filter.2 ⟨hu, by simp [hu']⟩
    exact List.ne_nil_of_mem (hperm.mem_iff.2 hmem)
  refine ⟨names, ?_⟩
  refine bind_eq_error_iff.2 (Or.inr ⟨us, lift_eq_ok_iff.2 hus, ?_⟩)
  refine bind_eq_error_iff.2 (Or.inr ⟨vs, lift_eq_ok_iff.2 hvs, ?_⟩)
  rw [if_neg (by simpa using hne)]
  exact bind_eq_error_iff.2 (Or.inr ⟨names, lift_eq_ok_iff.2 hnames, rfl⟩)

namespace Store

section Recovery

variable {r : RuleRow} {kinds : KindTable}

/-- A row without a tag selects no kind. -/
theorem ruleOf_of_untagged (keys : ∀ e ∈ r.entries, ∃ k, e.1 = .text k) (untagged : r.tag = "") :
    kinds.ruleOf (.table (mergedEntries r)) = .error (.rule .missingType (.text r.name)) := by
  obtain ⟨htype, _, hname, _⟩ := lookup_commonFields keys
  refine bind_eq_error_iff.2 (Or.inr ⟨.text "", lift_eq_ok_iff.2 ?_, ?_⟩)
  · rw [Value.get, htype, untagged, Option.getD_some]
  · refine bind_eq_error_iff.2 (Or.inr ⟨.text r.name, lift_eq_ok_iff.2 ?_, rfl⟩)
    rw [Value.get, hname, Option.getD_some]

/-- The tag of a row selects a kind, which decides. -/
theorem ruleOf_of_tagged (keys : ∀ e ∈ r.entries, ∃ k, e.1 = .text k) (tagged : r.tag ≠ "") :
    kinds.ruleOf (.table (mergedEntries r)) =
      match kinds.lookup? (.text r.tag) with
      | some k => k.build (.table (mergedEntries r))
      | none => .error (.unknownKind (.text r.tag)) := by
  rw [kinds.ruleOf_of_type (lookup_commonFields keys).1 tagged]
  cases kinds.lookup? (.text r.tag) <;> rfl

/-- A row that fits a kind is built as a rule of it. -/
theorem ruleOf_of_fits (keys : ∀ e ∈ r.entries, ∃ k, e.1 = .text k) {k : Kind}
    (fits : r.Fits kinds k) : kinds.ruleOf (.table (mergedEntries r)) = .ok (r.rebuilt k) := by
  obtain ⟨_, hid, hname, henabled⟩ := lookup_commonFields keys
  have hknown := (knows_mergedEntries_iff keys k).2 fits.known
  have haccepted : k.checkFields (.table (mergedEntries r)) = .ok () :=
    Kind.checkFields_of_members rfl (List.forall_mem_map.2 (isText_mergedEntries keys)) hknown
  rw [ruleOf_of_tagged keys fits.tagged, fits.selected]
  refine (Kind.build_table haccepted hid hname henabled).trans ?_
  rw [RuleRow.rebuilt, Kind.body_congr fun name hfield => ?_]
  rw [lookup_mergedEntries keys (Kind.not_mem_commonFields hfield)]

/-- A row that fits no kind is refused for a reason that does not keep others from being
loaded. -/
theorem ruleOf_of_unfit (keys : ∀ e ∈ r.entries, ∃ k, e.1 = .text k)
    (unfit : ∀ k, ¬ r.Fits kinds k) :
    ∃ f, kinds.ruleOf (.table (mergedEntries r)) = .error f ∧ f.stopsAudit = true := by
  by_cases tagged : r.tag = ""
  · exact ⟨_, ruleOf_of_untagged keys tagged, rfl⟩
  rw [ruleOf_of_tagged keys tagged]
  cases hselected : kinds.lookup? (.text r.tag) with
  | none => exact ⟨_, rfl, rfl⟩
  | some k =>
      have hnot : ¬ ∀ x ∈ (mergedEntries r).map Prod.fst, k.knows x = true := fun hknown =>
        unfit k ⟨tagged, hselected, (knows_mergedEntries_iff keys k).1 hknown⟩
      simp only [not_forall, Bool.not_eq_true] at hnot
      obtain ⟨x, hx, hunknown⟩ := hnot
      obtain ⟨names, hrefused⟩ :=
        Kind.checkFields_of_unknown (isText_mergedEntries keys) hx hunknown
      exact ⟨_, bind_eq_error_iff.2 (Or.inl hrefused), rfl⟩

/-- A row whose definition can be merged is recovered. -/
theorem ruleOfRow_of_merges (keys : ∀ e ∈ r.entries, ∃ k, e.1 = .text k) (h : r.Merges) :
    ∃ rule, ruleOfRow kinds r = .ok rule ∧ Recovers kinds r rule := by
  by_cases hfits : ∃ k, r.Fits kinds k
  · obtain ⟨k, fits⟩ := hfits
    refine ⟨r.rebuilt k, bind_eq_ok_iff.2 ⟨_, lift_eq_ok_iff.2 (documentOf_of_merges h), ?_⟩,
      .rebuilt fits⟩
    rw [ruleOf_of_fits keys fits]
    rfl
  · have hunfit : ∀ k, ¬ r.Fits kinds k := fun k fits => hfits ⟨k, fits⟩
    obtain ⟨f, hf, hstops⟩ := ruleOf_of_unfit keys hunfit
    refine ⟨r.standIn f.message, bind_eq_ok_iff.2 ⟨_, lift_eq_ok_iff.2 (documentOf_of_merges h),
      ?_⟩, .standIn f.message hunfit⟩
    rw [hf]
    change (if f.stopsAudit = true then _ else _) = _
    rw [if_pos hstops]
    rfl

/-- A row whose definition cannot be merged is not loaded. -/
theorem ruleOfRow_of_not_merges (h : ¬ r.Merges) :
    ruleOfRow kinds r = .error (.value (.notMapping r.definition.kind)) :=
  bind_eq_error_iff.2 (Or.inl (lift_eq_error_iff.2 ⟨_, documentOf_of_not_merges h, rfl⟩))

end Recovery

end Store

/-! ## What rows are loaded as -/

namespace Recovers

variable {kinds : KindTable} {r : RuleRow} {rule : Rule}

/-- What a row is loaded as has its id, its name and its switch. -/
theorem keeps (h : Recovers kinds r rule) :
    rule.id = .int r.id ∧ rule.name = .text r.name ∧ rule.enabled = .flag r.enabled := by
  cases h with
  | rebuilt _ | standIn _ _ => exact ⟨rfl, rfl, rfl⟩

/-- A stand-in that is switched on reports an error on every device that is not excused. -/
theorem check_of_unfit (h : Recovers kinds r rule) (unfit : ∀ k, ¬ r.Fits kinds k) (g : Setting)
    (s : Subject) (on : r.enabled = true) (due : ¬ s.Excused r.id g.now)
    (named : s.device.name.isSpellable = true) :
    ∃ notes result, rule.check g s = (notes, .ok result) ∧ result.outcome = .error := by
  cases h with
  | rebuilt fits => exact absurd fits (unfit _)
  | standIn reason _ =>
      have hnamed : areNamed (r.standIn reason).name s.device = true := by
        simp [areNamed, RuleRow.standIn, named]
      have hdue : s.isExempted (r.standIn reason).id g.now = .ok false :=
        Subject.isExempted_of_not_excused due
      have hsane : (r.standIn reason).body ≠ .probe .crashing := by simp [RuleRow.standIn]
      obtain ⟨notes, hcheck⟩ := Rule.check_of_error (g := g) (r := r.standIn reason) hsane on hdue
        hnamed (f := .evaluation (.unusable reason)) (by
          rw [Rule.logic, Logic.judge]
          simp [Rule.concerns, Rule.evaluate, RuleRow.standIn, Value.truthy, Value.spell]
          rfl)
      exact ⟨notes, _, hcheck, rfl⟩

end Recovers

namespace Store

section Loading

variable {kinds : KindTable} {s : Store}

/-- A policy as it is loaded from a row: its rules are what all rows of rules are loaded as, in
their order. -/
structure LoadsAll (kinds : KindTable) (s : Store) (row : PolicyRow) (p : Policy) : Prop where
  /-- Without its rules it is the policy of the row. -/
  bare : policyOfRow row = .ok { p with rules := [] }
  /-- The rules. -/
  rules : List.Forall₂ (Recovers kinds) (s.rulesOf row.id) p.rules

/-- The policy of a row has no rules. -/
theorem rules_of_policyOfRow {row : PolicyRow} {p : Policy} (h : policyOfRow row = .ok p) :
    p.rules = [] := by
  obtain ⟨ts, _, h⟩ := bind_eq_ok_iff.1 h
  cases h
  rfl

/-- Rows whose definitions can be merged are recovered one by one. -/
theorem exists_recovered {rows : List RuleRow}
    (keys : ∀ r ∈ rows, ∀ e ∈ r.entries, ∃ k, e.1 = .text k) (h : ∀ r ∈ rows, r.Merges) :
    ∃ rules, List.Forall₂ (Rebuilds kinds) rows rules ∧
      List.Forall₂ (Recovers kinds) rows rules := by
  induction rows with
  | nil => exact ⟨[], .nil, .nil⟩
  | cons r rows ih =>
      obtain ⟨hkeys, hrestKeys⟩ := List.forall_mem_cons.1 keys
      obtain ⟨hmerges, hrest⟩ := List.forall_mem_cons.1 h
      obtain ⟨rule, hrule, hrecovers⟩ := ruleOfRow_of_merges hkeys hmerges
      obtain ⟨rules, hrebuilds, hall⟩ := ih hrestKeys hrest
      exact ⟨rule :: rules, .cons ⟨hrule, hrecovers.keeps.2.1⟩ hrebuilds, .cons hrecovers hall⟩

/-- Of rows whose rules are all added, all definitions can be merged. -/
theorem merges_of_addRows {rows : List RuleRow} {p q : Policy}
    (h : addRows kinds p rows = .ok q) : ∀ r ∈ rows, r.Merges := by
  induction rows generalizing p with
  | nil => exact nofun
  | cons r rows ih =>
      obtain ⟨rule, hrule, h⟩ := bind_eq_ok_iff.1 h
      obtain ⟨p', _, h⟩ := bind_eq_ok_iff.1 h
      refine List.forall_mem_cons.2 ⟨?_, ih h⟩
      by_contra hnot
      rw [ruleOfRow_of_not_merges hnot] at hrule
      cases hrule

/-- A policy is loaded with all its rules if all their definitions can be merged. -/
theorem exists_loads {row : PolicyRow} {bare : Policy} (readable : policyOfRow row = .ok bare)
    (names : ((s.rulesOf row.id).map (·.name)).Nodup)
    (keys : ∀ r ∈ s.rulesOf row.id, ∀ e ∈ r.entries, ∃ k, e.1 = .text k)
    (merges : ∀ r ∈ s.rulesOf row.id, r.Merges) :
    ∃ p, s.Loads kinds row p ∧ s.LoadsAll kinds row p := by
  obtain ⟨rules, hrebuilds, hrecovers⟩ := exists_recovered keys merges
  have hbare := rules_of_policyOfRow readable
  have hadded := addRows_eq_ok hrebuilds names bare fun _ _ r hr => by
    rw [hbare] at hr
    cases hr
  rw [hbare, List.nil_append] at hadded
  refine ⟨{ bare with rules := rules }, ⟨bare, readable, hadded⟩, ?_, hrecovers⟩
  rw [readable, ← hbare]

/-- Of rows that are all loaded, all definitions of their rules can be merged. -/
theorem merges_of_loads {rows : List PolicyRow} {ps : List Policy}
    (h : List.Forall₂ (s.Loads kinds) rows ps) :
    ∀ row ∈ rows, ∀ r ∈ s.rulesOf row.id, r.Merges := by
  induction h with
  | nil => exact nofun
  | cons hrow _ ih =>
      obtain ⟨_, _, hadded⟩ := hrow
      exact List.forall_mem_cons.2 ⟨merges_of_addRows hadded, ih⟩

/-- Rows are all loaded, each with all its rules, if all definitions can be merged. -/
theorem exists_all_loads (names : (s.rules.map fun r => (r.policy, r.name)).Nodup)
    (keys : ∀ r ∈ s.rules, ∀ e ∈ r.entries, ∃ k, e.1 = .text k) {rows : List PolicyRow}
    (readable : ∀ row ∈ rows, ∃ p, policyOfRow row = .ok p)
    (merges : ∀ row ∈ rows, ∀ r ∈ s.rulesOf row.id, r.Merges) :
    ∃ ps, List.Forall₂ (s.Loads kinds) rows ps ∧ List.Forall₂ (s.LoadsAll kinds) rows ps := by
  induction rows with
  | nil => exact ⟨[], .nil, .nil⟩
  | cons row rows ih =>
      obtain ⟨⟨bare, hbare⟩, hreadable⟩ := List.forall_mem_cons.1 readable
      obtain ⟨hmerges, hrest⟩ := List.forall_mem_cons.1 merges
      obtain ⟨p, hloads, hloadsAll⟩ := exists_loads hbare
        (nodup_names names row.id) (fun r hr => keys r (List.mem_filter.1 hr).1) hmerges
      obtain ⟨ps, hps, hall⟩ := ih hreadable hrest
      exact ⟨p :: ps, .cons hloads hps, .cons hloadsAll hall⟩

/-- Policies are loaded if each row that is asked for is. -/
theorem loadPolicies_eq_ok_iff {t : Session} (ready : Session.Ready s t) {limit : Option Nat}
    {ids : Option (List Value)} {selection : Option (List Int)}
    (asked : restriction limit ids = .ok selection) {ps : List Policy} :
    t.outcome (Session.loadPolicies .calm kinds limit ids) = .ok ps ↔
      List.Forall₂ (s.Loads kinds)
        (s.policies.filter fun row => isSelected selection row.id) ps := by
  rw [← policiesOfRows_eq_ok_iff, Session.outcome_loadPolicies ready, asked]
  exact Iff.rfl

/-- **Stored rules that no kind accepts.**  Whatever the rows of rules are, as long as no two
rules of a policy have the same name and the definitions are documents, policies are loaded if
and only if all definitions of their rules can be merged.  Every row is then loaded in its place:
as a rule of the kind that it fits, or as a stand-in with the same id, name and switch, which
reports an error on every device that is not excused from it when it is switched on, if the name of
the device can be told. -/
theorem loadPolicies_contained {t : Session} (ready : Session.Ready s t) {limit : Option Nat}
    {ids : Option (List Value)} {selection : Option (List Int)}
    (asked : restriction limit ids = .ok selection)
    (names : (s.rules.map fun r => (r.policy, r.name)).Nodup)
    (documents : ∀ r ∈ s.rules, ∃ v, storedForm v = .ok r.definition)
    (readable : ∀ row ∈ s.policies, ∃ p, policyOfRow row = .ok p) :
    let selected := s.policies.filter fun row => isSelected selection row.id
    let loaded := t.outcome (Session.loadPolicies .calm kinds limit ids)
    ((∃ ps, loaded = .ok ps) ↔ ∀ row ∈ selected, ∀ r ∈ s.rulesOf row.id, r.Merges) ∧
    (∀ ps, loaded = .ok ps → List.Forall₂ (s.LoadsAll kinds) selected ps) ∧
    ∀ r rule, Recovers kinds r rule →
      rule.id = .int r.id ∧ rule.name = .text r.name ∧ rule.enabled = .flag r.enabled ∧
      ((∀ k, ¬ r.Fits kinds k) → r.enabled = true → ∀ g subject,
        ¬ Subject.Excused subject r.id g.now → subject.device.name.isSpellable = true →
          ∃ notes result, rule.check g subject = (notes, .ok result) ∧
            result.outcome = .error) := by
  intro selected loaded
  have hkeys : ∀ r ∈ s.rules, ∀ e ∈ r.entries, ∃ k, e.1 = .text k := by
    intro r hr
    obtain ⟨v, hv⟩ := documents r hr
    exact RuleRow.keys_of_decoded (decoded_of_storedForm hv)
  have hreadable : ∀ row ∈ selected, ∃ p, policyOfRow row = .ok p :=
    fun row hrow => readable row (List.mem_filter.1 hrow).1
  have hload : ∀ ps, loaded = .ok ps ↔ List.Forall₂ (s.Loads kinds) selected ps :=
    fun _ => loadPolicies_eq_ok_iff ready asked
  refine ⟨⟨?_, ?_⟩, ?_, ?_⟩
  · rintro ⟨ps, hps⟩
    exact merges_of_loads ((hload ps).1 hps)
  · intro merges
    obtain ⟨ps, hps, _⟩ := exists_all_loads names hkeys hreadable merges
    exact ⟨ps, (hload ps).2 hps⟩
  · intro ps hps
    have hmerges := merges_of_loads ((hload ps).1 hps)
    obtain ⟨ps', hps', hall⟩ := exists_all_loads names hkeys hreadable hmerges
    -- what is loaded is what has been recovered row by row
    rw [(hload ps').2 hps'] at hps
    cases hps
    exact hall
  · intro r rule hrecovers
    obtain ⟨hid, hname, henabled⟩ := hrecovers.keeps
    exact ⟨hid, hname, henabled, fun unfit on g subject due named =>
      hrecovers.check_of_unfit unfit g subject on due named⟩

/-- A policy with a text rule, and with a rule of an unknown kind that has an empty list as its
definition. -/
def foreignRows : Store :=
  ⟨[⟨1, "baseline", .list []⟩],
    [⟨1, 1, "banner", "text", true, .record [("text", .text "motd")]⟩,
      ⟨2, 1, "ledger", "cobol", true, .list []⟩], []⟩

/-- Both rules are loaded, the second one as a stand-in. -/
theorem contained_of_foreignRows :
    (∃ ps, (Session.opened foreignRows).outcome
        (Session.loadPolicies .calm .standard none none) = .ok ps ∧
      List.Forall₂ (foreignRows.LoadsAll .standard) foreignRows.policies ps) ∧
    ∀ k, ¬ RuleRow.Fits ⟨2, 1, "ledger", "cobol", true, .list []⟩ .standard k := by
  have hdocuments : ∀ r ∈ foreignRows.rules, ∃ v, storedForm v = .ok r.definition := by
    intro r hr
    refine ⟨r.definition, storedForm_of_plain ?_⟩
    simp only [foreignRows, List.mem_cons, List.not_mem_nil, or_false] at hr
    rcases hr with rfl | rfl
    · exact .record (by decide) (by simp [Json.Plain.text])
    · exact .list nofun
  obtain ⟨hloaded, hall, _⟩ := @loadPolicies_contained .standard foreignRows _
    (Session.ready_opened foreignRows) none none none rfl (by decide) hdocuments (by
      intro row hrow
      rw [List.mem_singleton.1 hrow]
      exact ⟨_, rfl⟩)
  have hmerges : ∀ row ∈ foreignRows.policies, ∀ r ∈ foreignRows.rulesOf row.id, r.Merges := by
    intro row _ r hr
    have hmem := (List.mem_filter.1 hr).1
    simp only [foreignRows, List.mem_cons, List.not_mem_nil, or_false] at hmem
    rcases hmem with rfl | rfl
    · exact fun _ => ⟨_, rfl⟩
    · exact nofun
  obtain ⟨ps, hps⟩ := hloaded.2 hmerges
  refine ⟨⟨ps, hps, hall ps hps⟩, ?_⟩
  intro k fits
  have hnone : KindTable.standard.lookup? (.text "cobol") = none := by
    simp only [KindTable.lookup?, Value.equal_text]
    decide
  have hselected := fits.selected
  rw [hnone] at hselected
  cases hselected

/-- A policy with two text rules, the first of which has a list as its definition. -/
def listedRow : Store :=
  ⟨[⟨1, "baseline", .list []⟩],
    [⟨1, 1, "banner", "text", true, .list [.flag true]⟩,
      ⟨2, 1, "motd", "text", true, .table []⟩], []⟩

/-- So it is not true that whatever is stored for a rule, policies are loaded. -/
theorem not_always_contained :
    ¬ ∀ (kinds : KindTable) (s : Store) (ids : Option (List Value)) (selection : Option (List Int)),
      restriction none ids = .ok selection → (s.rules.map fun r => (r.policy, r.name)).Nodup →
      (∀ r ∈ s.rules, ∃ v, storedForm v = .ok r.definition) →
      (∀ row ∈ s.policies, ∃ p, policyOfRow row = .ok p) →
      ∃ ps, (Session.opened s).outcome (Session.loadPolicies .calm kinds none ids) = .ok ps := by
  intro claim
  have hdocuments : ∀ r ∈ listedRow.rules, ∃ v, storedForm v = .ok r.definition := by
    intro r hr
    refine ⟨r.definition, storedForm_of_plain ?_⟩
    simp only [listedRow, List.mem_cons, List.not_mem_nil, or_false] at hr
    rcases hr with rfl | rfl
    · exact .list (by simp [Json.Plain.flag])
    · exact @Json.Plain.record [] List.nodup_nil nofun
  obtain ⟨ps, hps⟩ := claim .standard listedRow none none rfl (by decide) hdocuments (by
    intro row hrow
    rw [List.mem_singleton.1 hrow]
    exact ⟨_, rfl⟩)
  cases hps

end Loading

end Store

end ConfigAudit
