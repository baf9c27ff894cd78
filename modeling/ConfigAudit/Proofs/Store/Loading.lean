/-
# Stored policies and rules are rebuilt

A policy for named groups and a rule whose parts have the right types keep all that they say when
they are stored, and are rebuilt as they were.  Only a context or a driver that is an empty text
is lost: it counts as none.

* `Rule.Typed` : the rules;
* `Rule.restored` : what they become;
* `policyOfRow_texts`, `ruleOfRow_of_keeps` : policies and rules of rows;
* `not_leftBehind` : no policy for named groups is left behind by an operation that fails.
-/
import ConfigAudit.Proofs.Rule.Built
import ConfigAudit.Proofs.Script.Json
import ConfigAudit.Proofs.Store.Change

namespace ConfigAudit

/-! ## Documents -/

/-- Documents are stored as they are. -/
theorem storedForm_of_plain {v : Value} (h : Json.Plain v) : storedForm v = .ok v := by
  obtain ⟨w, hw, hread⟩ := Json.read_of_plain h
  unfold storedForm
  simp only [hw, hread, Option.getD_some]

/-- Texts are documents. -/
theorem Json.plain_texts (ts : List String) : Plain (.list (ts.map .text)) := by
  refine .list ?_
  intro x hx
  obtain ⟨t, _, rfl⟩ := List.mem_map.1 hx
  exact .text t

/-! ## Groups -/

/-- Groups are stored each once. -/
theorem storedTargets_texts {v : Value} {ts : List String} (h : v.members = .ok (ts.map .text)) :
    ∃ us : List String, storedTargets v = .ok (us.map .text) ∧ ∀ t, t ∈ us ↔ t ∈ ts := by
  obtain ⟨us, hus, _, hall⟩ := Value.memberSet_texts h
  obtain ⟨vs, hvs, hperm⟩ := Value.sorted_texts us
  exact ⟨vs, bind_eq_ok_iff.2 ⟨us.map .text, hus, hvs⟩, fun t => hperm.mem_iff.trans (hall t)⟩

/-- A policy for groups is rebuilt with these groups, each once. -/
theorem Store.policyOfRow_texts {row : PolicyRow} {ts : List String}
    (h : row.targets = .list (ts.map .text)) :
    ∃ us : List String, policyOfRow row = .ok ⟨.int row.id, .text row.name, us.map .text, []⟩ ∧
      us.Nodup ∧ ∀ t, t ∈ us ↔ t ∈ ts := by
  have hmembers : (if row.targets.truthy then row.targets else .list []).members =
      .ok (ts.map .text) := by
    rw [h]
    cases ts <;> rfl
  obtain ⟨us, hus, hrest⟩ := Value.memberSet_texts hmembers
  exact ⟨us, bind_eq_ok_iff.2 ⟨us.map .text, hus, rfl⟩, hrest⟩

/-! ## Fields of records -/

namespace Value

/-- A field is found under its name. -/
theorem lookup_of_mem {fields : List (String × Value)} (distinct : (fields.map Prod.fst).Nodup)
    {f : String × Value} (hf : f ∈ fields) :
    lookup (text f.1) (fields.map fun f => (text f.1, f.2)) = some f.2 := by
  induction fields with
  | nil => exact absurd hf List.not_mem_nil
  | cons x fields ih =>
      rw [List.map_cons, List.nodup_cons] at distinct
      rw [List.map_cons, lookup, equal_text]
      rcases List.mem_cons.1 hf with rfl | hf
      · rw [if_pos (beq_self_eq_true f.1)]
      · have hne : x.1 ≠ f.1 := by
          intro heq
          exact distinct.1 (List.mem_map.2 ⟨f, hf, heq.symm⟩)
        rw [if_neg (by simpa using hne), ih distinct.2 hf]

end Value

/-! ## Rules of the right types -/

/-- A text that may be missing. -/
def Value.ofText? : Option String → Value
  | none => .null
  | some s => .text s

/-- Definitions of the kinds that every audit knows, with parts of the right types. -/
inductive Body.Typed : Body → Prop where
  /-- A text rule. -/
  | text (field text : String) (regexp invert matchAll : Bool) (context : Option String)
      (anyBlock normalize : Bool) (driver : Option String) :
      Typed (.text ⟨.text field, .text text, .flag regexp, .flag invert, .flag matchAll,
        .ofText? context, .flag anyBlock, .flag normalize, .ofText? driver⟩)
  /-- A script rule. -/
  | script (l : Language) (script : String) : Typed (.script l (.text script))

/-- Rules of these kinds that have a name and are switched on or off. -/
structure Rule.Typed (r : Rule) : Prop where
  /-- The name is a text. -/
  name : ∃ s, r.name = .text s
  /-- The switch is a truth value. -/
  enabled : ∃ b, r.enabled = .flag b
  /-- The definition is of the right types. -/
  body : r.body.Typed

/-- A definition that is rebuilt: an empty context or driver counts as none. -/
def Body.restored : Body → Body
  | .text t => .text { t with
      context := Kind.orNothing t.context
      driver := Kind.orNothing t.driver }
  | b => b

/-- A rule that is rebuilt, under its id. -/
def Rule.restored (r : Rule) (id : Int) : Rule := ⟨.int id, r.name, r.enabled, r.body.restored⟩

/-- A text that may be missing is a document. -/
theorem Json.plain_ofText? (s : Option String) : Plain (.ofText? s) := by
  cases s with
  | none => exact .null
  | some s => exact .text s

/-- The fields that every rule has, as they are stored. -/
def commonEntries (tag : String) (id : Int) (name : String) (enabled : Bool) :
    List (String × Value) :=
  [("type", .text tag), ("id", .int id), ("name", .text name), ("enabled", .flag enabled)]

/-- The known kinds have different fields, which are none of those that every rule has. -/
theorem Kind.nodup_fields {k : Kind} (hk : k ∈ KindTable.builtins) :
    (k.fields.map Prod.fst ++ ["type", "id", "name", "enabled"]).Nodup := by
  have hall : ∀ k ∈ KindTable.builtins,
      (k.fields.map Prod.fst ++ ["type", "id", "name", "enabled"]).Nodup := by decide
  exact hall k hk

namespace Body.Typed

variable {b : Body}

/-- The definition belongs to a known kind, and is rebuilt from its fields. -/
theorem exists_kind (h : b.Typed) : ∃ k ∈ KindTable.builtins, k.tag = b.tag ∧
    b.fields.map Prod.fst = k.fields.map Prod.fst ∧
    ∀ field : String → Value, (∀ f ∈ b.fields, field f.1 = f.2) → k.body field = b.restored := by
  cases h with
  | text field text regexp invert matchAll context anyBlock normalize driver =>
      refine ⟨.text, by decide, rfl, rfl, ?_⟩
      intro field hfield
      simp only [Body.fields, List.forall_mem_cons] at hfield
      simp only [Kind.body, hfield, Body.restored]
  | script l script =>
      refine ⟨.script l, by cases l <;> decide, rfl, rfl, ?_⟩
      intro field hfield
      simp only [Body.fields, List.forall_mem_cons] at hfield
      simp only [Kind.body, hfield, Body.restored]

/-- The definition is a document. -/
theorem plain (h : b.Typed) : Json.Plain (.record b.fields) := by
  obtain ⟨k, hk, _, names, _⟩ := h.exists_kind
  refine .record (names ▸ (Kind.nodup_fields hk).of_append_left) ?_
  cases h <;> simp [Body.fields, Json.Plain.text, Json.Plain.flag, Json.plain_ofText?]

/-- The definition is not empty. -/
theorem fields_ne_nil (h : b.Typed) : b.fields ≠ [] := by
  cases h <;> exact List.cons_ne_nil _ _

end Body.Typed

/-! ## Building rules -/

section Building

variable {k : Kind} {tag : String} {id : Int} {name : String} {enabled : Bool}

/-- A kind knows its own fields and those that every rule has. -/
theorem Kind.knows_text {key : String}
    (h : key ∈ k.fields.map Prod.fst ++ ["type", "id", "name", "enabled"]) :
    k.knows (.text key) = true := by
  rw [Kind.knows, List.any_eq_true]
  refine ⟨key, ?_, by simp⟩
  rcases List.mem_append.1 h with h | h
  · exact List.mem_append_right _ h
  · exact List.mem_append_left _ h

/-- A document is accepted if the kind knows its keys, which are texts. -/
theorem Kind.checkFields_of_members {data : Value} {xs : List Value} (h : data.members = .ok xs)
    (texts : ∀ x ∈ xs, x.isText = true) (known : ∀ x ∈ xs, k.knows x = true) :
    k.checkFields data = .ok () := by
  obtain ⟨us, hus, _, hall, _⟩ := Value.memberSet_of_isText h texts
  have hknown : us.filter (fun key => !k.knows key) = [] := by
    rw [List.filter_eq_nil_iff]
    intro key hkey
    simp [known key (hall key hkey)]
  refine bind_eq_ok_iff.2 ⟨us, lift_eq_ok_iff.2 hus, ?_⟩
  rw [hknown]
  rfl

/-- A rule is built from a document that is accepted and has these parts. -/
theorem Kind.build_table {es : List (Value × Value)} (accepted : k.checkFields (.table es) = .ok ())
    (hid : Value.lookup (.text "id") es = some (.int id))
    (hname : Value.lookup (.text "name") es = some (.text name))
    (henabled : Value.lookup (.text "enabled") es = some (.flag enabled)) :
    k.build (.table es) = .ok ⟨.int id, .text name, .flag enabled, k.body fun field =>
      (Value.lookup (.text field) es).getD ((k.fields.lookup field).getD .null)⟩ := by
  rw [build_of_accepted accepted, idOf_of_int hid]
  dsimp only [ruleWith]
  rw [hname, henabled]
  rfl

end Building

/-- A document with the tag of a known kind is built as this kind does. -/
theorem KindTable.ruleOf_standard {k : Kind} (hk : k ∈ builtins) {es : List (Value × Value)}
    (htype : Value.lookup (.text "type") es = some (.text k.tag)) :
    standard.ruleOf (.table es) = k.build (.table es) := by
  have hall : ∀ k ∈ builtins, k.tag ≠ "" ∧
      standard.kinds.find? (fun e => e.1 == k.tag) = some (k.tag, k) := by decide
  obtain ⟨htag, hfind⟩ := hall k hk
  have hlookup : standard.lookup? (.text k.tag) = some k := by
    simp only [lookup?, Value.equal_text, hfind, Option.map_some]
  rw [standard.ruleOf_of_type htype htag, hlookup]
  rfl

namespace Store

/-- The document of a row whose definition has the fields of a known kind. -/
theorem documentOf_record {r : RuleRow} {k : Kind} (hk : k ∈ KindTable.builtins)
    {fields : List (String × Value)} (names : fields.map Prod.fst = k.fields.map Prod.fst)
    (nonempty : fields ≠ []) (h : r.definition = .record fields) :
    documentOf r = .ok (.record (fields ++ commonEntries r.tag r.id r.name r.enabled)) := by
  have hnew := Kind.nodup_fields hk
  rw [← names, List.nodup_append] at hnew
  have hfresh : ∀ key ∈ ["type", "id", "name", "enabled"], key ∉ fields.map Prod.fst :=
    fun key hkey hmem => hnew.2.2 key hmem key hkey rfl
  simp only [List.forall_mem_cons] at hfresh
  obtain ⟨htype, hid, hname, henabled, _⟩ := hfresh
  have htruthy : (Value.record fields).truthy = true := by
    cases fields with
    | nil => exact absurd rfl nonempty
    | cons f fields => rfl
  have hput : (fields ++ commonEntries r.tag r.id r.name r.enabled).map
        (fun f => (Value.text f.1, f.2)) =
      Value.put (.text "enabled") (.flag r.enabled) (Value.put (.text "name") (.text r.name)
        (Value.put (.text "id") (.int r.id) (Value.put (.text "type") (.text r.tag)
          (fields.map fun f => (.text f.1, f.2))))) := by
    rw [Value.put_record htype, Value.put_record (by simpa using hid),
      Value.put_record (by simpa using hname), Value.put_record (by simpa using henabled),
      commonEntries]
    simp only [List.append_assoc, List.cons_append, List.nil_append]
  unfold documentOf
  rw [h, htruthy, if_pos rfl, Value.record, Value.record, hput]
  rfl

/-- A row that keeps a rule has its name. -/
theorem name_of_keeps {row : RuleRow} {id policy : Int} {r : Rule} (typed : r.Typed)
    (h : Keeps row id policy r) : r.name = .text row.name := by
  obtain ⟨name, hname⟩ := typed.name
  have hnamed := h.named
  rw [hname, columnText_text] at hnamed
  rw [hname, Option.some.inj (Except.ok.inj hnamed)]

/-- A row that keeps a rule of the right types is rebuilt as this rule. -/
theorem ruleOfRow_of_keeps {row : RuleRow} {id policy : Int} {r : Rule} (typed : r.Typed)
    (h : Keeps row id policy r) : ruleOfRow .standard row = .ok (r.restored id) := by
  obtain rfl := h.id_eq
  obtain ⟨k, hk, htag, names, hbody⟩ := typed.body.exists_kind
  obtain ⟨enabled, henabled⟩ := typed.enabled
  have hdefinition : row.definition = .record r.body.fields := by
    have hwritten := h.written
    rw [Rule.definition, storedForm_of_plain typed.body.plain] at hwritten
    exact (Except.ok.inj hwritten).symm
  have hdocument := documentOf_record hk names typed.body.fields_ne_nil hdefinition
  have htext := name_of_keeps typed h
  have hflag : r.enabled = .flag row.enabled := by
    rw [h.enabled_eq, henabled]
    rfl
  -- the fields of the definition and those of the row are all found under their names
  have distinct : ((r.body.fields ++ commonEntries row.tag row.id row.name row.enabled).map
      Prod.fst).Nodup := by
    rw [List.map_append, names]
    exact Kind.nodup_fields hk
  have hfields := fun f hf => Value.lookup_of_mem distinct (List.mem_append_left _ hf) (f := f)
  have hcommon := fun f hf => Value.lookup_of_mem distinct (List.mem_append_right _ hf) (f := f)
  simp only [commonEntries, List.forall_mem_cons] at hcommon
  obtain ⟨htype, hid, hrowName, hrowEnabled, _⟩ := hcommon
  have hmembers : (Value.record (r.body.fields ++
      commonEntries row.tag row.id row.name row.enabled)).members =
        .ok ((k.fields.map Prod.fst ++ ["type", "id", "name", "enabled"]).map .text) := by
    rw [Value.record, Value.members, List.map_map, ← names, List.map_append, List.map_append,
      List.map_map]
    rfl
  have haccepted := Kind.checkFields_of_members hmembers (Value.isText_of_mem_map _) <|
    List.forall_mem_map.2 fun _ => Kind.knows_text
  have hbuild := Kind.build_table haccepted hid hrowName hrowEnabled
  rw [hbody _ (fun f hf => by rw [hfields f hf, Option.getD_some]), ← htext, ← hflag] at hbuild
  have hrule := (KindTable.ruleOf_standard hk (by rw [htag, ← h.tag_eq]; exact htype)).trans hbuild
  refine bind_eq_ok_iff.2 ⟨_, lift_eq_ok_iff.2 hdocument, ?_⟩
  rw [Value.record, hrule]
  rfl

/-! ## Policies with their groups -/

end Store

/-- What a value lists, if it does, are texts. -/
def Value.IsTexts (v : Value) : Prop := ∀ xs, v.members = .ok xs → ∀ x ∈ xs, ∃ t, x = .text t

/-- If an operation creates a policy, the groups are texts. -/
def Operation.Grouped : Operation → Prop
  | createPolicy _ targets => targets.IsTexts
  | _ => True

namespace Store

/-- A policy for groups that are texts can be read back. -/
theorem not_leftBehind {s s' : Store} {op : Operation} {f : Fault} (grouped : op.Grouped) :
    ¬ LeftBehind s op f s' := by
  intro h
  cases h with
  | @createPolicy name targets groups row f hgroups new unread =>
      obtain ⟨set, hset, _⟩ := bind_eq_ok_iff.1 hgroups
      obtain ⟨xs, hmembers, _⟩ := bind_eq_ok_iff.1 hset
      obtain ⟨ts, rfl⟩ := Value.exists_map_text (grouped xs hmembers)
      obtain ⟨us, hus, _⟩ := storedTargets_texts hmembers
      rw [hgroups] at hus
      cases hus
      have hwritten := new.written
      rw [storedForm_of_plain (Json.plain_texts us)] at hwritten
      obtain ⟨vs, hvs, _⟩ := policyOfRow_texts (Except.ok.inj hwritten).symm
      rw [unread] at hvs
      cases hvs

/-! ## Policies with their rules -/

/-- Whether a row is loaded as a rule of the same name. -/
def Rebuilds (kinds : KindTable) (row : RuleRow) (r : Rule) : Prop :=
  ruleOfRow kinds row = .ok r ∧ r.name = .text row.name

/-- A row that keeps a rule of the right types is rebuilt under its name. -/
theorem rebuilds_of_keeps {row : RuleRow} {id policy : Int} {r : Rule} (typed : r.Typed)
    (h : Keeps row id policy r) : Rebuilds .standard row (r.restored id) := by
  have hname : r.name = .text row.name := name_of_keeps typed h
  exact ⟨ruleOfRow_of_keeps typed h, hname⟩

section Rows

variable {kinds : KindTable}

/-- Rules of different names are added one after the other. -/
theorem addRows_eq_ok {rows : List RuleRow} {rules : List Rule}
    (h : List.Forall₂ (Rebuilds kinds) rows rules) (distinct : (rows.map (·.name)).Nodup) (p : Policy)
    (free : ∀ row ∈ rows, ∀ r ∈ p.rules, Value.equal r.name (.text row.name) = false) :
    addRows kinds p rows = .ok { p with rules := p.rules ++ rules } := by
  induction h generalizing p with
  | nil => rw [List.append_nil, addRows]
  | @cons row r rows rules hrow _ ih =>
      obtain ⟨hrule, hname⟩ := hrow
      rw [List.map_cons, List.nodup_cons] at distinct
      have hadd : p.add r = .ok { p with rules := p.rules ++ [r] } := by
        have hnone : p.find? r.name = none := by
          rw [Policy.find?, List.find?_eq_none]
          intro r' hr'
          rw [hname, free row List.mem_cons_self r' hr']
          exact Bool.false_ne_true
        rw [Policy.add, hnone]
        rfl
      have hrest := ih distinct.2 { p with rules := p.rules ++ [r] } (by
        intro row' hrow' r' hr'
        rcases List.mem_append.1 hr' with hr' | hr'
        · exact free row' (List.mem_cons_of_mem row hrow') r' hr'
        · rw [List.mem_singleton.1 hr', hname, Value.equal_text, beq_eq_false_iff_ne]
          intro heq
          exact distinct.1 (List.mem_map.2 ⟨row', hrow', heq.symm⟩))
      rw [List.append_assoc, List.singleton_append] at hrest
      exact bind_eq_ok_iff.2 ⟨r, hrule, bind_eq_ok_iff.2 ⟨_, hadd, hrest⟩⟩

/-- Whether a row is loaded as a policy. -/
def Loads (kinds : KindTable) (s : Store) (row : PolicyRow) (p : Policy) : Prop :=
  ∃ p₀, policyOfRow row = .ok p₀ ∧ addRows kinds p₀ (s.rulesOf row.id) = .ok p

/-- Rows are loaded one after the other. -/
theorem policiesOfRows_eq_ok_iff {s : Store} {rows : List PolicyRow} {ps : List Policy} :
    s.policiesOfRows kinds rows = .ok ps ↔ List.Forall₂ (s.Loads kinds) rows ps := by
  induction rows generalizing ps with
  | nil => rw [policiesOfRows, List.forall₂_nil_left_iff, Except.ok.injEq, eq_comm]
  | cons row rows ih =>
      rw [List.forall₂_cons_left_iff]
      constructor
      · intro h
        obtain ⟨p₀, hp₀, h⟩ := bind_eq_ok_iff.1 h
        obtain ⟨p, hp, h⟩ := bind_eq_ok_iff.1 h
        obtain ⟨rest, hrest, hps⟩ := bind_eq_ok_iff.1 h
        cases hps
        exact ⟨p, rest, ⟨p₀, lift_eq_ok_iff.1 hp₀, hp⟩, ih.1 hrest, rfl⟩
      · rintro ⟨p, rest, ⟨p₀, hp₀, hp⟩, hrest, rfl⟩
        exact bind_eq_ok_iff.2 ⟨p₀, lift_eq_ok_iff.2 hp₀, bind_eq_ok_iff.2 ⟨p, hp,
          bind_eq_ok_iff.2 ⟨rest, ih.2 hrest, rfl⟩⟩⟩

end Rows

end Store

end ConfigAudit
