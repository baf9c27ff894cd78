/-
# Rules and their documents

A rule is written as a document, and built from one, by the same list of fields.  So the document
of a rule that has been built is accepted and makes this rule again, and a document makes a rule
that keeps what it says, unless it has a field that the kind of the rule does not know.

* `Rule.entries` : the document of a rule, field by field;
* `KindTable.ruleOf_record` : building a rule from its own document;
* `Kind.Foreign`, `Kind.Keeps` : fields that are refused, and rules that keep a document;
* `KindTable.documents_kept` : the documents of rules, and the rules of documents.
-/
import ConfigAudit.Proofs.Store.Contained

namespace ConfigAudit

/-! ## Fields of a body -/

namespace Kind

variable {k : Kind}

/-- What a rule keeps of the value of a field: a context or a driver that is not set counts as
none. -/
def kept (name : String) (v : Value) : Value :=
  if name = "context" ∨ name = "driver" then orNothing v else v

/-- What counts as none still does so later. -/
theorem orNothing_orNothing (v : Value) : orNothing (orNothing v) = orNothing v := by
  unfold orNothing
  cases h : v.truthy with
  | true => rw [if_pos rfl, if_pos h]
  | false => rfl

/-- A body has the tag of its kind, whatever its fields are. -/
theorem tag_body (k : Kind) (field : String → Value) : (k.body field).tag = k.tag := by
  cases k <;> rfl

/-- A body has the title of its kind, whatever its fields are. -/
theorem title_body (k : Kind) (field : String → Value) : (k.body field).title = k.title := by
  rcases k with _ | _ | (_ | _) | _ | _ | _ | _ | _ | _ <;> rfl

/-- The fields of a body are those of its kind, with what is kept of their values. -/
theorem fields_body (k : Kind) (field : String → Value) :
    (k.body field).fields = k.fields.map fun f => (f.1, kept f.1 (field f.1)) := by
  cases k <;> simp [body, Body.fields, fields, kept]

/-- What is kept of the values of its fields makes the same body. -/
theorem body_kept (k : Kind) (field : String → Value) :
    (k.body fun name => kept name (field name)) = k.body field := by
  cases k <;> simp [body, kept, orNothing_orNothing]

/-- The default of a field is found under its name. -/
theorem lookup_fields (k : Kind) : ∀ f ∈ k.fields, k.fields.lookup f.1 = some f.2 := by
  cases k <;> simp [fields, List.lookup_cons]

end Kind

/-! ## Building again -/

section Again

variable {k : Kind} {r : Rule} {field : String → Value}

/-- The fields in the document of a rule. -/
def Rule.entries (r : Rule) : List (String × Value) :=
  [("type", .text r.body.tag), ("id", r.id), ("name", r.name), ("enabled", r.enabled)] ++
    r.body.fields

/-- The names in the document of a rule are those that its kind knows. -/
theorem Rule.names_entries (body : r.body = k.body field) :
    r.entries.map Prod.fst = Kind.commonFields ++ k.fields.map Prod.fst := by
  rw [entries, body, Kind.fields_body, List.map_append, List.map_map]
  rfl

/-- A field in the document of a rule is found under its name. -/
theorem Rule.lookup_entries (hk : k ∈ KindTable.builtins) (body : r.body = k.body field) :
    ∀ f ∈ r.entries,
      Value.lookup (.text f.1) (r.entries.map fun f => (.text f.1, f.2)) = some f.2 := by
  intro f hf
  refine Value.lookup_of_mem ?_ hf
  rw [names_entries body]
  exact List.nodup_append_comm.1 (Kind.nodup_fields hk)

/-- The document of a rule is accepted by its kind. -/
theorem Rule.accepted_record (body : r.body = k.body field) :
    k.checkFields r.record = .ok () := by
  have hmembers : r.record.members =
      .ok ((Kind.commonFields ++ k.fields.map Prod.fst).map .text) := by
    rw [← names_entries body, List.map_map]
    exact congrArg Except.ok List.map_map
  refine Kind.checkFields_of_members hmembers (Value.isText_of_mem_map _) ?_
  rw [List.forall_mem_map]
  intro name hname
  exact Kind.knows_text (List.mem_append.2 (List.mem_append.1 hname).symm)

/-- A rule of a known kind is built from its own document, if it has an integer id and is switched
on or off. -/
theorem KindTable.ruleOf_record {n : Int} {b : Bool} (hk : k ∈ builtins) (id : r.id = .int n)
    (enabled : r.enabled = .flag b) (body : r.body = k.body field) :
    standard.ruleOf r.record = .ok r := by
  let es : List (Value × Value) := r.entries.map fun f => (.text f.1, f.2)
  have hrecord : r.record = .table es := rfl
  obtain ⟨hcommon, hfields⟩ := List.forall_mem_append.1 (Rule.lookup_entries hk body)
  simp only [List.forall_mem_cons] at hcommon
  obtain ⟨htype, hid, hname, henabled, _⟩ := hcommon
  rw [body, Kind.tag_body] at htype
  have haccepted : k.checkFields (.table es) = .ok () := Rule.accepted_record body
  -- a context or a driver that counts as none still counts as none
  have hbody : k.body (k.given es) = r.body := by
    rw [body, ← k.body_kept field]
    refine Kind.body_congr fun name hmem => ?_
    obtain ⟨f, hf, rfl⟩ := List.mem_map.1 hmem
    have hkept : (f.1, Kind.kept f.1 (field f.1)) ∈ r.body.fields := by
      rw [body, Kind.fields_body]
      exact List.mem_map_of_mem hf
    rw [Kind.given, hfields _ hkept, Option.getD_some]
  rw [hrecord, ruleOf_standard hk htype, Kind.build_of_accepted haccepted,
    Kind.idOf_of_int (hid.trans (congrArg some id))]
  dsimp only [Kind.ruleWith]
  rw [hname, henabled, hbody, Option.getD_some, Option.getD_some, enabled, Value.truthy, ← id,
    ← enabled]

end Again

/-! ## Documents and rules -/

namespace Kind

/-- A key of a document names none of the fields that a rule of the kind has. -/
def Foreign (k : Kind) (x : Value) : Prop :=
  ∀ name ∈ commonFields ++ k.fields.map Prod.fst, x.asText? ≠ some name

/-- A rule of the kind keeps what a document says, under an id. -/
structure Keeps (k : Kind) (es : List (Value × Value)) (n : Int) (r : Rule) : Prop where
  /-- It has the id. -/
  id : r.id = .int n
  /-- It has the name, or none. -/
  name : r.name = (Value.lookup (.text "name") es).getD (.text "")
  /-- It is switched on if the document says so. -/
  enabled : r.enabled = .flag ((Value.lookup (.text "enabled") es).getD (.flag false)).truthy
  /-- It belongs to the kind. -/
  title : r.body.title = k.title
  /-- It keeps the value of every field of the kind, or the default of a field that is missing. -/
  fields : r.body.fields =
    k.fields.map fun f => (f.1, kept f.1 ((Value.lookup (.text f.1) es).getD f.2))

variable {k : Kind}

/-- Of keys that are texts a kind knows those that are not foreign to it. -/
theorem knows_eq_false_iff {x : Value} (hx : x.isText = true) :
    k.knows x = false ↔ k.Foreign x := by
  rw [knows, List.any_eq_false]
  refine forall₂_congr fun name _ => ?_
  rw [Value.equal_iff_of_isText rfl hx, ne_comm]
  rfl

/-- The rule of a document keeps what the document says. -/
theorem keeps_ruleWith (k : Kind) (es : List (Value × Value)) (n : Int) :
    k.Keeps es n (k.ruleWith es n) := by
  refine ⟨rfl, rfl, rfl, k.title_body (k.given es), ?_⟩
  refine (k.fields_body (k.given es)).trans (List.map_congr_left fun f hf => ?_)
  rw [given, k.lookup_fields f hf, Option.getD_some]

end Kind

/-- **Documents and rules.**  From the document of a rule that has been built this very rule is
built again; it equals itself, and its id can be a key.  A document of a known type whose keys are
texts is refused if one of them is foreign to the kind.  Otherwise it makes a rule that keeps what
it says, unless its id cannot be read. -/
theorem KindTable.documents_kept :
    (∀ data r, standard.ruleOf data = .ok r →
      standard.ruleOf r.record = .ok r ∧ r.same r = true ∧ r.id.unhashable? = none) ∧
    ∀ k ∈ builtins, ∀ es : List (Value × Value), (∀ e ∈ es, e.1.isText = true) →
      Value.lookup (.text "type") es = some (.text k.tag) →
      ((∃ e ∈ es, k.Foreign e.1) → ∃ names, standard.ruleOf (.table es) =
        .error (.rule (.unknownFields k.tag names)
          ((Value.lookup (.text "name") es).getD .null))) ∧
      ((∀ e ∈ es, ¬ k.Foreign e.1) →
        (∀ n, Kind.idOf es = .ok n → ∃ r, standard.ruleOf (.table es) = .ok r ∧ k.Keeps es n r) ∧
        ∀ f, Kind.idOf es = .error f → standard.ruleOf (.table es) = .error (.value f)) := by
  refine ⟨fun data r h => ?_, fun k hk es texts htype => ⟨?_, fun known => ?_⟩⟩
  · obtain ⟨k, hmem, hbuild⟩ := kind_of_ruleOf h
    have hkinds : standard.kinds.map Prod.snd = builtins := by decide
    obtain ⟨es, n, -, -, rfl⟩ := Kind.exists_of_build hbuild
    have hk : k ∈ builtins := hkinds ▸ hmem
    have hbody : (k.ruleWith es n).body = k.body (k.given es) := rfl
    refine ⟨ruleOf_record hk rfl rfl hbody, ?_, rfl⟩
    simp [Rule.same, Kind.ruleWith]
  · rintro ⟨e, he, foreign⟩
    have hunknown := (Kind.knows_eq_false_iff (texts e he)).2 foreign
    obtain ⟨names, hrefused⟩ :=
      Kind.checkFields_of_unknown texts (List.mem_map_of_mem he) hunknown
    refine ⟨names, ?_⟩
    rw [ruleOf_standard hk htype]
    exact bind_eq_error_iff.2 (Or.inl hrefused)
  · have hknown : ∀ e ∈ es, k.knows e.1 = true := by
      intro e he
      rw [← Bool.not_eq_false, Kind.knows_eq_false_iff (texts e he)]
      exact known e he
    have haccepted : k.checkFields (.table es) = .ok () :=
      Kind.checkFields_of_members rfl (List.forall_mem_map.2 texts) (List.forall_mem_map.2 hknown)
    rw [ruleOf_standard hk htype, Kind.build_of_accepted haccepted]
    constructor
    · intro n hid
      rw [hid]
      exact ⟨_, rfl, k.keeps_ruleWith es n⟩
    · intro f hid
      rw [hid]

/-- The document of a text rule with an id and a context. -/
def bannerEntries (id : Value) : List (Value × Value) :=
  [(.text "type", .text "text"), (.text "id", id), (.text "text", .text "motd"),
    (.text "context", .text "")]

/-- A text rule whose context is empty keeps its document, and is built again from its own.  With
another field the document is refused, and with a list as the id as well. -/
theorem KindTable.documents_kept_of_banner :
    (∃ r, standard.ruleOf (.table (bannerEntries (.int 7))) = .ok r ∧
      Kind.text.Keeps (bannerEntries (.int 7)) 7 r ∧ standard.ruleOf r.record = .ok r) ∧
    (∃ names, standard.ruleOf (.table ((.text "colour", .null) :: bannerEntries (.int 7))) =
      .error (.rule (.unknownFields "text" names) .null)) ∧
    standard.ruleOf (.table (bannerEntries (.list [.null]))) =
      .error (.value (.integerKind "list")) := by
  obtain ⟨again, kept⟩ := documents_kept
  have hk : Kind.text ∈ builtins := by decide
  have hforeign : Kind.text.Foreign (.text "colour") := by
    simp [Kind.Foreign, Kind.commonFields, Kind.fields, Value.asText?]
  have hknown : ∀ id, ∀ e ∈ bannerEntries id, ¬ Kind.text.Foreign e.1 := by
    simp [bannerEntries, Kind.Foreign, Kind.commonFields, Kind.fields, Value.asText?]
  have htexts : ∀ id, ∀ e ∈ bannerEntries id, e.1.isText = true := by
    simp [bannerEntries, Value.isText, Value.asText?]
  have htype : ∀ id, Value.lookup (.text "type") (bannerEntries id) = some (.text "text") := by
    simp [bannerEntries, Value.lookup]
  have hid : ∀ id, Value.lookup (.text "id") (bannerEntries id) = some id := by
    simp [bannerEntries, Value.lookup]
  refine ⟨?_, ?_, ?_⟩
  · obtain ⟨hkept, _⟩ := (kept _ hk _ (htexts (.int 7)) (htype _)).2 (hknown _)
    obtain ⟨r, hr, hkeeps⟩ := hkept 7 (Kind.idOf_of_int (hid _))
    exact ⟨r, hr, hkeeps, (again _ r hr).1⟩
  · have htexts' : ∀ e ∈ (.text "colour", .null) :: bannerEntries (.int 7), e.1.isText = true :=
      List.forall_mem_cons.2 ⟨rfl, htexts _⟩
    have htype' : Value.lookup (.text "type") ((.text "colour", .null) :: bannerEntries (.int 7)) =
        some (.text "text") := by
      simp [bannerEntries, Value.lookup]
    have hname : Value.lookup (.text "name") ((.text "colour", .null) :: bannerEntries (.int 7)) =
        none := by
      simp [bannerEntries, Value.lookup]
    obtain ⟨names, hrefused⟩ :=
      (kept _ hk _ htexts' htype').1 ⟨_, List.mem_cons_self, hforeign⟩
    rw [hname] at hrefused
    exact ⟨names, hrefused⟩
  · obtain ⟨_, hrefused⟩ := (kept _ hk _ (htexts (.list [.null])) (htype _)).2 (hknown _)
    refine hrefused (.integerKind "list") ?_
    rw [Kind.idOf, hid]
    rfl

end ConfigAudit
