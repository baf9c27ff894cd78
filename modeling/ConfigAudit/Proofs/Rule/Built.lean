/-
# Rules of documents

A document selects a kind by its type, and the kind builds the rule: it looks at the fields of the
document first, then at its id, and takes everything else as it is.

* `Kind.idOf`, `Kind.given`, `Kind.ruleWith` : what a document says about a rule;
* `Kind.build_of_accepted`, `Kind.exists_of_build` : how a kind builds a rule;
* `KindTable.kind_of_ruleOf`, `KindTable.ruleOf_of_type` : how a table selects the kind.
-/
import ConfigAudit.Proofs.Chain
import ConfigAudit.Rule.Kind

namespace ConfigAudit

namespace Kind

variable {k : Kind}

/-- The id that a document gives to its rule: 0 if it gives none. -/
def idOf (es : List (Value × Value)) : Except ValueFault Int :=
  let v := (Value.lookup (.text "id") es).getD .null
  if v.truthy then v.toInteger else .ok 0

/-- An integer is the id that it is. -/
theorem idOf_of_int {es : List (Value × Value)} {n : Int}
    (h : Value.lookup (.text "id") es = some (.int n)) : idOf es = .ok n := by
  rw [idOf, h, Option.getD_some]
  by_cases hzero : n = 0
  · rw [hzero]
    rfl
  · have htruthy : (Value.int n).truthy = true := by simpa [Value.truthy] using hzero
    rw [if_pos htruthy]
    rfl

/-- The value that a document gives for a field of its rule, or else the default. -/
def given (k : Kind) (es : List (Value × Value)) (field : String) : Value :=
  (Value.lookup (.text field) es).getD ((k.fields.lookup field).getD .null)

/-- The rule that a document makes under an id. -/
def ruleWith (k : Kind) (es : List (Value × Value)) (n : Int) : Rule :=
  ⟨.int n, (Value.lookup (.text "name") es).getD (.text ""),
    .flag ((Value.lookup (.text "enabled") es).getD (.flag false)).truthy, k.body (k.given es)⟩

/-- A document that is accepted makes a rule if its id can be read. -/
theorem build_of_accepted {es : List (Value × Value)}
    (accepted : k.checkFields (.table es) = .ok ()) :
    k.build (.table es) = match idOf es with
      | .error f => .error (.value f)
      | .ok n => .ok (k.ruleWith es n) := by
  unfold build
  rw [accepted]
  simp only [Value.getOr, Value.get]
  change (if ((Value.lookup (.text "id") es).getD .null).truthy = true then
    (_ : Except Fault Rule) else _) = _
  rw [idOf]
  by_cases htruthy : ((Value.lookup (.text "id") es).getD .null).truthy = true
  · rw [if_pos htruthy, if_pos htruthy]
    cases ((Value.lookup (.text "id") es).getD .null).toInteger <;> rfl
  · rw [if_neg htruthy, if_neg htruthy]
    rfl

/-- A rule is built from a table, under the id that this gives. -/
theorem exists_of_build {data : Value} {r : Rule} (h : k.build data = .ok r) :
    ∃ es n, data = .table es ∧ idOf es = .ok n ∧ r = k.ruleWith es n := by
  obtain ⟨_, accepted, hrest⟩ := bind_eq_ok_iff.1 h
  obtain ⟨name, hname, _⟩ := bind_eq_ok_iff.1 hrest
  have htable : ∃ es, data = .table es := by
    cases data with
    | table es => exact ⟨es, rfl⟩
    | _ => cases hname
  obtain ⟨es, rfl⟩ := htable
  rw [build_of_accepted accepted] at h
  cases hid : idOf es with
  | error f =>
      rw [hid] at h
      cases h
  | ok n =>
      rw [hid] at h
      exact ⟨es, n, rfl, hid, (Except.ok.inj h).symm⟩

end Kind

/-- A rule that is built belongs to a kind of the table. -/
theorem KindTable.kind_of_ruleOf {t : KindTable} {data : Value} {r : Rule}
    (h : t.ruleOf data = .ok r) : ∃ k ∈ t.kinds.map Prod.snd, k.build data = .ok r := by
  obtain ⟨tag, _, h⟩ := bind_eq_ok_iff.1 h
  split at h
  · obtain ⟨_, _, h⟩ := bind_eq_ok_iff.1 h
    cases h
  · obtain ⟨k, hk, hbuild⟩ := bind_eq_ok_iff.1 h
    obtain ⟨found, hfound, hk⟩ := bind_eq_ok_iff.1 hk
    obtain ⟨key, _, hfound⟩ := bind_eq_ok_iff.1 (lift_eq_ok_iff.1 hfound)
    cases found with
    | none => cases hk
    | some k' =>
        cases hk
        have hlookup : t.lookup? key = some k := Except.ok.inj hfound
        obtain ⟨e, he, rfl⟩ := Option.map_eq_some_iff.1 hlookup
        exact ⟨_, List.mem_map_of_mem (List.mem_of_find?_eq_some he), hbuild⟩

section Tables

variable {κ : Type}

/-- The kind under a text, if there is one. -/
theorem KindTable.get_text (t : KindTable κ) (tag : String) :
    t.get (.text tag) = match t.lookup? (.text tag) with
      | some k => .ok k
      | none => .error (.unknownKind (.text tag)) := by
  have hfind : t.find? (.text tag) = .ok (t.lookup? (.text tag)) := rfl
  unfold get
  rw [hfind]
  cases t.lookup? (.text tag) <;> rfl

/-- The type of a document selects a kind, which builds the rule. -/
theorem KindTable.ruleOf_of_type [RuleKind κ] (t : KindTable κ) {es : List (Value × Value)}
    {tag : String} (htype : Value.lookup (.text "type") es = some (.text tag)) (tagged : tag ≠ "") :
    t.ruleOf (.table es) = match t.lookup? (.text tag) with
      | some k => RuleKind.build k (.table es)
      | none => .error (.unknownKind (.text tag)) := by
  have hget : Value.get "type" (.table es) = .ok (.text tag) := by
    rw [Value.get, htype, Option.getD_some]
  have htruthy : (Value.text tag).truthy = true := by simpa [Value.truthy] using tagged
  have hruleOf : t.ruleOf (.table es) =
      t.get (.text tag) >>= fun k => RuleKind.build k (.table es) := by
    unfold ruleOf
    rw [hget]
    change (if (!(Value.text tag).truthy) = true then _ else _) = _
    rw [htruthy]
    rfl
  rw [hruleOf, t.get_text]
  cases t.lookup? (.text tag) <;> rfl

end Tables

end ConfigAudit
