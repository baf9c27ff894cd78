/-
# Files that devices cannot be read from

A file of devices lists their entries, or is itself the entry of a single device.  Its devices are
read, one for each entry, or it is refused with a failure of the audit, unless its reading
stumbles.  There are three ways to stumble:

* the bytes have no document, for another reason than its form;
* the document lists something that has no members;
* the first entry that does not describe a device has an infinity as its id.

Main statements: `Device.escapes_ofValue_iff` says which faults of an entry are not looked for,
`devices_answered_iff` that there are no other ways to stumble.
-/
import ConfigAudit.Proofs.Policy.Stumbling
import ConfigAudit.Proofs.Value.Texts

namespace ConfigAudit

/-- Whether a fault is a failure of the audit. -/
def Fault.isRun : Fault → Bool
  | run _ => true
  | _ => false

/-! ## Entries -/

/-- Whether a fault in the entry of a device becomes a failure of the audit. -/
def ValueFault.isReported (f : ValueFault) : Bool :=
  match f.family with
  | .key | .kind | .value => true
  | .attribute | .overflow | .index => false

/-- Faults that lie in a value are reported. -/
theorem ValueFault.isReported_of_isUnfit {f : ValueFault} (h : f.isUnfit = true) :
    f.isReported = true := by
  unfold isUnfit at h
  unfold isReported
  cases hf : f.family <;> rw [hf] at h <;> first | rfl | cases h

/-- A step that fails only on unfit values fails in reported ways only. -/
theorem IfUnfit.reported {α : Type} {x : Except ValueFault α} (hx : IfUnfit x) :
    FailsOnly (·.isReported = true) x :=
  hx.mono fun _ => ValueFault.isReported_of_isUnfit

namespace Value

/-- A member that is no pair of a key and a value is unfit to be an entry. -/
theorem unfit_entryOf (i : Nat) (v : Value) : IfUnfit (entryOf i v) := by
  unfold entryOf
  split
  · exact .error rfl
  · exact .ok _
  · exact .error rfl

/-- Entries are put into a table one after the other. -/
theorem unfit_putAll (i : Nat) (es : List (Value × Value)) (xs : List Value) :
    IfUnfit (putAll i es xs) := by
  induction xs generalizing i es with
  | nil => exact .ok _
  | cons x xs ih =>
      refine (unfit_entryOf i x).bind fun e _ => ?_
      exact (unfit_asKey e.1).bind fun k _ => ih (i + 1) _

/-- What cannot become a table is unfit for it. -/
theorem unfit_toEntries (v : Value) : IfUnfit v.toEntries := by
  have hmembers : IfUnfit (v.members >>= putAll 0 []) :=
    (unfit_members v).bind fun xs _ => unfit_putAll 0 [] xs
  cases v with
  | table es => exact .ok _
  | _ => exact hmembers

/-- What cannot be found under a name is a missing key, or is asked of a wrong kind of value. -/
theorem reported_index (name : String) (v : Value) :
    FailsOnly (·.isReported = true) (v.index name) := by
  cases v with
  | table es =>
      rw [index]
      split
      · exact .ok _
      · exact .error rfl
  | _ => exact .error rfl

/-- Only tables have anything under a name. -/
theorem table_of_index {name : String} {v w : Value} (h : v.index name = .ok w) :
    ∃ es, v = .table es := by
  cases v with
  | table es => exact ⟨es, rfl⟩
  | _ => cases h

/-- A table has something under every name, if need be the default. -/
theorem ifUnfit_getOr (es : List (Value × Value)) (name : String) (default : Value) :
    IfUnfit ((table es).getOr name default) := .ok _

/-- A value has members. -/
def isCollection : Value → Bool
  | list _ | pair _ _ | set _ | table _ | text _ | outcome _ | bytes _ => true
  | _ => false

/-- Collections have members. -/
theorem members_of_isCollection {v : Value} (h : v.isCollection = true) :
    ∃ xs, v.members = .ok xs := by
  cases v <;> first | exact ⟨_, rfl⟩ | cases h

/-- Other values do not. -/
theorem members_of_not_isCollection {v : Value} (h : v.isCollection = false) :
    v.members = .error (.notIterable v.fullKind) := by
  cases v <;> first | rfl | cases h

end Value

/-- **Faults of an entry that are not looked for.**  An entry describes a device, or its fault is
reported, unless its id is an infinity. -/
theorem Device.escapes_ofValue_iff {entry : Value} :
    Escapes (·.isReported = true) (ofValue entry) ↔
      ∃ v, entry.index "id" = .ok v ∧ v.IsInfinity := by
  rw [ofValue, (entry.reported_index "id").escapes_bind_iff]
  have hid : ∀ v : Value, Escapes (·.isReported = true) v.toInteger ↔ v.IsInfinity := fun v =>
    Value.escapes_toInteger_iff_of (fun _ => ValueFault.isReported_of_isUnfit) (by decide)
  constructor
  · rintro ⟨v, hv, h⟩
    obtain ⟨es, rfl⟩ := Value.table_of_index hv
    rcases escapes_bind_iff.1 h with h | ⟨id, _, h⟩
    · exact ⟨v, hv, (hid v).1 h⟩
    · -- behind the id only members and entries are asked for
      refine absurd h (FailsOnly.not_escapes ?_)
      refine (Value.reported_index "name" _).bind fun name _ => ?_
      refine (Value.ifUnfit_getOr es _ _).reported.bind fun driver _ => ?_
      refine (Value.ifUnfit_getOr es _ _).reported.bind fun family _ => ?_
      refine (Value.ifUnfit_getOr es _ _).reported.bind fun groups _ => ?_
      refine (Value.unfit_memberSet groups).reported.bind fun members _ => ?_
      refine (Value.ifUnfit_getOr es _ _).reported.bind fun attributes _ => ?_
      split
      · exact (Value.unfit_toEntries attributes).reported.bind fun _ _ => .ok _
      · exact FailsOnly.bind (.ok _) fun _ _ => .ok _
  · rintro ⟨v, hv, h⟩
    exact ⟨v, hv, escapes_bind_iff.2 (Or.inl ((hid v).2 h))⟩

/-- An entry that describes a device has its id. -/
theorem Device.id_of_ofValue {entry : Value} {d : Device} (h : ofValue entry = .ok d) :
    ∃ v, entry.index "id" = .ok v ∧ v.toInteger = .ok d.id := by
  obtain ⟨v, hv, h⟩ := bind_eq_ok_iff.1 h
  obtain ⟨id, hid, h⟩ := bind_eq_ok_iff.1 h
  obtain ⟨name, _, h⟩ := bind_eq_ok_iff.1 h
  obtain ⟨driver, _, h⟩ := bind_eq_ok_iff.1 h
  obtain ⟨family, _, h⟩ := bind_eq_ok_iff.1 h
  obtain ⟨groups, _, h⟩ := bind_eq_ok_iff.1 h
  obtain ⟨members, _, h⟩ := bind_eq_ok_iff.1 h
  obtain ⟨attributes, _, h⟩ := bind_eq_ok_iff.1 h
  split at h
  all_goals
    obtain ⟨entries, _, h⟩ := bind_eq_ok_iff.1 h
    cases h
    exact ⟨v, hv, hid⟩

/-- An entry that describes a device is a table. -/
theorem Device.table_of_ofValue {entry : Value} {d : Device} (h : ofValue entry = .ok d) :
    ∃ es, entry = .table es := by
  obtain ⟨v, hv, _⟩ := id_of_ofValue h
  exact Value.table_of_index hv

/-! ## Lists of entries -/

/-- A step fails with a fault that is no failure of the audit. -/
abbrev Adrift {α : Type} (x : Except Fault α) : Prop := Escapes (·.isRun = true) x

/-- An entry that describes a device is followed by the others. -/
theorem devicesOf_cons_of_ok {path : String} {entry : Value} {rest : List Value} {d : Device}
    (h : Device.ofValue entry = .ok d) : devicesOf path (entry :: rest) =
      (devicesOf path rest >>= fun ds => .ok (d :: ds)) := by
  rw [devicesOf, h]
  rfl

/-- An entry that describes none ends the reading. -/
theorem devicesOf_cons_of_error {path : String} {entry : Value} {rest : List Value}
    {f : ValueFault} (h : Device.ofValue entry = .error f) :
    devicesOf path (entry :: rest) =
      .error (if f.isReported then .run (.invalidDevice path f.message) else .value f) := by
  rw [devicesOf, h, ValueFault.isReported]
  dsimp only
  cases f.family <;> rfl

/-- Devices are read if there is one for each entry, in order. -/
theorem devicesOf_eq_ok_iff {path : String} {entries : List Value} {ds : List Device} :
    devicesOf path entries = .ok ds ↔
      List.Forall₂ (fun entry d => Device.ofValue entry = .ok d) entries ds := by
  induction entries generalizing ds with
  | nil =>
      rw [List.forall₂_nil_left_iff]
      exact ⟨fun h => by cases h; rfl, fun h => by rw [h]; rfl⟩
  | cons entry rest ih =>
      cases hentry : Device.ofValue entry with
      | error f =>
          rw [devicesOf_cons_of_error hentry]
          refine iff_of_false nofun fun h => ?_
          cases h with
          | cons hd _ => cases hentry.symm.trans hd
      | ok d =>
          rw [devicesOf_cons_of_ok hentry, bind_eq_ok_iff]
          constructor
          · rintro ⟨ds', hrest, h⟩
            cases h
            exact .cons hentry (ih.1 hrest)
          · intro h
            cases h with
            | cons hd hrest =>
                cases hentry.symm.trans hd
                exact ⟨_, ih.2 hrest, rfl⟩

/-- Of some entries, the first one that does not describe a device has an infinity as its id. -/
def NameInfinity (entries : List Value) : Prop :=
  ∃ before entry after v, entries = before ++ entry :: after ∧
    (∀ e ∈ before, ∃ d, Device.ofValue e = .ok d) ∧ entry.index "id" = .ok v ∧ v.IsInfinity

/-- An entry behind one that describes a device is found as before. -/
theorem nameInfinity_cons_of_ok {entry : Value} {rest : List Value} {d : Device}
    (h : Device.ofValue entry = .ok d) : NameInfinity (entry :: rest) ↔ NameInfinity rest := by
  constructor
  · rintro ⟨before, e, after, v, hsplit, hbefore, hv, hinfinite⟩
    cases before with
    | nil =>
        -- the first entry is read, so its id is no infinity
        cases hsplit
        obtain ⟨w, hw, hid⟩ := Device.id_of_ofValue h
        cases hv.symm.trans hw
        rw [Value.toInteger_of_isInfinity hinfinite] at hid
        cases hid
    | cons b before =>
        cases hsplit
        obtain ⟨_, hbefore⟩ := List.forall_mem_cons.1 hbefore
        exact ⟨before, e, after, v, rfl, hbefore, hv, hinfinite⟩
  · rintro ⟨before, e, after, v, rfl, hbefore, hv, hinfinite⟩
    exact ⟨entry :: before, e, after, v, rfl, List.forall_mem_cons.2 ⟨⟨d, h⟩, hbefore⟩, hv,
      hinfinite⟩

/-- An entry that does not describe a device is the first one if it stands first. -/
theorem nameInfinity_cons_of_error {entry : Value} {rest : List Value} {f : ValueFault}
    (h : Device.ofValue entry = .error f) :
    NameInfinity (entry :: rest) ↔ ∃ v, entry.index "id" = .ok v ∧ v.IsInfinity := by
  constructor
  · rintro ⟨before, e, after, v, hsplit, hbefore, hv, hinfinite⟩
    cases before with
    | nil =>
        cases hsplit
        exact ⟨v, hv, hinfinite⟩
    | cons b before =>
        cases hsplit
        obtain ⟨⟨d, hd⟩, _⟩ := List.forall_mem_cons.1 hbefore
        cases h.symm.trans hd
  · rintro ⟨v, hv, hinfinite⟩
    exact ⟨[], entry, rest, v, rfl, List.forall_mem_nil _, hv, hinfinite⟩

/-- Devices are read, or refused with a failure of the audit, up to the first entry that does not
describe one; its id may be an infinity. -/
theorem adrift_devicesOf_iff {path : String} {entries : List Value} :
    Adrift (devicesOf path entries) ↔ NameInfinity entries := by
  induction entries with
  | nil =>
      refine iff_of_false (FailsOnly.ok []).not_escapes ?_
      rintro ⟨before, entry, after, v, hsplit, _⟩
      exact List.cons_ne_nil _ _ (List.append_eq_nil_iff.1 hsplit.symm).2
  | cons entry rest ih =>
      cases hentry : Device.ofValue entry with
      | ok d =>
          rw [devicesOf_cons_of_ok hentry, nameInfinity_cons_of_ok hentry, ← ih, Adrift,
            escapes_bind_iff]
          refine or_iff_left ?_
          rintro ⟨ds, _, h⟩
          exact (FailsOnly.ok _).not_escapes h
      | error f =>
          have hescapes : Escapes (·.isReported = true) (Device.ofValue entry) ↔
              ¬ f.isReported = true := by rw [hentry, escapes_error_iff]
          rw [devicesOf_cons_of_error hentry, nameInfinity_cons_of_error hentry,
            ← Device.escapes_ofValue_iff, hescapes, Adrift, escapes_error_iff]
          cases f.isReported <;> simp [Fault.isRun]

/-! ## Documents -/

/-- The entries that a document holds: those that it lists, or the only one that it is. -/
inductive Value.HoldsEntries : Value → List Value → Prop where
  /-- It lists them; nothing at all is an empty list. -/
  | listed {es : List (Value × Value)} {v : Value} {entries : List Value}
      (field : lookup (.text "devices") es = some v) (members : (orEmpty v).members = .ok entries) :
      HoldsEntries (.table es) entries
  /-- It is one. -/
  | single {es : List (Value × Value)} (field : lookup (.text "devices") es = none) :
      HoldsEntries (.table es) [.table es]

/-- Reading the devices of a document stumbles. -/
inductive StumblesAtDevices (data : Value) : Prop where
  /-- What it lists has no members. -/
  | list {es : List (Value × Value)} {v : Value} (table : data = .table es)
      (field : Value.lookup (.text "devices") es = some v) (given : v.truthy = true)
      (scalar : v.isCollection = false)
  /-- The first entry that does not describe a device has an infinity as its id. -/
  | entry {entries : List Value} (held : data.HoldsEntries entries) (infinity : NameInfinity entries)

/-- What is given has members, or is no collection; nothing at all has none. -/
theorem adrift_members_orEmpty_iff {v : Value} :
    Adrift (liftM (orEmpty v).members : Except Fault (List Value)) ↔
      v.truthy = true ∧ v.isCollection = false := by
  unfold orEmpty
  split
  · rename_i given
    rw [given, eq_self, true_and]
    cases hv : v.isCollection with
    | true =>
        obtain ⟨xs, hxs⟩ := Value.members_of_isCollection hv
        rw [hxs]
        exact iff_of_false (FailsOnly.ok xs).not_escapes Bool.noConfusion
    | false =>
        rw [Value.members_of_not_isCollection hv]
        exact iff_of_true (escapes_error_iff.2 Bool.false_ne_true) rfl
  · rename_i given
    exact iff_of_false (FailsOnly.ok []).not_escapes fun h => given h.1

/-- The devices of a document are read if there is one for each of its entries, in order. -/
theorem devicesIn_eq_ok_iff {path : String} {data : Value} {ds : List Device} :
    devicesIn path data = .ok ds ↔ ∃ entries, data.HoldsEntries entries ∧
      List.Forall₂ (fun entry d => Device.ofValue entry = .ok d) entries ds := by
  unfold devicesIn
  split
  · rename_i es
    split
    · rename_i v field
      rw [bind_eq_ok_iff]
      constructor
      · rintro ⟨entries, members, h⟩
        exact ⟨entries, .listed field (lift_eq_ok_iff.1 members), devicesOf_eq_ok_iff.1 h⟩
      · rintro ⟨entries, held, h⟩
        cases held with
        | listed field' members =>
            cases field.symm.trans field'
            exact ⟨entries, lift_eq_ok_iff.2 members, devicesOf_eq_ok_iff.2 h⟩
        | single field' => cases field.symm.trans field'
    · rename_i field
      rw [devicesOf_eq_ok_iff]
      constructor
      · intro h
        exact ⟨_, .single field, h⟩
      · rintro ⟨entries, held, h⟩
        cases held with
        | listed field' => cases field.symm.trans field'
        | single => exact h
  · rename_i hother
    refine iff_of_false nofun ?_
    rintro ⟨entries, held, _⟩
    cases held with
    | listed => exact hother _ rfl
    | single => exact hother _ rfl

/-- The devices of a document are read, or refused with a failure of the audit, unless their
reading stumbles. -/
theorem adrift_devicesIn_iff {path : String} {data : Value} :
    Adrift (devicesIn path data) ↔ StumblesAtDevices data := by
  unfold devicesIn
  split
  · rename_i es
    split
    · rename_i v field
      rw [Adrift, escapes_bind_iff, ← Adrift, adrift_members_orEmpty_iff]
      constructor
      · rintro (⟨given, scalar⟩ | ⟨entries, members, h⟩)
        · exact .list rfl field given scalar
        · exact .entry (.listed field (lift_eq_ok_iff.1 members)) (adrift_devicesOf_iff.1 h)
      · rintro (⟨table, field', given, scalar⟩ | ⟨held, infinity⟩)
        · cases table
          cases field.symm.trans field'
          exact Or.inl ⟨given, scalar⟩
        · cases held with
          | listed field' members =>
              cases field.symm.trans field'
              exact Or.inr ⟨_, lift_eq_ok_iff.2 members, adrift_devicesOf_iff.2 infinity⟩
          | single field' => cases field.symm.trans field'
    · rename_i field
      rw [adrift_devicesOf_iff]
      constructor
      · intro h
        exact .entry (.single field) h
      · rintro (⟨table, field', _, _⟩ | ⟨held, infinity⟩)
        · cases table
          cases field.symm.trans field'
        · cases held with
          | listed field' => cases field.symm.trans field'
          | single => exact infinity
  · rename_i hother
    refine iff_of_false (fun h => escapes_error_iff.1 h rfl) ?_
    rintro (⟨table, _, _, _⟩ | ⟨held, _⟩)
    · exact hother _ table
    · cases held with
      | listed => exact hother _ rfl
      | single => exact hother _ rfl

/-! ## Files -/

/-- The bytes of a file have no document, for another reason than its form. -/
inductive Undocumented (bytes : List UInt8) : Prop where
  /-- The bytes are no text. -/
  | encoding {f : Utf8Fault} (text : readTextFile bytes = .error f)
  /-- An escaped number in the document is no character. -/
  | codePoint {cs : List Char} {n : Nat} (text : readTextFile bytes = .ok cs)
      (document : Yaml.readDocument cs = .error (.malformed (.codePoint n)))
  /-- A scalar is not what its tag says. -/
  | scalar {cs : List Char} {f : ValueFault} (text : readTextFile bytes = .ok cs)
      (document : Yaml.readDocument cs = .error (.value f))
  /-- A date does not exist. -/
  | date {cs : List Char} {f : MomentFault} (text : readTextFile bytes = .ok cs)
      (document : Yaml.readDocument cs = .error (.moment f))

/-- The bytes of a file have a document. -/
structure Documents (bytes : List UInt8) (cs : List Char) (data : Value) : Prop where
  /-- They are a text. -/
  text : readTextFile bytes = .ok cs
  /-- The document is what the text says. -/
  document : Yaml.readDocument cs = .ok data

section Files

variable {files : Files} {path : String} {bytes : List UInt8}

/-- What is loaded from a file is its document. -/
theorem loadDocument_eq_ok_iff (found : files (tidyPath path) = some (.file bytes)) {data : Value} :
    loadDocument files path = .ok data ↔ ∃ cs, Documents bytes cs data := by
  rw [loadDocument_found found, readFile]
  cases text : readTextFile bytes with
  | error f =>
      refine iff_of_false (by simp) ?_
      rintro ⟨cs, text', _⟩
      cases text.symm.trans text'
  | ok cs =>
      dsimp only
      have hdocument : (∃ cs', Documents bytes cs' data) ↔ Yaml.readDocument cs = .ok data := by
        constructor
        · rintro ⟨cs', text', document⟩
          cases text.symm.trans text'
          exact document
        · intro document
          exact ⟨cs, text, document⟩
      rw [hdocument]
      cases document : Yaml.readDocument cs with
      | ok data' => simp
      | error e =>
          refine iff_of_false (fun h => ?_) (by simp)
          cases e with
          | value | moment => cases h
          | malformed y => cases y <;> cases h

/-- A file is loaded, or refused with a failure of the audit, unless its bytes have no document for
another reason than its form. -/
theorem adrift_loadDocument_iff (found : files (tidyPath path) = some (.file bytes)) :
    Adrift (loadDocument files path) ↔ Undocumented bytes := by
  rw [loadDocument_found found, readFile]
  cases text : readTextFile bytes with
  | error f => exact iff_of_true (escapes_error_iff.2 Bool.false_ne_true) (.encoding text)
  | ok cs =>
      dsimp only
      -- what stands against the four reasons, once the document has been read
      have hdocumented : (∀ n, Yaml.readDocument cs ≠ .error (.malformed (.codePoint n))) →
          (∀ f, Yaml.readDocument cs ≠ .error (.value f)) →
          (∀ f, Yaml.readDocument cs ≠ .error (.moment f)) → ¬ Undocumented bytes := by
        rintro hpoint hvalue hmoment (text' | ⟨text', document⟩ | ⟨text', document⟩ |
          ⟨text', document⟩) <;> cases text.symm.trans text'
        · exact hpoint _ document
        · exact hvalue _ document
        · exact hmoment _ document
      cases document : Yaml.readDocument cs with
      | ok data =>
          rw [document] at hdocumented
          exact iff_of_false (FailsOnly.ok data).not_escapes
            (hdocumented (by simp) (by simp) (by simp))
      | error e =>
          rw [document] at hdocumented
          cases e with
          | value f =>
              exact iff_of_true (escapes_error_iff.2 Bool.false_ne_true) (.scalar text document)
          | moment f =>
              exact iff_of_true (escapes_error_iff.2 Bool.false_ne_true) (.date text document)
          | malformed y =>
              cases y with
              | codePoint n =>
                  exact iff_of_true (escapes_error_iff.2 Bool.false_ne_true)
                    (.codePoint text document)
              | marked | character =>
                  exact iff_of_false (fun h => escapes_error_iff.1 h rfl)
                    (hdocumented (by simp) (by simp) (by simp))

/-- The devices of a file are those of its document. -/
theorem loadDevices_of_documents (found : files (tidyPath path) = some (.file bytes))
    {cs : List Char} {data : Value} (h : Documents bytes cs data) :
    loadDevices files path = devicesIn path data := by
  rw [loadDevices, (loadDocument_eq_ok_iff found).2 ⟨cs, h⟩]
  rfl

/-- Loading the devices of a file ends with a fault that is no failure of the audit if the file
cannot be loaded, or if the reading of its document stumbles. -/
theorem adrift_loadDevices_iff (found : files (tidyPath path) = some (.file bytes)) :
    Adrift (loadDevices files path) ↔
      Undocumented bytes ∨ ∃ cs data, Documents bytes cs data ∧ StumblesAtDevices data := by
  rw [loadDevices, Adrift, escapes_bind_iff, ← Adrift, adrift_loadDocument_iff found]
  refine or_congr_right ?_
  constructor
  · rintro ⟨data, hdata, h⟩
    obtain ⟨cs, hcs⟩ := (loadDocument_eq_ok_iff found).1 hdata
    exact ⟨cs, data, hcs, adrift_devicesIn_iff.1 h⟩
  · rintro ⟨cs, data, hcs, h⟩
    exact ⟨data, (loadDocument_eq_ok_iff found).2 ⟨cs, hcs⟩, adrift_devicesIn_iff.2 h⟩

/-- **Files of devices that have an answer.**  The devices of a file are loaded, or refused with a
failure of the audit, exactly if its bytes have a document, or none because of its form, and the
reading of that document does not stumble.  Loaded devices are one for each entry of the document,
in order, and have the integers that the entries give as their ids. -/
theorem devices_answered_iff (found : files (tidyPath path) = some (.file bytes)) :
    (((∃ ds, loadDevices files path = .ok ds) ∨
        ∃ cause, loadDevices files path = .error (.run cause)) ↔
      ¬ Undocumented bytes ∧ ∀ cs data, Documents bytes cs data → ¬ StumblesAtDevices data) ∧
    ∀ ds, loadDevices files path = .ok ds → ∃ cs data entries, Documents bytes cs data ∧
      data.HoldsEntries entries ∧ List.Forall₂ (fun entry d =>
        Device.ofValue entry = .ok d ∧ ∃ v, entry.index "id" = .ok v ∧ v.toInteger = .ok d.id)
        entries ds := by
  constructor
  · have hadrift : ((∃ ds, loadDevices files path = .ok ds) ∨
        ∃ cause, loadDevices files path = .error (.run cause)) ↔
        ¬ Adrift (loadDevices files path) := by
      cases hload : loadDevices files path with
      | ok ds => exact iff_of_true (Or.inl ⟨ds, rfl⟩) (FailsOnly.ok ds).not_escapes
      | error f =>
          rw [Adrift, escapes_error_iff, not_not]
          cases f <;> simp [Fault.isRun]
    rw [hadrift, adrift_loadDevices_iff found, not_or]
    refine and_congr_right fun _ => ?_
    constructor
    · intro h cs data hdata hstumbles
      exact h ⟨cs, data, hdata, hstumbles⟩
    · rintro h ⟨cs, data, hdata, hstumbles⟩
      exact h cs data hdata hstumbles
  · intro ds h
    obtain ⟨data, hdata, h⟩ := bind_eq_ok_iff.1 h
    obtain ⟨cs, hcs⟩ := (loadDocument_eq_ok_iff found).1 hdata
    obtain ⟨entries, held, hentries⟩ := devicesIn_eq_ok_iff.1 h
    refine ⟨cs, data, entries, hcs, held, hentries.imp fun entry d hd => ⟨hd, ?_⟩⟩
    exact Device.id_of_ofValue hd

end Files

/-- A file alone. -/
def onlyDevices (text : String) : Files := fun path =>
  if path = "d.yaml" then some (.file text.toUTF8.data.toList) else none

/-- The file is there. -/
theorem found_onlyDevices (text : String) :
    onlyDevices text (tidyPath "d.yaml") = some (.file text.toUTF8.data.toList) := by
  have hpath : tidyPath "d.yaml" = "d.yaml" := by decide +kernel
  rw [hpath]
  rfl

/-- Two devices, the ids of which are a text and a fraction. -/
def twoDevices : String := "devices:\n- id: '7'\n  name: edge\n- id: 8.9\n  name: core\n"

/-- The two devices are loaded, so reading their file does not stumble. -/
theorem answered_of_twoDevices :
    (∃ ds, loadDevices (onlyDevices twoDevices) "d.yaml" = .ok ds ∧ ds.map Device.id = [7, 8]) ∧
      ¬ Undocumented twoDevices.toUTF8.data.toList ∧
      ∀ cs data, Documents twoDevices.toUTF8.data.toList cs data → ¬ StumblesAtDevices data := by
  have hids : ((loadDevices (onlyDevices twoDevices) "d.yaml").toOption.map fun ds =>
      ds.map Device.id) = some [7, 8] := by decide +kernel
  have hload : ∃ ds, loadDevices (onlyDevices twoDevices) "d.yaml" = .ok ds ∧
      ds.map Device.id = [7, 8] := by
    cases h : loadDevices (onlyDevices twoDevices) "d.yaml" with
    | error f =>
        rw [h] at hids
        cases hids
    | ok ds =>
        rw [h] at hids
        exact ⟨ds, rfl, Option.some.inj hids⟩
  obtain ⟨ds, hds, hids⟩ := hload
  exact ⟨⟨ds, hds, hids⟩, (devices_answered_iff (found_onlyDevices twoDevices)).1.1 (Or.inl ⟨ds, hds⟩)⟩

/-- A device whose id is an infinity. -/
def endlessDevice : String := "id: .inf\nname: edge\n"

/-- Whether a text is the document of a single device whose id is an infinity. -/
def isEndless (cs : List Char) : Bool :=
  match Yaml.readDocument cs with
  | .ok (.table [(.text "id", .float x), (.text "name", .text _)]) =>
      Decimal.Binary.ofFloat x == .infinite false
  | _ => false

/-- The document of such a text is refused, but not as a failure of the audit. -/
theorem devicesIn_of_isEndless {cs : List Char} (h : isEndless cs = true) :
    ∃ data, Yaml.readDocument cs = .ok data ∧
      ∀ path, devicesIn path data = .error (.value .integerInfinite) := by
  unfold isEndless at h
  split at h
  · rename_i x name document
    refine ⟨_, document, fun path => ?_⟩
    have hid : (Value.float x).toInteger = .error .integerInfinite :=
      Value.toInteger_of_isInfinity ⟨x, false, rfl, beq_iff_eq.1 h⟩
    have hindex : (Value.table [(.text "id", .float x), (.text "name", .text name)]).index "id" =
        .ok (.float x) := by simp [Value.index, Value.lookup]
    have hentry : Device.ofValue (.table [(.text "id", .float x), (.text "name", .text name)]) =
        .error .integerInfinite := by
      rw [Device.ofValue, hindex]
      exact bind_eq_error_iff.2 (Or.inr ⟨_, rfl, bind_eq_error_iff.2 (Or.inl hid)⟩)
    have hsingle : Value.lookup (.text "devices")
        [(.text "id", .float x), (.text "name", .text name)] = none := by simp [Value.lookup]
    simp only [devicesIn, hsingle]
    exact devicesOf_cons_of_error hentry
  · cases h

/-- The text of a file is read as it stands. -/
theorem text_of_endlessDevice :
    readTextFile endlessDevice.toUTF8.data.toList = .ok endlessDevice.toList :=
  eq_ok_of_toOption (by decide +kernel)

/-- Not every file that holds a document is loaded or refused with a failure of the audit: an
infinity as the id of a device is no such failure, nor is a number in place of the devices. -/
theorem not_every_device_file_answered :
    ¬ (∀ (files : Files) (path : String) (bytes : List UInt8) (cs : List Char) (data : Value),
        files (tidyPath path) = some (.file bytes) → Documents bytes cs data →
        (∃ ds, loadDevices files path = .ok ds) ∨
          ∃ cause, loadDevices files path = .error (.run cause)) ∧
      loadDevices (onlyDevices endlessDevice) "d.yaml" = .error (.value .integerInfinite) ∧
      ∀ path, devicesIn path (.record [("devices", .int 5)]) =
        .error (.value (.notIterable "int")) := by
  have hendless : isEndless endlessDevice.toList = true := by decide +kernel
  obtain ⟨data, document, hdata⟩ := devicesIn_of_isEndless hendless
  have hdocuments : Documents endlessDevice.toUTF8.data.toList endlessDevice.toList data :=
    ⟨text_of_endlessDevice, document⟩
  have hload : loadDevices (onlyDevices endlessDevice) "d.yaml" =
      .error (.value .integerInfinite) := by
    rw [loadDevices_of_documents (found_onlyDevices endlessDevice) hdocuments, hdata]
  have hnumber : Value.lookup (.text "devices") [(.text "devices", .int 5)] = some (.int 5) := by
    simp [Value.lookup]
  refine ⟨fun answered => ?_, hload, fun path => ?_⟩
  · rcases answered _ _ _ _ _ (found_onlyDevices endlessDevice) hdocuments with
      ⟨ds, hds⟩ | ⟨cause, hcause⟩
    · cases hload.symm.trans hds
    · cases hload.symm.trans hcause
  · simp only [devicesIn, Value.record, List.map_cons, List.map_nil, hnumber]
    rfl

end ConfigAudit
